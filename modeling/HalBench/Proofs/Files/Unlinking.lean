import HalBench.Proofs.Files.Walk
import Mathlib.Data.List.Basic

/-! Removing a file under a path that ends in a single name. Whatever directories and links are on
the way, the file has that name, so the files of other names are not touched. -/

namespace HalBench.Files

/-- The name of a file in a directory, which no walk takes for anything else. -/
structure SingleName (name : Bytes) : Prop where
  noSlash : Path.slash ∉ name
  noNul : 0 ∉ name
  notEmpty : name ≠ []
  notHere : name ≠ here
  notAbove : name ≠ above

theorem SingleName.proper {name : Bytes} (single : SingleName name)
    (short : name.length ≤ maxName) : Tree.Proper name :=
  ⟨single.notHere, single.notEmpty, single.notAbove, short⟩

namespace Path

variable {name : Bytes}

theorem names_single (notEmpty : name ≠ []) (noSlash : slash ∉ name) : names name = [name] := by
  induction name with
  | nil => exact absurd rfl notEmpty
  | cons b r ih =>
    obtain ⟨other, rest⟩ := List.ne_and_not_mem_of_not_mem_cons noSlash
    cases r with
    | nil => rw [names, if_neg other.symm]
    | cons c r =>
      have other' := (List.ne_and_not_mem_of_not_mem_cons rest).1.symm
      rw [names, if_neg other.symm]
      simp only [if_neg other', ih (List.cons_ne_nil c r) rest]

theorem names_ne_nil {b : UInt8} {r : Bytes} (other : b ≠ slash) : names (b :: r) ≠ [] := by
  cases r with
  | nil =>
    rw [names, if_neg other]
    exact nofun
  | cons c r =>
    rw [names, if_neg other]
    split
    · exact nofun
    · split <;> exact nofun

theorem names_slash (p : Path) : names (slash :: p) = names p := by
  cases p with
  | nil => rfl
  | cons b r => rw [names, if_pos rfl]

theorem names_append_slash (p q : Path) : names (p ++ slash :: q) = names p ++ names q := by
  induction p with
  | nil => exact names_slash q
  | cons b r ih =>
    by_cases same : b = slash
    · rw [same, List.cons_append, names_slash, names_slash, ih]
    · cases r with
      | nil =>
        have alone : names [b] = [[b]] := by rw [names, if_neg same]
        rw [List.cons_append, List.nil_append, alone, names, if_neg same, if_pos rfl, names_slash]
        rfl
      | cons c r =>
        rw [List.cons_append] at ih
        rw [List.cons_append, List.cons_append, names, names, if_neg same, if_neg same, ih]
        split
        · rfl
        · rename_i other
          obtain ⟨n, rest, names_eq⟩ := List.exists_cons_of_ne_nil (names_ne_nil (r := r) other)
          rw [names_eq]
          rfl

theorem isAbsolute_of_noSlash (noSlash : slash ∉ name) : isAbsolute name = false := by
  cases name with
  | nil => rfl
  | cons b r =>
    exact beq_eq_false_iff_ne.mpr fun same =>
      (List.ne_and_not_mem_of_not_mem_cons noSlash).1 (Option.some.inj same).symm

theorem join_cases (dir : Path) (noSlash : slash ∉ name) :
    dir.join name = name ∧ dir = [] ∨ ∃ before, dir.join name = before ++ slash :: name ∧
      (dir = before ++ [slash] ∨ dir = before) := by
  have relative := isAbsolute_of_noSlash noSlash
  by_cases empty : dir = []
  · exact .inl ⟨by rw [join, relative, empty]; rfl, empty⟩
  · right
    by_cases ends : dir.getLast? = some slash
    · obtain ⟨before, rfl⟩ := List.getLast?_eq_some_iff.mp ends
      refine ⟨before, ?_, .inl rfl⟩
      simp [join, relative]
    · exact ⟨dir, by simp [join, relative, empty, ends], .inr rfl⟩

theorem names_join (dir : Path) (single : SingleName name) :
    names (dir.join name) = names dir ++ [name] := by
  have alone : names name = [name] := names_single single.notEmpty single.noSlash
  obtain ⟨path, rfl⟩ | ⟨before, path, rfl | rfl⟩ := join_cases dir single.noSlash
  · rw [path, alone]
    rfl
  · rw [path, names_append_slash, names_append_slash, alone, names, List.append_nil]
  · rw [path, names_append_slash, alone]

theorem steps_join (dir : Path) (single : SingleName name) :
    (dir.join name).steps = names dir ++ [name] := by
  have last : (dir.join name).getLast? = name.getLast? := by
    obtain ⟨path, -⟩ | ⟨before, path, -⟩ := join_cases dir single.noSlash
    · rw [path]
    · rw [path, List.append_cons, List.getLast?_append_of_ne_nil _ single.notEmpty]
  have ends : hasTrailingSlash (dir.join name) = false := by
    rw [hasTrailingSlash, last]
    refine beq_eq_false_iff_ne.mpr fun same => single.noSlash (List.mem_of_getLast? same)
  rw [steps, ends, names_join dir single]
  exact List.append_nil _

end Path

theorem eq_or_getLast?_of_cons {α : Type} {x y : α} {rest : List α}
    (h : (x :: rest).getLast? = some y) :
    x = y ∧ rest = [] ∨ rest ≠ [] ∧ rest.getLast? = some y := by
  cases rest with
  | nil => exact .inl ⟨Option.some.inj h, rfl⟩
  | cons z r => exact .inr ⟨List.cons_ne_nil z r, by rwa [List.getLast?_cons_cons] at h⟩

namespace Tree

variable {t : Tree} {links : Nat} {dir pending names key : List Bytes} {name name' : Bytes}
  {node : Node}

/-- What is found under a last name has that name, if it is a link too. -/
theorem walk_last (single : SingleName name) (last : pending.getLast? = some name)
    (h : t.walk .name links dir pending = .ok (.present names node)) :
    ∃ parent, names = parent ++ [name] ∧ t.node? names = some node := by
  have ended {dir names : List Bytes} {node node' : Node}
      (h : Except.ok (Place.present (dir ++ [name]) node') = Except.ok (ε := SystemFault)
        (.present names node)) (found : t.node? (dir ++ [name]) = some node') :
      ∃ parent, names = parent ++ [name] ∧ t.node? names = some node := by
    obtain ⟨rfl, rfl⟩ := Place.present.inj (Except.ok.inj h)
    exact ⟨dir, rfl, found⟩
  fun_induction t.walk .name links dir pending with
  | case1 => cases last
  | case2 links dir name' rest same ih =>
    obtain ⟨rfl, -⟩ | ⟨-, last⟩ := eq_or_getLast?_of_cons last
    · exact absurd same (not_or.mpr ⟨single.notHere, single.notEmpty⟩)
    · exact ih last h
  | case3 links dir rest other ih =>
    obtain ⟨rfl, -⟩ | ⟨-, last⟩ := eq_or_getLast?_of_cons last
    · exact absurd rfl single.notAbove
    · exact ih last h
  | case8 links dir name' rest other notAbove notWrite short names' inner ih =>
    obtain ⟨rfl, rfl⟩ | ⟨-, last⟩ := eq_or_getLast?_of_cons last
    · rw [walk] at h
      exact ended h inner
    · exact ih last h
  | case9 links dir name' rest other notAbove notWrite short names' target link ends =>
    obtain ⟨rfl, -⟩ | ⟨more, -⟩ := eq_or_getLast?_of_cons last
    · exact ended h link
    · exact absurd ends.1 more
  | case11 dir name' rest other notAbove notWrite short names' target link goesOn links ih =>
    obtain ⟨-, rest_eq⟩ | ⟨more, last⟩ := eq_or_getLast?_of_cons last
    · exact absurd ⟨rest_eq, rfl⟩ goesOn
    · rw [dite_eq_ite] at ih
      exact ih (by rwa [List.getLast?_append_of_ne_nil _ more]) h
  | case12 links dir name' other notAbove short names' node' notDirectory notLink found notWrite =>
    obtain rfl : name' = name := Option.some.inj last
    exact ended h found
  | _ => cases h

section Names

variable {rest : List Bytes} (proper : Proper name)
include proper

theorem walk_name_down (inner : t.node? (dir ++ [name]) = some .directory) :
    t.walk .name links dir (name :: rest) = t.walk .name links (dir ++ [name]) rest := by
  obtain ⟨other, notAbove, short⟩ := proper_iff.mp proper
  rw [walk, if_neg other, if_neg notAbove, if_neg (by simp), if_neg short]
  simp only [inner]

theorem walk_name_free (free : t.node? (dir ++ [name]) = none) :
    t.walk .name links dir [name] = .ok (.absent dir name) := by
  obtain ⟨other, notAbove, short⟩ := proper_iff.mp proper
  rw [walk, if_neg other, if_neg notAbove, if_neg (by simp), if_neg short]
  simp only [free, true_or, if_true]

theorem walk_name_found (found : t.node? (dir ++ [name]) = some node) :
    t.walk .name links dir [name] = .ok (.present (dir ++ [name]) node) := by
  obtain ⟨other, notAbove, short⟩ := proper_iff.mp proper
  rw [walk, if_neg other, if_neg notAbove, if_neg (by simp), if_neg short]
  simp only [found]
  cases node with
  | directory => rw [walk]
  | _ => rfl

end Names

theorem node?_erase (proper : key ≠ []) (names : List Bytes) :
    (t.erase key).node? names = if names = key then none else t.node? names := by
  unfold node? erase
  by_cases same : names = key
  · subst same
    rw [if_neg proper, if_pos rfl, List.lookup_eq_none_iff]
    intro entry member
    exact bne_iff_ne.mpr (bne_iff_ne.mp (List.mem_filter.mp member).2).symm
  · simp only [if_neg same, lookup_filter_ne same]

/-- What is left when a name is removed, if it can be. -/
def unlinked (t : Tree) (p : Path) : Tree := ((t.remove p).toOption).getD t

theorem unlinked_present {p : Path} (h : t.locate false p = .ok (.present names node)) :
    t.unlinked p = if node = .directory then t else t.erase names := by
  rw [unlinked, remove, h]
  cases node <;> rfl

theorem unlinked_cases (t : Tree) (p : Path) :
    t.unlinked p = t ∨ ∃ names node, t.locate false p = .ok (.present names node) ∧
      t.unlinked p = t.erase names := by
  cases h : t.locate false p with
  | error fault =>
    left
    rw [unlinked, remove, h]
    rfl
  | ok place =>
    cases place with
    | absent dir name =>
      left
      rw [unlinked, remove, h]
      rfl
    | present names node =>
      rw [unlinked_present h]
      split
      · exact .inl rfl
      · exact .inr ⟨names, node, rfl, rfl⟩

theorem locate_join (dir : Path) (single : SingleName name)
    (h : t.locate false (dir.join name) = .ok (.present names node)) :
    ∃ parent, names = parent ++ [name] ∧ t.node? names = some node := by
  rw [locate, if_neg Bool.false_ne_true, locateFor] at h
  split at h
  · cases h
  split at h
  · cases h
  split at h
  · cases h
  refine walk_last single ?_ h
  rw [Path.steps_join dir single, List.getLast?_concat]

/-- A file in a directory is gone after a removal there exactly if it is removed under its own name,
and is no directory. -/
theorem node?_unlinked (dir : Path) (single : SingleName name) (single' : SingleName name')
    (h : t.locate false (dir.join name) = .ok (.present names node)) :
    (t.unlinked (dir.join name')).node? names =
      if name = name' ∧ node ≠ .directory then none else some node := by
  obtain ⟨parent, rfl, found⟩ := locate_join dir single h
  by_cases same : name = name'
  · subst same
    rw [unlinked_present h]
    by_cases directory : node = .directory
    · simp only [directory, found, if_true, ne_eq, not_true_eq_false, and_false, if_false]
    · simp only [directory, if_false, ne_eq, not_false_eq_true, and_self, if_true]
      rw [node?_erase (by simp), if_pos rfl]
  · rw [if_neg fun h => same h.1]
    obtain left | ⟨names', node', located, erased⟩ := unlinked_cases t (dir.join name')
    · rw [left, found]
    · obtain ⟨parent', rfl, -⟩ := locate_join dir single' located
      rw [erased, node?_erase (by simp), if_neg, found]
      intro together
      exact same (List.singleton_inj.mp (List.append_inj' together rfl).2)

end Tree

end HalBench.Files
