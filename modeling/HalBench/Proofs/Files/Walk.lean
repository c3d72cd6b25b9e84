import HalBench.Files.Tree

/-! Where a path leads. Walking along names goes through directories and links only, and what is
put in the place of another node is found under every path that leads there. -/

namespace HalBench.Files.Tree

/-- A name that is looked up in a directory. -/
def Proper (name : Bytes) : Prop :=
  name ≠ here ∧ name ≠ [] ∧ name ≠ above ∧ name.length ≤ maxName

/-- Walking along steps from a directory leads to a node, through so many links. -/
inductive Leads (t : Tree) : Nat → List Bytes → List Bytes → List Bytes → Node → Prop where
  | done (dir : List Bytes) : Leads t 0 dir [] dir .directory
  | stay {n : Nat} {dir rest names : List Bytes} {name : Bytes} {node : Node}
      (same : name = here ∨ name = []) (further : Leads t n dir rest names node) :
      Leads t n dir (name :: rest) names node
  | up {n : Nat} {dir rest names : List Bytes} {node : Node}
      (further : Leads t n dir.dropLast rest names node) : Leads t n dir (above :: rest) names node
  | down {n : Nat} {dir rest names : List Bytes} {name : Bytes} {node : Node}
      (proper : Proper name) (inner : t.node? (dir ++ [name]) = some .directory)
      (further : Leads t n (dir ++ [name]) rest names node) : Leads t n dir (name :: rest) names node
  | follow {n : Nat} {dir rest names : List Bytes} {name : Bytes} {node : Node} {target : Path}
      (proper : Proper name) (link : t.node? (dir ++ [name]) = some (.link target))
      (further : Leads t n (if target.isAbsolute then [] else dir) (target.steps ++ rest) names node) :
      Leads t (n + 1) dir (name :: rest) names node
  | stop {dir : List Bytes} {name : Bytes} {node : Node} (proper : Proper name)
      (found : t.node? (dir ++ [name]) = some node) (notDirectory : node ≠ .directory)
      (notLink : ∀ target, node ≠ .link target) : Leads t 0 dir [name] (dir ++ [name]) node

variable {t : Tree} {n links : Nat} {dir steps names : List Bytes} {node : Node}

theorem proper_iff {name : Bytes} :
    Proper name ↔ ¬ (name = here ∨ name = []) ∧ ¬ name = above ∧ ¬ maxName < name.length := by
  rw [Proper, not_or, Nat.not_lt, and_assoc]

instance (name : Bytes) : Decidable (Proper name) := inferInstanceAs (Decidable (_ ∧ _))

theorem leads_of_walk (h : t.walk .node links dir steps = .ok (.present names node)) :
    ∃ n ≤ links, t.Leads n dir steps names node := by
  fun_induction t.walk .node links dir steps with
  | case1 => cases h; exact ⟨0, Nat.zero_le _, .done _⟩
  | case2 links dir name rest same ih =>
    obtain ⟨n, bound, further⟩ := ih h
    exact ⟨n, bound, .stay same further⟩
  | case3 links dir rest other ih =>
    obtain ⟨n, bound, further⟩ := ih h
    exact ⟨n, bound, .up further⟩
  | case8 links dir name rest other notAbove notWrite short inside inner ih =>
    obtain ⟨n, bound, further⟩ := ih h
    exact ⟨n, bound, .down (proper_iff.mpr ⟨other, notAbove, short⟩) inner further⟩
  | case11 dir name rest other notAbove notWrite short inside target link goesOn links ih =>
    rw [dite_eq_ite] at ih
    obtain ⟨n, bound, further⟩ := ih h
    exact ⟨n + 1, Nat.succ_le_succ bound,
      .follow (proper_iff.mpr ⟨other, notAbove, short⟩) link further⟩
  | case12 links dir name other notAbove short inside found notDirectory notLink here notWrite =>
    obtain ⟨same, same'⟩ := Place.present.inj (Except.ok.inj h)
    rw [← same, ← same']
    exact ⟨0, Nat.zero_le _,
      .stop (proper_iff.mpr ⟨other, notAbove, short⟩) here notDirectory notLink⟩
  | case9 links dir name rest other notAbove notWrite short inside target link ends =>
    cases ends.2
  | _ => cases h

theorem node_ne_write : Purpose.node ≠ .write := by decide

theorem node_ne_name : Purpose.node ≠ .name := by decide

section Steps

variable {name : Bytes} {rest : List Bytes} {target : Path} (proper : Proper name)
include proper

theorem walk_down (inner : t.node? (dir ++ [name]) = some .directory) :
    t.walk .node links dir (name :: rest) = t.walk .node links (dir ++ [name]) rest := by
  obtain ⟨other, notAbove, short⟩ := proper_iff.mp proper
  rw [walk, if_neg other, if_neg notAbove, if_neg (fun e => node_ne_write e.1), if_neg short]
  simp only [inner]

theorem walk_follow (link : t.node? (dir ++ [name]) = some (.link target)) :
    t.walk .node (links + 1) dir (name :: rest) =
      t.walk .node links (if target.isAbsolute then [] else dir) (target.steps ++ rest) := by
  obtain ⟨other, notAbove, short⟩ := proper_iff.mp proper
  rw [walk, if_neg other, if_neg notAbove, if_neg (fun e => node_ne_write e.1), if_neg short]
  simp only [link]
  rw [if_neg fun e => node_ne_name e.2]

theorem walk_stop (found : t.node? (dir ++ [name]) = some node) (notDirectory : node ≠ .directory)
    (notLink : ∀ target, node ≠ .link target) :
    t.walk .node links dir [name] = .ok (.present (dir ++ [name]) node) := by
  obtain ⟨other, notAbove, short⟩ := proper_iff.mp proper
  rw [walk, if_neg other, if_neg notAbove, if_neg (fun e => node_ne_write e.1), if_neg short]
  simp only [found]
  cases node with
  | directory => exact absurd rfl notDirectory
  | link target => exact absurd rfl (notLink target)
  | _ => rfl

end Steps

theorem walk_of_leads (h : t.Leads n dir steps names node) (enough : n ≤ links) :
    t.walk .node links dir steps = .ok (.present names node) := by
  induction h generalizing links with
  | done dir => rw [walk]
  | stay same _ ih => rw [walk, if_pos same, ih enough]
  | up _ ih => rw [walk, if_neg (by decide), if_pos rfl, ih enough]
  | down proper inner _ ih => rw [walk_down proper inner, ih enough]
  | follow proper link _ ih =>
    obtain ⟨more, rfl⟩ := Nat.exists_eq_add_of_le' enough
    exact (walk_follow proper link).trans (ih (Nat.le_add_left _ _))
  | stop proper found notDirectory notLink => exact walk_stop proper found notDirectory notLink

section Paths

variable {p : Path} (noNul : p.contains 0 = false) (notEmpty : p ≠ []) (short : p.length < maxPath)
include noNul notEmpty short

theorem locate_of_walk {place : Place}
    (walked : t.walk .node maxLinks (t.start p) p.steps = .ok place) :
    t.locate true p = .ok place := by
  rw [locate, if_pos rfl, locateFor, if_neg (by rw [noNul]; decide), if_neg notEmpty,
    if_neg (Nat.not_le.mpr short), walked]

theorem look_of_leads (h : t.Leads n (t.start p) p.steps names node) (few : n ≤ maxLinks) :
    t.look true p = .ok node := by
  rw [look, locate_of_walk noNul notEmpty short (walk_of_leads h few)]
  rfl

end Paths

theorem walk_tooManyLinks (h : t.Leads n dir steps names node) (few : links < n) :
    t.walk .node links dir steps = .error .tooManyLinks := by
  induction h generalizing links with
  | done dir => exact absurd few (Nat.not_lt_zero _)
  | stay same _ ih => rw [walk, if_pos same, ih few]
  | up _ ih => rw [walk, if_neg (by decide), if_pos rfl, ih few]
  | down proper inner _ ih => rw [walk_down proper inner, ih few]
  | @follow n dir rest names name node target proper link _ ih =>
    cases links with
    | zero =>
      obtain ⟨other, notAbove, short⟩ := proper_iff.mp proper
      rw [walk, if_neg other, if_neg notAbove, if_neg (fun e => node_ne_write e.1), if_neg short]
      simp only [link]
      rw [if_neg fun e => node_ne_name e.2]
    | succ links => exact (walk_follow proper link).trans (ih (Nat.lt_of_succ_lt_succ few))
  | stop => exact absurd few (Nat.not_lt_zero _)

theorem Leads.unique {m : Nat} {names' : List Bytes} {node' : Node}
    (h : t.Leads n dir steps names node) (h' : t.Leads m dir steps names' node') :
    names = names' ∧ node = node' := by
  have walked := walk_of_leads h (Nat.le_max_left n m)
  rw [walk_of_leads h' (Nat.le_max_right n m)] at walked
  obtain ⟨same, same'⟩ := Place.present.inj (Except.ok.inj walked)
  exact ⟨same.symm, same'.symm⟩

/-- The first of some steps lead to a directory, and the others from there. -/
theorem Leads.split {a b : List Bytes} (h : t.Leads n dir (a ++ b) names node) (more : b ≠ []) :
    ∃ mid n₁ n₂, n₁ + n₂ = n ∧ t.Leads n₁ dir a mid .directory ∧ t.Leads n₂ mid b names node := by
  generalize all : a ++ b = steps at h
  -- Where no first step is left, nothing is to be done; otherwise the step is the first one of `a`.
  induction h generalizing a with
  | done dir => exact absurd (List.append_eq_nil_iff.mp all).2 more
  | @stay n dir rest names name node same further ih =>
    cases a with
    | nil =>
      obtain rfl : b = name :: rest := all
      exact ⟨dir, 0, n, Nat.zero_add n, .done dir, .stay same further⟩
    | cons x a =>
      obtain ⟨rfl, rfl⟩ := List.cons.inj all
      obtain ⟨mid, n₁, n₂, sum, first, second⟩ := ih rfl
      exact ⟨mid, n₁, n₂, sum, .stay same first, second⟩
  | @up n dir rest names node further ih =>
    cases a with
    | nil =>
      obtain rfl : b = above :: rest := all
      exact ⟨dir, 0, n, Nat.zero_add n, .done dir, .up further⟩
    | cons x a =>
      obtain ⟨rfl, rfl⟩ := List.cons.inj all
      obtain ⟨mid, n₁, n₂, sum, first, second⟩ := ih rfl
      exact ⟨mid, n₁, n₂, sum, .up first, second⟩
  | @down n dir rest names name node proper inner further ih =>
    cases a with
    | nil =>
      obtain rfl : b = name :: rest := all
      exact ⟨dir, 0, n, Nat.zero_add n, .done dir, .down proper inner further⟩
    | cons x a =>
      obtain ⟨rfl, rfl⟩ := List.cons.inj all
      obtain ⟨mid, n₁, n₂, sum, first, second⟩ := ih rfl
      exact ⟨mid, n₁, n₂, sum, .down proper inner first, second⟩
  | @follow n dir rest names name node target proper link further ih =>
    cases a with
    | nil =>
      obtain rfl : b = name :: rest := all
      exact ⟨dir, 0, n + 1, Nat.zero_add _, .done dir, .follow proper link further⟩
    | cons x a =>
      obtain ⟨rfl, rfl⟩ := List.cons.inj all
      obtain ⟨mid, n₁, n₂, sum, first, second⟩ := ih (List.append_assoc ..)
      exact ⟨mid, n₁ + 1, n₂, by omega, .follow proper link first, second⟩
  | @stop dir name node proper found notDirectory notLink =>
    cases a with
    | nil =>
      obtain rfl : b = [name] := all
      exact ⟨dir, 0, 0, rfl, .done dir, .stop proper found notDirectory notLink⟩
    | cons x a => exact absurd (List.append_eq_nil_iff.mp (List.cons.inj all).2).2 more

theorem Leads.join {m : Nat} {a b mid : List Bytes} (h : t.Leads n dir a mid .directory)
    (further : t.Leads m mid b names node) : t.Leads (n + m) dir (a ++ b) names node := by
  generalize ends : Node.directory = last at h
  induction h with
  | done dir => rw [Nat.zero_add]; exact further
  | stay same _ ih => exact .stay same (ih further ends)
  | up _ ih => exact .up (ih further ends)
  | down proper inner _ ih => exact .down proper inner (ih further ends)
  | follow proper link _ ih =>
    rw [Nat.succ_add]
    exact .follow proper link (List.append_assoc .. ▸ ih further ends)
  | stop proper found notDirectory notLink => exact absurd ends.symm notDirectory

/-- A way to a directory is the same where all directories and links of it are there. -/
theorem Leads.mono {t' : Tree} (h : t.Leads n dir steps names .directory)
    (inner : ∀ names, t.node? names = some .directory → t'.node? names = some .directory)
    (link : ∀ names target, t.node? names = some (.link target) →
      t'.node? names = some (.link target)) : t'.Leads n dir steps names .directory := by
  generalize ends : Node.directory = last at h ⊢
  induction h with
  | done dir => exact .done dir
  | stay same _ ih => exact .stay same (ih ends)
  | up _ ih => exact .up (ih ends)
  | down proper here _ ih => exact .down proper (inner _ here) (ih ends)
  | follow proper here _ ih => exact .follow proper (link _ _ here) (ih ends)
  | stop proper found notDirectory notLink => exact absurd ends.symm notDirectory

theorem Leads.grow {t' : Tree} (h : t.Leads n dir steps names node)
    (kept : ∀ names node, t.node? names = some node → t'.node? names = some node) :
    t'.Leads n dir steps names node := by
  induction h with
  | done dir => exact .done dir
  | stay same _ ih => exact .stay same ih
  | up _ ih => exact .up ih
  | down proper inner _ ih => exact .down proper (kept _ _ inner) ih
  | follow proper link _ ih => exact .follow proper (kept _ _ link) ih
  | stop proper found notDirectory notLink =>
    exact .stop proper (kept _ _ found) notDirectory notLink

section Replacing

variable {parent : List Bytes} {last : Bytes} {content : Node}

theorem lookup_filter_ne {κ α : Type} [BEq κ] [LawfulBEq κ] {k k' : κ} (other : k' ≠ k)
    (entries : List (κ × α)) :
    (entries.filter fun e => e.1 != k).lookup k' = entries.lookup k' := by
  induction entries with
  | nil => rfl
  | cons e r ih =>
    by_cases same : e.1 = k
    · rw [List.filter_cons_of_neg (by simp [same]), ih, List.lookup_cons,
        beq_eq_false_iff_ne.mpr (same ▸ other)]
    · rw [List.filter_cons_of_pos (by simp [same]), List.lookup_cons, List.lookup_cons, ih]

theorem node?_put {key : List Bytes} (proper : key ≠ []) (names : List Bytes) :
    (t.put key content).node? names = if names = key then some content else t.node? names := by
  unfold node? put
  by_cases same : names = key
  · subst same
    rw [if_neg proper, if_pos rfl, List.lookup_cons_self]
  · rw [if_neg same, List.lookup_cons, beq_eq_false_iff_ne.mpr same]
    simp only [lookup_filter_ne same]

theorem Leads.blocked {m : Nat} (h : t.Leads m parent [last] names node)
    (notDirectory : node ≠ .directory) {rest out : List Bytes} :
    ¬ t.Leads n parent (last :: rest) out .directory := by
  intro through
  cases rest with
  | nil => exact notDirectory (h.unique through).2
  | cons x r =>
    have parts : last :: x :: r = [last] ++ (x :: r) := rfl
    rw [parts] at through
    obtain ⟨mid, n₁, n₂, -, first, -⟩ := through.split (List.cons_ne_nil x r)
    exact notDirectory (h.unique first).2

theorem Leads.put (h : t.Leads n dir steps names .directory)
    (blocked : ∀ n rest out, ¬ t.Leads n parent (last :: rest) out .directory) :
    (t.put (parent ++ [last]) content).Leads n dir steps names .directory := by
  have kept {dir rest out : List Bytes} {name : Bytes} {k : Nat}
      (through : t.Leads k dir (name :: rest) out .directory) :
      (t.put (parent ++ [last]) content).node? (dir ++ [name]) = t.node? (dir ++ [name]) := by
    rw [node?_put (by simp), if_neg]
    intro same
    obtain ⟨rfl, last'⟩ := List.append_inj' same rfl
    obtain rfl := List.singleton_inj.mp last'
    exact blocked _ _ _ through
  generalize ends : Node.directory = reached at h ⊢
  induction h with
  | done dir => exact .done dir
  | stay same _ ih => exact .stay same (ih ends)
  | up _ ih => exact .up (ih ends)
  | down proper inner further ih =>
    subst ends
    exact .down proper ((kept (.down proper inner further)).trans inner) (ih rfl)
  | follow proper link further ih =>
    subst ends
    exact .follow proper ((kept (.follow proper link further)).trans link) (ih rfl)
  | stop proper found notDirectory notLink => exact absurd ends.symm notDirectory

end Replacing

end HalBench.Files.Tree
