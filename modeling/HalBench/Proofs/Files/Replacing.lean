import HalBench.Proofs.Files.Walk
import HalBench.Proofs.Number.Digits
import HalBench.Proofs.Outcome

/-! A file that takes the place of a path is found under that path. A new name in a directory is
the name of nothing else, and a file that is put there for a while is not in the way of any path. -/

namespace HalBench.Files

namespace Path

theorem nil_not_mem_names (p : Path) : [] ∉ p.names := by
  fun_induction names p with
  | case1 => exact List.not_mem_nil
  | case2 r ih => exact ih
  | case3 b other => simp
  | case4 b other r ih => simpa using ih
  | case5 b other c r notSlash none ih => simp [none]
  | case6 b other c r notSlash n rest more ih =>
    rw [more] at ih ⊢
    simp only [List.mem_cons, not_or] at ih ⊢
    exact ⟨nofun, ih.2⟩

end Path

namespace Tree

variable {t : Tree} {p : Path} {names : List Bytes} {node : Node} {place : Place}

theorem locate_of_ok (h : t.locate true p = .ok place) :
    t.walk .node maxLinks (t.start p) p.steps = .ok place ∧
      ∀ t' : Tree, t'.locate true p = t'.walk .node maxLinks (t'.start p) p.steps := by
  rw [locate, if_pos rfl, locateFor] at h
  split at h
  · cases h
  split at h
  · cases h
  split at h
  · cases h
  rename_i noNul notEmpty short
  refine ⟨h, fun t' => ?_⟩
  rw [locate, if_pos rfl, locateFor, if_neg noNul, if_neg notEmpty, if_neg short]

theorem look_of_ok (h : t.look true p = .ok node) :
    ∃ names, t.locate true p = .ok (.present names node) := by
  obtain ⟨place, located, h⟩ := ok_of_bind h
  cases place with
  | present names node' =>
    cases h
    exact ⟨names, located⟩
  | absent dir name => cases h

section Contents

variable {content : Bytes} {executable : Bool}

theorem openRead_of_look (h : t.look true p = .ok (.file content executable)) :
    t.openRead p = .ok (.ofBytes content) := by
  rw [openRead, h]
  rfl

theorem read_of_look (h : t.look true p = .ok (.file content executable)) :
    t.read p = .ok content := by
  rw [read, openRead_of_look h]
  exact congrArg Except.ok (Source.remaining_ofBytes content)

end Contents

/-- A path names an entry of a directory in whose place a file can be put. -/
structure Replaces (t : Tree) (p : Path) (dir : List Bytes) (last : Bytes) : Prop where
  noNul : p.contains 0 = false
  notEmpty : p ≠ []
  short : p.length < maxPath
  noSlash : p.hasTrailingSlash = false
  proper : Proper last
  reached : ∃ front n, p.names = front ++ [last] ∧ n ≤ maxLinks ∧
    t.Leads n (t.start p) front dir .directory
  notDirectory : t.node? (dir ++ [last]) ≠ some .directory

theorem replaces_of_ok (h : t.replaceable p = .ok names) :
    ∃ dir last, t.Replaces p dir last ∧ names = dir ++ [last] := by
  rw [replaceable] at h
  split at h
  · cases h
  split at h
  · cases h
  split at h
  · cases h
  rename_i noNul notEmpty short
  obtain ⟨place, walked, h⟩ := ok_of_bind h
  cases place with
  | absent dir name => cases h
  | present dir node =>
    cases node with
    | directory =>
      simp only at h
      split at h
      · cases h
      split at h
      · cases h
      split at h
      · cases h
      split at h
      · cases h
      rename_i notLong notDots noSlash notDirectory
      cases h
      cases ends : p.names.getLast? with
      | none => exact absurd (.inl (by rw [ends]; rfl)) notDots
      | some last =>
        rw [ends, Option.getD_some] at notLong notDots notDirectory
        obtain ⟨front, all⟩ := List.getLast?_eq_some_iff.mp ends
        have proper : Proper last := by
          refine proper_iff.mpr ⟨not_or.mpr ⟨mt .inl notDots, ?_⟩, mt .inr notDots, notLong⟩
          rintro rfl
          exact p.nil_not_mem_names (all ▸ List.mem_append_right front List.mem_cons_self)
        rw [all, List.dropLast_concat] at walked
        obtain ⟨n, enough, reached⟩ := leads_of_walk walked
        exact ⟨dir, last, ⟨Bool.eq_false_iff.mpr noNul, notEmpty, Nat.lt_of_not_le short,
          Bool.eq_false_iff.mpr noSlash, proper, ⟨front, n, all, enough, reached⟩, notDirectory⟩, rfl⟩
    | _ => cases h

namespace Replaces

variable {dir : List Bytes} {last : Bytes} (h : t.Replaces p dir last)
include h

theorem replaceable_eq : t.replaceable p = .ok (dir ++ [last]) := by
  obtain ⟨front, n, parts, enough, reached⟩ := h.reached
  obtain ⟨notHere, -, notAbove, notLong⟩ := h.proper
  rw [replaceable, if_neg (by rw [h.noNul]; decide), if_neg h.notEmpty,
    if_neg (Nat.not_le.mpr h.short)]
  simp only [parts, List.getLast?_concat, List.dropLast_concat, Option.getD_some,
    walk_of_leads reached enough, bind, Except.bind]
  rw [if_neg (Nat.not_lt.mpr notLong), if_neg (not_or.mpr ⟨notHere, notAbove⟩),
    if_neg (by rw [h.noSlash]; decide), if_neg h.notDirectory]

theorem locate_eq (t' : Tree) :
    t'.locate true p = t'.walk .node maxLinks (t'.start p) p.names := by
  rw [locate, if_pos rfl, locateFor, if_neg (by rw [h.noNul]; decide), if_neg h.notEmpty,
    if_neg (Nat.not_le.mpr h.short), Path.steps, if_neg (by rw [h.noSlash]; decide),
    List.append_nil]

/-- A file that is put in the place of a path is found under the path, unless the path led to a
directory, or through so many links that none could be found. -/
theorem look_put (notDirectory : t.look true p ≠ .ok .directory)
    (few : t.look true p ≠ .error .tooManyLinks) (content : Bytes) (executable : Bool) :
    (t.put (dir ++ [last]) (.file content executable)).look true p =
      .ok (.file content executable) := by
  obtain ⟨front, n, parts, enough, reached⟩ := h.reached
  -- If the last name led to a directory, then so would the path, or it would go through more links.
  have blocked (m : Nat) (out : List Bytes) : ¬ t.Leads m dir [last] out .directory := by
    intro through
    have joined := reached.join through
    by_cases follows : n + m ≤ maxLinks
    · refine notDirectory ?_
      rw [look, h.locate_eq, parts, walk_of_leads joined follows]
      rfl
    · refine few ?_
      rw [look, h.locate_eq, parts, walk_tooManyLinks joined (Nat.lt_of_not_le follows)]
      rfl
  have reached' : (t.put (dir ++ [last]) (.file content executable)).Leads n (t.start p) front dir
      .directory := by
    refine reached.put fun m rest out through => ?_
    cases rest with
    | nil => exact blocked m out through
    | cons x r =>
      obtain ⟨mid, n₁, n₂, -, first, -⟩ := Leads.split (a := [last]) through (List.cons_ne_nil x r)
      exact blocked n₁ mid first
  have here : (t.put (dir ++ [last]) (.file content executable)).node? (dir ++ [last]) =
      some (.file content executable) := by
    rw [node?_put (by simp), if_pos rfl]
  have walked := walk_of_leads (reached'.join (.stop h.proper here (by simp) (by simp))) enough
  rw [look, h.locate_eq, parts]
  exact congrArg (· >>= _) walked

end Replaces

section Free

variable {key : List Bytes} (proper : key ≠ []) (free : t.node? key = none) (content : Bytes)
  (executable : Bool)
include proper free

theorem node?_put_of_free {node : Node} (found : t.node? names = some node) :
    (t.put key (.file content executable)).node? names = some node := by
  rw [node?_put proper, if_neg, found]
  rintro rfl
  rw [free] at found
  cases found

/-- A file under a free name makes no difference to the places where files can be put. -/
theorem replaces_put_iff {dir : List Bytes} {last : Bytes} :
    (t.put key (.file content executable)).Replaces p dir last ↔ t.Replaces p dir last := by
  have other {names : List Bytes} {node : Node} (notFile : ∀ c e, node ≠ .file c e)
      (found : (t.put key (.file content executable)).node? names = some node) :
      t.node? names = some node := by
    rw [node?_put proper] at found
    split at found
    · cases found
      exact absurd rfl (notFile content executable)
    · exact found
  constructor
  · intro h
    obtain ⟨front, n, parts, enough, reached⟩ := h.reached
    refine { h with reached := ⟨front, n, parts, enough, ?_⟩, notDirectory := ?_ }
    · exact reached.mono (fun _ => other nofun) fun _ _ => other nofun
    · exact fun inner => h.notDirectory (node?_put_of_free proper free content executable inner)
  · intro h
    obtain ⟨front, n, parts, enough, reached⟩ := h.reached
    refine { h with reached := ⟨front, n, parts, enough, ?_⟩, notDirectory := ?_ }
    · exact reached.grow fun _ _ => node?_put_of_free proper free content executable
    · exact fun inner => h.notDirectory (other nofun inner)

theorem look_put_of_free (found : t.look true p = .ok node) :
    (t.put key (.file content executable)).look true p = .ok node := by
  obtain ⟨names, located⟩ := look_of_ok found
  obtain ⟨walked, locate_eq⟩ := locate_of_ok located
  obtain ⟨n, enough, leads⟩ := leads_of_walk walked
  have there := leads.grow fun _ _ => node?_put_of_free proper free content executable
  rw [look, locate_eq]
  exact congrArg (· >>= _) (walk_of_leads there enough)

end Free

theorem put_put (t : Tree) (key : List Bytes) (first second : Node) :
    (t.put key first).put key second = t.put key second := by
  simp [put, List.filter_filter]

theorem erase_put {key : List Bytes} (free : t.node? key = none) (content : Node) :
    (t.put key content).erase key = t := by
  unfold node? at free
  split at free
  · cases free
  have absent : t.nodes.filter (fun e => e.1 != key) = t.nodes := by
    refine List.filter_eq_self.mpr fun e he => ?_
    have other := List.lookup_eq_none_iff.mp free e he
    rw [bne_iff_ne] at other ⊢
    exact other.symm
  simp [put, erase, absent]

theorem mem_of_node? {key : List Bytes} (proper : key ≠ []) (found : t.node? key ≠ none) :
    key ∈ t.nodes.map (·.1) := by
  rw [node?, if_neg proper] at found
  refine Classical.byContradiction fun absent => found (List.lookup_eq_none_iff.mpr ?_)
  intro e he
  exact bne_iff_ne.mpr fun same => absent (same ▸ List.mem_map_of_mem he)

theorem bytes_toString (n : Nat) : Utf8.bytes (toString n) = Digits.ofNat n := by
  rw [Utf8.bytes, Digits.ofNat]
  exact congrArg Utf8.encode (String.toList_ofList ..)

theorem freshName_free (t : Tree) (dir : List Bytes) :
    t.node? (dir ++ [t.freshName dir]) = none := by
  let candidate (n : Nat) : Bytes := Utf8.bytes ".tmp" ++ Utf8.bytes (toString n)
  let candidates := (List.range (t.nodes.length + 1)).map candidate
  have chosen : t.freshName dir =
      (candidates.find? fun name => (t.node? (dir ++ [name])).isNone).getD (Utf8.bytes ".tmp") := rfl
  cases found : candidates.find? fun name => (t.node? (dir ++ [name])).isNone with
  | some name =>
    rw [chosen, found]
    simpa using List.find?_some found
  | none =>
    -- There are more candidates than nodes, and so not all of them can be taken.
    have taken : candidates.map (fun name => dir ++ [name]) ⊆ t.nodes.map (·.1) := by
      intro key hkey
      obtain ⟨name, hname, rfl⟩ := List.mem_map.mp hkey
      have notFree := List.find?_eq_none.mp found name hname
      exact mem_of_node? (by simp) (by simpa using notFree)
    have injective {n m : Nat} (same : dir ++ [candidate n] = dir ++ [candidate m]) : n = m := by
      have names := List.singleton_inj.mp (List.append_cancel_left same)
      have digits := List.append_cancel_left names
      rw [bytes_toString, bytes_toString] at digits
      rw [← Digits.value_ofNat n, digits, Digits.value_ofNat]
    have distinct : (candidates.map fun name => dir ++ [name]).Nodup := by
      rw [List.map_map, List.Nodup, List.pairwise_map]
      exact List.nodup_range.imp fun ne same => ne (injective same)
    have most := distinct.length_le_of_subset taken
    rw [List.length_map, List.length_map, List.length_range, List.length_map] at most
    omega

end Tree

end HalBench.Files
