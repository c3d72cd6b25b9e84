import HalBench.Text.Cut
import Mathlib.Data.List.Infix

/-! A text is cut at the first place where a mark stands, and at no other place. So a part comes off
again exactly where no mark begins within it. -/

namespace HalBench.Text

variable {mark text left right rest : List Char} {c : Char}

theorem afterMark?_eq_some : afterMark? mark text = some rest ↔ text = mark ++ rest := by
  induction mark generalizing text with
  | nil => simp [afterMark?]
  | cons a mark ih =>
    cases text with
    | nil => simp [afterMark?]
    | cons c text =>
      by_cases same : a = c
      · simp [afterMark?, same, ih]
      · simp [afterMark?, same, Ne.symm same]

theorem afterMark?_of_ne {a : Char} (other : a ≠ c) : afterMark? (a :: mark) (c :: text) = none :=
  if_neg other

theorem afterMark?_eq_none : afterMark? mark text = none ↔ ¬ mark <+: text := by
  rw [Option.eq_none_iff_forall_ne_some]
  constructor
  · rintro absent ⟨rest, rfl⟩
    exact absent rest (afterMark?_eq_some.mpr rfl)
  · intro absent rest found
    exact absent ⟨rest, (afterMark?_eq_some.mp found).symm⟩

theorem cut_here (here : afterMark? mark text = some rest) : cut mark text = some ([], rest) := by
  cases text with
  | nil => rw [cut, here, Option.map_some]
  | cons c text => rw [cut, here]

theorem cut_later (notHere : afterMark? mark (c :: text) = none) :
    cut mark (c :: text) = (cut mark text).map fun (left, right) => (c :: left, right) := by
  rw [cut, notHere]

/-- The part on the left ends where the mark stands for the first time. -/
theorem cut_eq_some : cut mark text = some (left, right) ↔
    text = left ++ (mark ++ right) ∧ ∀ n < left.length, afterMark? mark (text.drop n) = none := by
  induction text generalizing left with
  | nil =>
    cases left with
    | nil => simp [cut, afterMark?_eq_some]
    | cons a left => simp [cut]
  | cons c text ih =>
    cases here : afterMark? mark (c :: text) with
    | some rest =>
      rw [cut_here here]
      cases left with
      | nil =>
        have ended : c :: text = mark ++ right ↔ rest = right := by
          rw [← afterMark?_eq_some, here, Option.some.injEq]
        simp [ended]
      | cons a left =>
        refine iff_of_false (by simp) fun ⟨_, first⟩ => ?_
        have absent := first 0 (Nat.succ_pos _)
        rw [List.drop_zero, here] at absent
        cases absent
    | none =>
      rw [cut_later here]
      cases left with
      | nil =>
        refine iff_of_false (by simp) fun ⟨whole, _⟩ => ?_
        have found : afterMark? mark (c :: text) = some right := afterMark?_eq_some.mpr whole
        rw [here] at found
        cases found
      | cons a left =>
        simp only [Option.map_eq_some_iff, Prod.exists, Prod.mk.injEq, List.cons.injEq,
          List.cons_append, List.length_cons]
        constructor
        · rintro ⟨l, r, found, ⟨rfl, rfl⟩, rfl⟩
          obtain ⟨whole, first⟩ := ih.mp found
          refine ⟨⟨rfl, whole⟩, fun n inside => ?_⟩
          cases n with
          | zero => exact here
          | succ n => exact first n (Nat.lt_of_succ_lt_succ inside)
        · rintro ⟨⟨rfl, whole⟩, first⟩
          refine ⟨left, right, ih.mpr ⟨whole, fun n inside => ?_⟩, ⟨rfl, rfl⟩, rfl⟩
          exact first (n + 1) (Nat.succ_lt_succ inside)

theorem append_of_cut (h : cut mark text = some (left, right)) : text = left ++ (mark ++ right) :=
  (cut_eq_some.mp h).1

/-- A text is cut at the end of a part that does not have the first character of the mark. -/
theorem cut_append (absent : c ∉ left) :
    cut (c :: mark) (left ++ (c :: mark ++ right)) = some (left, right) := by
  refine cut_eq_some.mpr ⟨rfl, fun n inside => ?_⟩
  rw [List.drop_append_of_le_length (Nat.le_of_lt inside), List.drop_eq_getElem_cons inside]
  exact afterMark?_of_ne fun same => absent (same ▸ List.getElem_mem inside)

theorem append_mark_inj (mark : List Char) {left' right' : List Char} (absent : c ∉ left) (absent' : c ∉ left')
    (h : left ++ (c :: mark ++ right) = left' ++ (c :: mark ++ right')) :
    left = left' ∧ right = right' := by
  have same : cut (c :: mark) (left ++ (c :: mark ++ right)) = some (left, right) :=
    cut_append absent
  rw [h, cut_append absent'] at same
  cases same
  exact ⟨rfl, rfl⟩

theorem not_mem_of_cut (h : cut [c] text = some (left, right)) : c ∉ left := by
  intro member
  obtain ⟨n, inside, at_⟩ := List.mem_iff_getElem.mp member
  obtain ⟨whole, first⟩ := cut_eq_some.mp h
  have absent := first n inside
  rw [whole, List.drop_append_of_le_length (Nat.le_of_lt inside), List.drop_eq_getElem_cons inside,
    at_, List.cons_append, afterMark?, if_pos rfl] at absent
  cases absent

/-- A part comes off at the mark after it exactly where no mark begins within the part: it would
stand in the part and in the mark without its last character. -/
theorem cut_append_iff :
    cut (mark ++ [c]) (left ++ (mark ++ [c] ++ right)) = some (left, right) ↔
      ¬ mark ++ [c] <:+: left ++ mark := by
  have whole : left ++ (mark ++ [c] ++ right) = left ++ mark ++ ([c] ++ right) := by simp
  rw [cut_eq_some]
  simp only [true_and, afterMark?_eq_none]
  constructor
  · rintro first ⟨s, t, found⟩
    have inside : s.length < left.length := by
      have lengths := congrArg List.length found
      simp only [List.length_append, List.length_singleton] at lengths
      omega
    refine first s.length inside ⟨t ++ ([c] ++ right), ?_⟩
    rw [whole, ← found]
    simp
  · intro absent n inside ⟨t, found⟩
    have within : n ≤ (left ++ mark).length := by
      rw [List.length_append]
      omega
    have here : mark ++ [c] <+: (left ++ mark).drop n := by
      refine List.prefix_of_prefix_length_le ⟨t, found⟩ ?_ ?_
      · rw [whole, List.drop_append_of_le_length within]
        exact List.prefix_append _ _
      · simp only [List.length_append, List.length_singleton, List.length_drop]
        omega
    exact absent (List.infix_iff_prefix_suffix.mpr ⟨_, here, List.drop_suffix n _⟩)

/-- A mark of one character twice may also begin with the last character of the part. -/
theorem cut_twice_iff : cut [c, c] (left ++ ([c, c] ++ right)) = some (left, right) ↔
    ¬ [c, c] <:+: left ∧ left.getLast? ≠ some c := by
  have last : [c, c] <:+ left ++ [c] ↔ left.getLast? = some c := by
    rw [List.getLast?_eq_some_iff]
    constructor
    · rintro ⟨s, whole⟩
      have same : s ++ [c] ++ [c] = left ++ [c] := (List.append_assoc s [c] [c]).trans whole
      exact ⟨s, (List.append_cancel_right same).symm⟩
    · rintro ⟨s, rfl⟩
      exact ⟨s, (List.append_assoc s [c] [c]).symm⟩
  have within : [c, c] <:+: left ++ [c] ↔ left.getLast? = some c ∨ [c, c] <:+: left := by
    rw [List.infix_concat_iff, last]
  show cut ([c] ++ [c]) (left ++ ([c] ++ [c] ++ right)) = some (left, right) ↔ _
  rw [cut_append_iff, List.singleton_append, within, not_or, and_comm]

theorem splitOn_mark (text : List Char) : splitOn c (c :: text) = [] :: splitOn c text := by
  rw [splitOn, if_pos rfl]

theorem length_splitOn (text : List Char) : (splitOn c text).length = text.count c + 1 := by
  induction text with
  | nil => rfl
  | cons d text ih =>
    rw [splitOn]
    split
    · rename_i same
      rw [same, List.length_cons, ih, List.count_cons_self]
    · rename_i other
      rw [List.count_cons_of_ne other]
      cases parts : splitOn c text with
      | nil =>
        rw [parts] at ih
        cases ih
      | cons part parts' =>
        rw [parts] at ih
        exact ih

theorem splitOn_append (absent : c ∉ left) (right : List Char) :
    splitOn c (left ++ c :: right) = left :: splitOn c right := by
  induction left with
  | nil => exact splitOn_mark right
  | cons d left ih =>
    obtain ⟨other, absent⟩ := not_or.mp (List.mem_cons.not.mp absent)
    rw [List.cons_append, splitOn, if_neg (Ne.symm other), ih absent]

/-- Lines that each end with a mark are the parts of the whole, and nothing stands after them. -/
theorem splitOn_lines {lines : List (List Char)} (absent : ∀ l ∈ lines, c ∉ l) :
    splitOn c (lines.flatMap (· ++ [c])) = lines ++ [[]] := by
  induction lines with
  | nil => rfl
  | cons l lines ih =>
    rw [List.flatMap_cons, List.append_assoc, List.singleton_append,
      splitOn_append (absent l List.mem_cons_self), ih fun k hk => absent k (List.mem_cons_of_mem l hk)]
    rfl

end HalBench.Text
