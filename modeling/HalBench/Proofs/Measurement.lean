import HalBench.Measurement

/-! What a measurement window counts. It is changed by starts, stops and calls only; from a start to
the first stop after it every call is counted under its name, and then nothing until the next
start. -/

namespace HalBench.Measurement

/-- What the history of a window is made of. -/
inductive Mark where
  | start
  | stop
  | called (name : String)
  | other
  deriving DecidableEq

/-- The counter of so many calls, a word of 64 bits. There is none where nothing was called. -/
def counter (n : Nat) : Option UInt64 := if n = 0 then none else some (UInt64.ofNat n)

def countOf (calls : Index Summary) (name : String) : Option UInt64 :=
  (calls.get? name).map (·.count)

namespace Window

inductive Moves : Mark → Window → Window → Prop where
  | start (w : Window) (now : Nat) : Moves .start w (.start now)
  | stop (w : Window) (now : Nat) : Moves .stop w (w.stop now).2
  | called (w : Window) (name : String) (elapsed : Duration) :
      Moves (.called name) w (w.record name elapsed)
  | other (w : Window) : Moves .other w w

/-- What marks make of a window, one after another. -/
inductive Course : List Mark → Window → Window → Prop where
  | nil (w : Window) : Course [] w w
  | cons {mark : Mark} {rest : List Mark} {w v u : Window} (first : Moves mark w v)
      (further : Course rest v u) : Course (mark :: rest) w u

variable {w v u : Window} {marks before after : List Mark} {name : String} {n : Nat}

theorem Course.split (h : Course (before ++ after) w u) :
    ∃ v, Course before w v ∧ Course after v u := by
  induction before generalizing w with
  | nil => exact ⟨w, .nil w, h⟩
  | cons mark before ih =>
    cases h with
    | cons first further =>
      obtain ⟨v, inside, rest⟩ := ih further
      exact ⟨v, .cons first inside, rest⟩

theorem countOf_start (now : Nat) (name : String) : countOf (start now).calls name = counter 0 := rfl

theorem stop_calls (w : Window) (now : Nat) : (w.stop now).2.calls = w.calls := by
  unfold stop
  cases w.started <;> rfl

theorem stop_closed (w : Window) (now : Nat) : (w.stop now).2.isActive = false := by
  obtain ⟨started, last, calls⟩ := w
  cases started <;> rfl

theorem record_closed (closed : w.isActive = false) (name : String) (elapsed : Duration) :
    w.record name elapsed = w := by
  rw [record, closed]
  rfl

theorem record_isActive (w : Window) (name : String) (elapsed : Duration) :
    (w.record name elapsed).isActive = w.isActive := by
  unfold record
  split <;> rfl

theorem counter_succ (n : Nat) :
    some (((counter n).getD 0) + 1) = counter (n + 1) := by
  by_cases none : n = 0
  · subst none
    rfl
  · rw [counter, counter, if_neg none, if_neg (Nat.succ_ne_zero n), Option.getD_some,
      UInt64.ofNat_add]
    rfl

theorem countOf_record (opened : w.isActive = true) (counted : countOf w.calls name = counter n)
    (called : String) (elapsed : Duration) :
    countOf (w.record called elapsed).calls name =
      counter (if name = called then n + 1 else n) := by
  rw [record, if_pos opened, countOf]
  simp only [Index.get?_insert]
  split
  · rename_i same
    subst same
    rw [← counter_succ, ← counted, countOf]
    cases w.calls.get? name <;> rfl
  · exact counted

theorem Course.calls_of_closed (h : Course marks w u) (closed : w.isActive = false)
    (noStart : .start ∉ marks) : u.calls = w.calls := by
  induction h with
  | nil => rfl
  | @cons mark rest w v u first further ih =>
    obtain ⟨notStart, later⟩ := not_or.mp (mt List.mem_cons.mpr noStart)
    cases first with
    | start => exact absurd rfl notStart
    | stop _ now => rw [ih (w.stop_closed now) later, stop_calls]
    | called _ name elapsed =>
      rw [record_closed closed] at ih
      exact ih closed later
    | other => exact ih closed later

theorem Course.countOf_of_open (h : Course marks w u) (opened : w.isActive = true)
    (noStart : .start ∉ marks) (counted : countOf w.calls name = counter n) :
    countOf u.calls name =
      counter (n + (marks.takeWhile (· ≠ .stop)).count (.called name)) := by
  induction h generalizing n with
  | nil => exact counted
  | @cons mark rest w v u first further ih =>
    obtain ⟨notStart, later⟩ := not_or.mp (mt List.mem_cons.mpr noStart)
    cases first with
    | start => exact absurd rfl notStart
    | stop _ now =>
      rw [further.calls_of_closed (w.stop_closed now) later, stop_calls]
      exact counted
    | called _ called elapsed =>
      rw [ih ((w.record_isActive called elapsed).trans opened) later
        (countOf_record opened counted called elapsed)]
      rw [List.takeWhile_cons_of_pos (by simp), List.count_cons]
      by_cases same : name = called
      · subst same
        simp only [if_true, beq_self_eq_true]
        congr 1
        omega
      · have other : ¬ called = name := fun e => same e.symm
        simp [same, other]
    | other =>
      rw [ih opened later counted]
      rw [List.takeWhile_cons_of_pos (by simp), List.count_cons]
      simp

end Window

end HalBench.Measurement
