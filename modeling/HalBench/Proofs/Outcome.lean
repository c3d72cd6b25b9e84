/-! Where a computation of several steps succeeds, each of its steps does. Where the steps are those
for the members of a list, the first one that fails decides. -/

namespace HalBench

variable {ε ε' α β : Type}

theorem ok_of_bind {p : Except ε α} {f : α → Except ε β} {y : β} (h : (p >>= f) = .ok y) :
    ∃ x, p = .ok x ∧ f x = .ok y := by
  cases p with
  | error e => cases h
  | ok x => exact ⟨x, rfl, h⟩

theorem ok_of_map {p : Except ε α} {f : α → β} {y : β} (h : p.map f = .ok y) :
    ∃ x, p = .ok x ∧ f x = y := by
  cases p with
  | error e => cases h
  | ok x =>
    cases h
    exact ⟨x, rfl, rfl⟩

theorem ok_of_mapError {p : Except ε α} {f : ε → ε'} {y : α} (h : p.mapError f = .ok y) :
    p = .ok y := by
  cases p with
  | error e => cases h
  | ok x =>
    cases h
    rfl

section Members
variable {f : α → Except ε β} {x : α} {xs before after : List α} {ys : List β} {e : ε}

theorem mapM_eq_ok : xs.mapM f = .ok ys ↔ xs.map f = ys.map .ok := by
  induction xs generalizing ys with
  | nil =>
    cases ys with
    | nil => exact iff_of_true rfl rfl
    | cons y ys => exact iff_of_false nofun nofun
  | cons x xs ih =>
    rw [List.mapM_cons, List.map_cons]
    constructor
    · intro h
      obtain ⟨y, first, h⟩ := ok_of_bind h
      obtain ⟨more, others, h⟩ := ok_of_bind h
      cases h
      rw [first, ih.mp others, List.map_cons]
    · intro h
      cases ys with
      | nil => cases h
      | cons y ys =>
        obtain ⟨first, others⟩ := List.cons.inj h
        rw [first, ih.mpr others]
        rfl

theorem mapM_error (good : ∀ y ∈ before, (f y).isOk) (bad : f x = .error e) :
    (before ++ x :: after).mapM f = .error e := by
  induction before with
  | nil =>
    rw [List.nil_append, List.mapM_cons, bad]
    rfl
  | cons y before ih =>
    have first := good y List.mem_cons_self
    have others := ih fun z hz => good z (List.mem_cons_of_mem y hz)
    rw [List.cons_append, List.mapM_cons, others]
    cases answer : f y with
    | error e => simp [answer, Except.isOk, Except.toBool] at first
    | ok y => rfl

end Members

end HalBench
