import HalBench.Proofs.Frame.Parse

/-! Frames received one after another. The payloads depend on the bytes and the ending only, so
the same bytes in one stretch give them all. -/

namespace HalBench

structure Source.Alike (s t : Source) : Prop where
  remaining : s.remaining = t.remaining
  fault : s.fault = t.fault

theorem Source.Alike.joined (s : Source) : s.Alike s.joined :=
  ⟨s.remaining_joined.symm, s.fault_joined.symm⟩

namespace Frame

variable {s t : Source}

/-- The payloads received one after another, up to the first error. -/
def payloads (s : Source) : List Bytes :=
  match _received : receive s with
  | (.ok payload, t) => payload :: payloads t
  | (.error _, _) => []
termination_by s.remaining.length
decreasing_by
  have smaller := receive_shrinks ‹receive s = _›
  omega

def skip : Nat → Source → Source
  | 0, s => s
  | n + 1, s => skip n (receive s).2

theorem payloads_ok {payload : Bytes} (h : receive s = (.ok payload, t)) :
    payloads s = payload :: payloads t := by
  rw [payloads]
  split
  · rename_i received
    rw [h] at received
    cases received
    rfl
  · rename_i received
    rw [h] at received
    cases received

theorem payloads_error {e : Error} (h : receive s = (.error e, t)) : payloads s = [] := by
  rw [payloads]
  split
  · rename_i received
    rw [h] at received
    cases received
  · rfl

theorem skip_succ {answer : Except Error Bytes} (h : receive s = (answer, t)) (n : Nat) :
    skip (n + 1) s = skip n t := by
  rw [skip, h]

theorem receive_alike (h : s.Alike t) :
    (receive s).1 = (receive t).1 ∧ (receive s).2.Alike (receive t).2 := by
  have hs := receive_eq s
  have ht := receive_eq t
  rw [h.remaining, h.fault] at hs
  exact ⟨hs.answer.trans ht.answer.symm, hs.remaining.trans ht.remaining.symm,
    (receive_eq s).fault.trans (h.fault.trans ht.fault.symm)⟩

theorem skip_alike (h : s.Alike t) (n : Nat) : (skip n s).Alike (skip n t) := by
  induction n generalizing s t with
  | zero => exact h
  | succ n ih => exact ih (receive_alike h).2

theorem payloads_alike (h : s.Alike t) : payloads s = payloads t := by
  -- Alike sources need not be equal, so the induction is on the bytes that both have left.
  induction n : s.remaining.length using Nat.strongRecOn generalizing s t with
  | _ n ih =>
    obtain ⟨same, left⟩ := receive_alike h
    cases hs : receive s with
    | mk answer s' =>
      cases ht : receive t with
      | mk answer' t' =>
        rw [hs, ht] at same left
        simp only at same left
        subst same
        cases answer with
        | error e => rw [payloads_error hs, payloads_error ht]
        | ok payload =>
          have smaller := receive_shrinks hs
          rw [payloads_ok hs, payloads_ok ht, ih _ (by omega) left rfl]

theorem skip_fault (n : Nat) (s : Source) : (skip n s).fault = s.fault := by
  induction n generalizing s with
  | zero => rfl
  | succ n ih => exact (ih _).trans (receive_eq s).fault

end Frame

end HalBench
