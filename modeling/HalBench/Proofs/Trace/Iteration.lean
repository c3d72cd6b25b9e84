import HalBench.Proofs.Trace.Reading

/-! Iterations over traces. An iteration yields the records of the trace, then the error that the
trace has, if it has one, and from then on nothing. -/

namespace HalBench.Trace

variable {reader s : Reader}

def Iteration.answers : Nat → Iteration → List (Option (Except Error Record))
  | 0, _ => []
  | k + 1, i =>
    let (answer, i) := i.next
    answer :: answers k i

theorem Iteration.answers_succ {i j : Iteration} {answer : Option (Except Error Record)}
    (h : i.next = (answer, j)) (k : Nat) : answers (k + 1) i = answer :: answers k j := by
  rw [answers, h]

theorem Iteration.answers_done (reader : Reader) (k : Nat) :
    answers k ⟨reader, true⟩ = List.replicate k none := by
  induction k with
  | zero => rfl
  | succ k ih => rw [answers_succ (i := ⟨reader, true⟩) rfl, ih, List.replicate_succ]

/-- What is yielded on the way to the end: records, and an error after them. -/
def yields (records : List Record) (ending : Option Error) : List (Option (Except Error Record)) :=
  records.map (fun r => some (.ok r)) ++ ending.toList.map fun e => some (.error e)

/-- Every request is answered with what is yielded next, and with nothing when all of it was. -/
theorem Iteration.answers_eq (reader : Reader) (k : Nat) :
    let all := yields reader.records.1 reader.records.2
    answers k ⟨reader, false⟩ = all.take k ++ List.replicate (k - all.length) none := by
  intro all
  induction k generalizing reader with
  | zero => simp [answers]
  | succ k ih =>
    cases read : reader.readRecord with
    | mk answer s =>
      match answer with
      | .error e =>
        have step : next ⟨reader, false⟩ = (some (.error e), ⟨s, true⟩) := by
          simp only [next, read]
          rfl
        have last : all = [some (.error e)] := by
          simp only [all, Reader.records_error read]
          rfl
        rw [answers_succ step, answers_done, last, List.take_succ_cons, List.take_nil]
        rfl
      | .ok none =>
        have step : next ⟨reader, false⟩ = (none, ⟨s, true⟩) := by
          simp only [next, read]
          rfl
        have nothing : all = [] := by
          simp only [all, Reader.records_end read]
          rfl
        rw [answers_succ step, answers_done, nothing, List.take_nil]
        rfl
      | .ok (some record) =>
        have step : next ⟨reader, false⟩ = (some (.ok record), ⟨s, false⟩) := by
          simp only [next, read]
          rfl
        have more : all = some (.ok record) :: yields s.records.1 s.records.2 := by
          simp only [all, Reader.records_ok read]
          rfl
        rw [answers_succ step, ih s, more, List.take_succ_cons, List.length_cons,
          Nat.add_sub_add_right, List.cons_append]

theorem Reader.length_records (reader : Reader) :
    2 * reader.records.1.length ≤ reader.source.remaining.length := by
  induction n : reader.source.remaining.length using Nat.strongRecOn generalizing reader with
  | _ n ih =>
    cases read : reader.readRecord with
    | mk answer s =>
      match answer with
      | .error e =>
        rw [records_error read]
        exact Nat.zero_le _
      | .ok none =>
        rw [records_end read]
        exact Nat.zero_le _
      | .ok (some record) =>
        have smaller := readRecord_shrinks read
        have others := ih _ (by omega) s rfl
        rw [records_ok read, List.length_cons]
        omega

end HalBench.Trace
