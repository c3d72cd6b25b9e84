import HalBench.Proofs.Trace.Cleaning

/-! What a cleanup keeps, place by place. Its scan goes from the left and takes pairs greedily. As
an entry never closes a pair and an exit never opens one, no pair can be taken away by the record
before it, and the scan keeps the records that stand next to their partner. -/

namespace HalBench.Trace

/-- An entry and the exit of the same call: same side, same interface, same function. -/
structure Closes (call result : Record) : Prop where
  side : call.event.side = result.event.side
  entered : call.event.phase = .entry
  left : result.event.phase = .exit
  interface : call.qualifiedName = result.qualifiedName
  function : call.message.name = result.message.name

/-- A record made where a service is provided: on the server side or by a passthrough. -/
def Provided (r : Record) : Prop := r.event.side = .server ∨ r.event.side = .passthrough

/-- A client-side record of an interface that has a record of the other side, wherever it stands. -/
def Duplicated (records : List Record) (r : Record) : Prop :=
  r.event.side = .client ∧ ∃ s ∈ records, Provided s ∧ s.qualifiedName = r.qualifiedName

/-- The records at a place and at the next one are an entry and its exit. -/
def ClosesAt (records : List Record) (i : Nat) : Prop :=
  ∃ call ∈ records[i]?, ∃ result ∈ records[i + 1]?, Closes call result

/-- The record at a place stands next to its partner, which is before it or after it. -/
def Paired (records : List Record) : Nat → Prop
  | 0 => ClosesAt records 0
  | i + 1 => ClosesAt records (i + 1) ∨ ClosesAt records i

/-- The elements at the places with a property, in their order. -/
def select {α : Type} (p : Nat → Prop) [DecidablePred p] (l : List α) : List α :=
  (l.zipIdx.filter fun e => p e.2).map Prod.fst

section Select
variable {α : Type} {p q : Nat → Prop} [DecidablePred p] [DecidablePred q]

theorem select_cons (a : α) (l : List α) :
    select p (a :: l) = if p 0 then a :: select (fun i => p (i + 1)) l
      else select (fun i => p (i + 1)) l := by
  have shifted : (l.zipIdx 1).filter (fun e => p e.2) =
      (l.zipIdx.filter fun e => p (e.2 + 1)).map fun e => (e.1, e.2 + 1) := by
    rw [List.zipIdx_succ, List.filter_map]
    rfl
  have rest : ((l.zipIdx 1).filter fun e => p e.2).map Prod.fst =
      select (fun i => p (i + 1)) l := by
    rw [shifted, List.map_map]
    rfl
  rw [select, List.zipIdx_cons, List.filter_cons]
  by_cases here : p 0
  · simp only [here, decide_true, if_true, List.map_cons, rest]
  · simp only [here, decide_false, if_false, Bool.false_eq_true, rest]

theorem select_congr (same : ∀ i, p i ↔ q i) (l : List α) : select p l = select q l := by
  simp only [select, same]

end Select

section Pairs
variable {call result a b c : Record} {records front rest r : List Record} {i : Nat}

theorem matchingExit_eq_some {e f : Event} :
    e.matchingExit = some f ↔ e.side = f.side ∧ e.phase = .entry ∧ f.phase = .exit := by
  obtain ⟨side, phase⟩ := e
  obtain ⟨side', phase'⟩ := f
  cases phase
  · cases phase' <;> simp [Event.matchingExit]
  · simp [Event.matchingExit]

theorem isCompleteCall_iff : isCompleteCall call result = true ↔ Closes call result := by
  simp only [isCompleteCall, Bool.and_eq_true, beq_iff_eq, matchingExit_eq_some]
  constructor
  · rintro ⟨⟨⟨side, entered, left⟩, interface⟩, function⟩
    exact ⟨side, entered, left, interface, function⟩
  · rintro ⟨side, entered, left, interface, function⟩
    exact ⟨⟨⟨side, entered, left⟩, interface⟩, function⟩

instance : Decidable (Closes call result) := decidable_of_iff _ isCompleteCall_iff

instance (records : List Record) : DecidablePred (ClosesAt records) := fun i =>
  inferInstanceAs (Decidable (∃ call ∈ records[i]?, ∃ result ∈ records[i + 1]?, Closes call result))

instance (records : List Record) : DecidablePred (Paired records)
  | 0 => inferInstanceAs (Decidable (ClosesAt records 0))
  | i + 1 => inferInstanceAs (Decidable (ClosesAt records (i + 1) ∨ ClosesAt records i))

theorem isServed_iff : a.isServed = true ↔ Provided a := by
  simp [Record.isServed, Provided]

theorem isDuplicate_iff : a.isDuplicate ((records.filter Record.isServed).map
    Record.qualifiedName) = true ↔ Duplicated records a := by
  simp [Record.isDuplicate, Duplicated, isServed_iff, and_assoc]

instance (records : List Record) : DecidablePred (Duplicated records) := fun _ =>
  decidable_of_iff _ isDuplicate_iff

theorem Closes.not_further (h : Closes a b) : ¬ Closes b c := by
  intro further
  have entered := further.entered
  rw [h.left] at entered
  cases entered

theorem closesAt_zero : ClosesAt (a :: b :: r) 0 ↔ Closes a b := by
  simp [ClosesAt]

theorem closesAt_succ : ClosesAt (a :: r) (i + 1) ↔ ClosesAt r i := Iff.rfl

theorem paired_after (h : Closes a b) : Paired (a :: b :: r) (i + 2) ↔ Paired r i := by
  cases i with
  | zero =>
    have apart : ¬ ClosesAt (b :: r) 0 := by
      rintro ⟨call, here, result, -, further⟩
      cases here
      exact h.not_further further
    simp only [Paired, closesAt_succ, apart, or_false]
  | succ i => simp only [Paired, closesAt_succ]

theorem paired_later (h : ¬ Closes a b) : Paired (a :: b :: r) (i + 1) ↔ Paired (b :: r) i := by
  cases i with
  | zero => simp only [Paired, closesAt_succ, closesAt_zero, h, or_false]
  | succ i => simp only [Paired, closesAt_succ]

/-- The scan from the left keeps the records that stand next to their partner. -/
theorem keepPairs_eq_select (records : List Record) :
    keepPairs records = select (Paired records) records := by
  -- The places shift with the scan: by two after a pair, and by one after a record that is dropped.
  fun_induction keepPairs records with
  | case1 => rfl
  | case2 a =>
    have alone : ¬ Paired [a] 0 := by
      rintro ⟨call, -, result, none, -⟩
      cases none
    rw [select_cons, if_neg alone]
    rfl
  | case3 a b r complete ih =>
    have closes := isCompleteCall_iff.mp complete
    have first : Paired (a :: b :: r) 0 := closesAt_zero.mpr closes
    have second : Paired (a :: b :: r) 1 := .inr first
    rw [select_cons, if_pos first, select_cons, if_pos second, ih]
    rw [select_congr fun i => (paired_after closes).symm]
  | case4 a b r incomplete ih =>
    have apart : ¬ Closes a b := mt isCompleteCall_iff.mpr incomplete
    have first : ¬ Paired (a :: b :: r) 0 := mt closesAt_zero.mp apart
    rw [select_cons, if_neg first, ih]
    rw [select_congr fun i => (paired_later apart).symm]

theorem keepPairs_append (h : Closes call result) (front rest : List Record) :
    keepPairs (front ++ call :: result :: rest) =
      keepPairs front ++ call :: result :: keepPairs rest := by
  have complete := isCompleteCall_iff.mpr h
  fun_induction keepPairs front with
  | case1 => simp [keepPairs, complete]
  | case2 a =>
    have apart : isCompleteCall a call = false := by
      rw [Bool.eq_false_iff]
      exact fun closes => (isCompleteCall_iff.mp closes).not_further h
    simp [keepPairs, apart, complete]
  | case3 a b r closes ih => simp [keepPairs, closes, ih]
  | case4 a b r apart ih => simpa [keepPairs, apart] using ih

end Pairs

section Cleanup
variable (records : List Record)

def unduplicated : List Record := records.filter fun r => ¬ Duplicated records r

theorem mem_unduplicated {records : List Record} {a : Record} :
    a ∈ unduplicated records ↔ a ∈ records ∧ ¬ Duplicated records a := by
  simp [unduplicated]

theorem cleanup_eq : cleanup records =
    (keepPairs (unduplicated records), ⟨(keepPairs (unduplicated records)).length,
      records.length - (unduplicated records).length,
      (unduplicated records).length - (keepPairs (unduplicated records)).length⟩) := by
  have same : (records.filter fun r =>
      !r.isDuplicate ((records.filter Record.isServed).map Record.qualifiedName)) =
        unduplicated records := by
    apply List.filter_congr
    intro r _
    rw [Bool.eq_iff_iff, decide_eq_true_iff, ← isDuplicate_iff]
    simp
  rw [cleanup_counts, same]

/-- A cleanup keeps, in their order, the records that stand next to their partner once the
duplicates are gone. So no two records that close a pair then are lost, whatever stands before them;
and what was removed is counted as duplicate or unpaired. -/
theorem cleanup_places :
    let remaining := records.filter fun r => ¬ Duplicated records r
    let (kept, tally) := cleanup records
    kept = select (Paired remaining) remaining ∧
      (∀ front call result rest, remaining = front ++ call :: result :: rest →
        Closes call result → ∃ before after, before.Sublist front ∧ after.Sublist rest ∧
          kept = before ++ call :: result :: after) ∧
      tally.duplicates + remaining.length = records.length ∧
      tally.unpaired + kept.length = remaining.length ∧ tally.kept = kept.length := by
  intro remaining
  have fewer : remaining.length ≤ records.length := List.length_filter_le ..
  have pairs : (keepPairs remaining).length ≤ remaining.length :=
    (keepPairs_sublist remaining).length_le
  rw [cleanup_eq]
  refine ⟨keepPairs_eq_select remaining, ?_, ?_, ?_, rfl⟩
  · intro front call result rest split closes
    refine ⟨keepPairs front, keepPairs rest, keepPairs_sublist front, keepPairs_sublist rest, ?_⟩
    show keepPairs remaining = _
    rw [split, keepPairs_append closes]
  · exact Nat.sub_add_cancel fewer
  · exact Nat.sub_add_cancel pairs

end Cleanup

end HalBench.Trace
