import HalBench.Proofs.Trace.Pairs

/-! Interfaces in a cleanup. The client side gives way as soon as there is a record of the other
side, also where that recording was cut short and has no whole call. So an interface with calls is
lost in just one way: its client side is removed, and what is left of it closes no pair. -/

namespace HalBench.Trace

/-- Somewhere an entry with a property stands before its exit. -/
def HasCall (p : Record → Prop) (records : List Record) : Prop :=
  ∃ front call result rest, records = front ++ call :: result :: rest ∧ Closes call result ∧ p call

def Tells (name : String) (r : Record) : Prop := r.qualifiedName = name

/-- The server side or a passthrough recorded something of an interface. -/
def ProvidedIn (records : List Record) (name : String) : Prop :=
  ∃ s ∈ records, Provided s ∧ Tells name s

section Calls
variable {p q : Record → Prop} {records r : List Record} {a : Record}

theorem hasCall_cons : HasCall p (a :: r) ↔
    (∃ b rest, r = b :: rest ∧ Closes a b ∧ p a) ∨ HasCall p r := by
  constructor
  · rintro ⟨front, call, result, rest, split, closes, holds⟩
    cases front with
    | nil =>
      obtain ⟨rfl, rfl⟩ := List.cons.inj split
      exact .inl ⟨result, rest, rfl, closes, holds⟩
    | cons x front =>
      obtain ⟨rfl, rfl⟩ := List.cons.inj split
      exact .inr ⟨front, call, result, rest, rfl, closes, holds⟩
  · rintro (⟨b, rest, rfl, closes, holds⟩ | ⟨front, call, result, rest, rfl, closes, holds⟩)
    · exact ⟨[], a, b, rest, rfl, closes, holds⟩
    · exact ⟨a :: front, call, result, rest, rfl, closes, holds⟩

theorem not_hasCall_nil : ¬ HasCall p [] := by
  rintro ⟨front, call, result, rest, split, -⟩
  simp at split

theorem HasCall.mono (h : HasCall p records) (imp : ∀ r, p r → q r) : HasCall q records := by
  obtain ⟨front, call, result, rest, split, closes, holds⟩ := h
  exact ⟨front, call, result, rest, split, closes, imp call holds⟩

theorem hasCall_keepPairs : HasCall p (keepPairs records) ↔ HasCall p records := by
  constructor
  · intro h
    fun_induction keepPairs records with
    | case1 => exact h
    | case2 a => exact absurd h not_hasCall_nil
    | case3 a b r complete ih =>
      have closes := isCompleteCall_iff.mp complete
      rcases hasCall_cons.mp h with ⟨b', rest, split, closes', holds⟩ | h
      · exact hasCall_cons.mpr (.inl ⟨b, r, rfl, closes, holds⟩)
      -- A call does not begin at the exit of another one.
      · rcases hasCall_cons.mp h with ⟨c, rest, -, further, -⟩ | h
        · exact absurd further closes.not_further
        · exact hasCall_cons.mpr (.inr (hasCall_cons.mpr (.inr (ih h))))
    | case4 a b r incomplete ih => exact hasCall_cons.mpr (.inr (ih h))
  · rintro ⟨front, call, result, rest, rfl, closes, holds⟩
    exact ⟨_, call, result, _, keepPairs_append closes front rest, closes, holds⟩

theorem hasCall_of_mem_keepPairs (h : a ∈ keepPairs records) :
    HasCall (fun call => call.event.side = a.event.side ∧ call.qualifiedName = a.qualifiedName)
      records := by
  fun_induction keepPairs records with
  | case1 => cases h
  | case2 => cases h
  | case3 call result r complete ih =>
    have closes := isCompleteCall_iff.mp complete
    rcases List.mem_cons.mp h with rfl | h
    · exact ⟨[], a, result, r, rfl, closes, rfl, rfl⟩
    · rcases List.mem_cons.mp h with rfl | h
      · exact ⟨[], call, a, r, rfl, closes, closes.side, closes.interface⟩
      · exact hasCall_cons.mpr (.inr (hasCall_cons.mpr (.inr (ih h))))
  | case4 x y r incomplete ih => exact hasCall_cons.mpr (.inr (ih h))

/-- A call whose entry is no duplicate stays whole, because its exit is none either. -/
theorem HasCall.unduplicated (h : HasCall p records) (stays : ∀ r, p r → ¬ Duplicated records r) :
    HasCall p (unduplicated records) := by
  obtain ⟨front, call, result, rest, split, closes, holds⟩ := h
  have entry := stays call holds
  have exit_ : ¬ Duplicated records result := by
    rintro ⟨side, s, mem, provided, name⟩
    exact entry ⟨closes.side.trans side, s, mem, provided, name.trans closes.interface.symm⟩
  have kept (f : Record → Bool) (first : f call = true) (second : f result = true) :
      records.filter f = front.filter f ++ call :: result :: rest.filter f := by
    rw [split, List.filter_append, List.filter_cons_of_pos first, List.filter_cons_of_pos second]
  exact ⟨_, call, result, _, kept _ (decide_eq_true entry) (decide_eq_true exit_), closes, holds⟩

end Calls

section Interfaces
variable (records : List Record) (name : String)

/-- What a cleanup does to the calls of an interface. It leaves none where there were some exactly
when the other side has a record of the interface and no entry stands before its exit once the
client-side records are removed; a call on another side than the client's is never lost. The
client-side records of an interface are removed as duplicates exactly when the other side has a
record of it, and that side has a record afterwards exactly when it has a call then. -/
theorem cleanup_interfaces :
    let remaining := unduplicated records
    let kept := (cleanup records).1
    (HasCall (Tells name) records → (¬ HasCall (Tells name) kept ↔
      ProvidedIn records name ∧ ¬ HasCall (Tells name) remaining)) ∧
    (HasCall (fun r => Tells name r ∧ r.event.side ≠ .client) records →
      HasCall (Tells name) kept) ∧
    (∀ r ∈ records, Tells name r →
      (r ∉ remaining ↔ r.event.side = .client ∧ ProvidedIn records name)) ∧
    (ProvidedIn kept name ↔ HasCall (fun r => Provided r ∧ Tells name r) remaining) := by
  intro remaining kept
  have calls {p : Record → Prop} : HasCall p kept ↔ HasCall p remaining := by
    show HasCall p (cleanup records).1 ↔ _
    rw [cleanup_eq]
    exact hasCall_keepPairs
  refine ⟨fun call => ?_, fun call => ?_, fun r mem tells => ?_, ?_, ?_⟩
  · rw [calls]
    constructor
    · intro lost
      by_cases provided : ProvidedIn records name
      · exact ⟨provided, lost⟩
      · refine absurd (call.unduplicated fun r tells => ?_) lost
        rintro ⟨-, s, mem, other, same⟩
        exact provided ⟨s, mem, other, same.trans tells⟩
    · exact fun lost => lost.2
  · have stays := call.unduplicated fun r holds duplicated => holds.2 duplicated.1
    exact calls.mpr (stays.mono fun r holds => holds.1)
  · have duplicated : Duplicated records r ↔ r.event.side = .client ∧ ProvidedIn records name := by
      rw [← show r.qualifiedName = name from tells]
      rfl
    show r ∉ unduplicated records ↔ _
    rw [mem_unduplicated, ← duplicated]
    simp [mem]
  · rintro ⟨s, mem, provided, tells⟩
    have mem' : s ∈ keepPairs remaining := by
      rw [show kept = keepPairs remaining from congrArg Prod.fst (cleanup_eq records)] at mem
      exact mem
    refine (hasCall_of_mem_keepPairs mem').mono fun call both => ?_
    obtain ⟨side, same⟩ := both
    refine ⟨?_, same.trans tells⟩
    unfold Provided at provided ⊢
    rwa [side]
  · intro call
    obtain ⟨front, entry, result, rest, split, -, provided, tells⟩ := calls.mpr call
    refine ⟨entry, ?_, provided, tells⟩
    rw [split]
    simp

end Interfaces

/-- A call on the client side, and on the server side only the entry of one. -/
def cutShort : List Record :=
  [Phase.entry, .exit].map (fun phase => { served phase with event := ⟨.client, phase⟩ }) ++
    [served .entry]

/-- The client side gives way to a recording that was cut short: both of its records are removed as
duplicates, and the interface is lost. -/
theorem cleanup_cutShort :
    HasCall (Tells "p@1.0::IFoo") cutShort ∧
      ¬ HasCall (Tells "p@1.0::IFoo") (cleanup cutShort).1 ∧
      (∃ r ∈ cutShort, Duplicated cutShort r ∧ Tells "p@1.0::IFoo" r) ∧
      ¬ ProvidedIn (cleanup cutShort).1 "p@1.0::IFoo" := by
  have name (phase : Phase) : (served phase).qualifiedName = "p@1.0::IFoo" := by
    cases phase <;> decide +kernel
  have nothing : (cleanup cutShort).1 = [] := by
    apply List.eq_nil_of_length_eq_zero
    decide +kernel
  rw [nothing]
  refine ⟨⟨[], _, _, _, rfl, ⟨rfl, rfl, rfl, rfl, rfl⟩, name .entry⟩, not_hasCall_nil, ?_, ?_⟩
  · exact ⟨_, List.mem_cons_self, ⟨rfl, served .entry, by simp [cutShort], .inl rfl, rfl⟩, name .entry⟩
  · rintro ⟨s, mem, -⟩
    cases mem

end HalBench.Trace
