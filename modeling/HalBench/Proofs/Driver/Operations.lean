import HalBench.Driver.Scripted
import HalBench.Proofs.Driver.Table

/-! What a table tells after any operations is told by the operations alone: which keys were
registered first, which driver was registered last for a key and which calls it has had since, and
which binding of a service name was the last that succeeded. -/

namespace HalBench.Driver

open Service

variable {δ ω : Type}

/-- What is done with a table. Every call is made in a world of its own. -/
inductive Operation (δ ω : Type) where
  | register (entry : Entry δ)
  | registerNamed (service : String) (entry : Entry δ)
  | bind (service : String) (id : Id)
  | invoke (id : Id) (call : Message) (world : ω)

inductive Outcome where
  | number (id : Id)
  | bound (known : Bool)
  | text (answer : String)

namespace Operation

def registers? : Operation δ ω → Option (Entry δ)
  | register e => some e
  | registerNamed _ e => some e
  | bind _ _ => none
  | invoke _ _ _ => none

def key? (op : Operation δ ω) : Option Key := op.registers?.map (·.key)

/-- The service name that was bound, and the number that it was bound to. -/
def binding? : Operation δ ω × Outcome → Option (String × Id)
  | (registerNamed service _, .number id) => some (service, id)
  | (bind service id, .bound true) => some (service, id)
  | _ => none

variable [Model δ ω]

def perform (t : Table δ) : Operation δ ω → Outcome × Table δ
  | register e =>
    let (id, t) := t.register e.key e.category e.driver
    (.number id, t)
  | registerNamed service e =>
    let (id, t) := t.registerNamed service e.key e.category e.driver
    (.number id, t)
  | bind service id =>
    let (known, t) := t.bind service id
    (.bound known, t)
  | invoke id call w =>
    let (answer, t, _) := t.invoke id call w
    (.text answer, t)

/-- What becomes of the driver of a number: a call of the number may change it. -/
def act (id : Id) (driver : δ) : Operation δ ω → δ
  | invoke id' call w => if id' = id then (Model.call driver call w).2.1 else driver
  | _ => driver

end Operation

/-- The keys that are registered, in the order of their first registrations. -/
def registered (ops : List (Operation δ ω)) : List Key := (ops.filterMap (·.key?)).eraseDups

/-- The driver of a number after some operations that do not replace it. -/
def actAll [Model δ ω] (id : Id) (driver : δ) (ops : List (Operation δ ω)) : δ :=
  ops.foldl (Operation.act id) driver

/-- Operations, each with what it returns, and the table that they leave. -/
def Table.run [Model δ ω] :
    Table δ → List (Operation δ ω) → List (Operation δ ω × Outcome) × Table δ
  | t, [] => ([], t)
  | t, op :: rest =>
    let (outcome, t) := op.perform t
    let (log, t) := t.run rest
    ((op, outcome) :: log, t)

theorem registered_concat (ops : List (Operation δ ω)) (op : Operation δ ω) :
    registered (ops ++ [op]) =
      match op.key? with
      | some key => if key ∈ registered ops then registered ops else registered ops ++ [key]
      | none => registered ops := by
  rw [registered, Table.eraseDups_filterMap_concat]
  cases op.key? <;> rfl

theorem Operation.key?_eq {op : Operation δ ω} {e : Entry δ}
    (registers : op.registers? = some e) : op.key? = some e.key := by
  rw [key?, registers]
  rfl

theorem mem_registered {key : Key} {ops : List (Operation δ ω)} :
    key ∈ registered ops ↔ ∃ op ∈ ops, op.key? = some key := by
  rw [registered, List.mem_eraseDups, List.mem_filterMap]

theorem length_registered_append {ops rest : List (Operation δ ω)} :
    (registered ops).length ≤ (registered (ops ++ rest)).length :=
  Table.length_eraseDups_filterMap_append Operation.key? ops rest

section Performing

variable [Model δ ω] {t : Table δ} {op : Operation δ ω} {e : Entry δ} {keys : List Key} {key : Key}
  {id : Id}

theorem perform_register (registers : op.registers? = some e) :
    (op.perform t).1 = .number (t.register e.key e.category e.driver).1 ∧
    Table.entry? (op.perform t).2 = Table.entry? (t.register e.key e.category e.driver).2 ∧
    (op.perform t).2.resolve = (t.register e.key e.category e.driver).2.resolve := by
  cases op with
  | register e' =>
    cases registers
    exact ⟨rfl, rfl, rfl⟩
  | registerNamed service e' =>
    cases registers
    exact ⟨rfl, Table.entry?_bind, Table.resolve_bind⟩
  | bind service id => cases registers
  | invoke id call w => cases registers

theorem perform_other (other : op.registers? = none) :
    (∀ id, (op.perform t).1 ≠ .number id) ∧
    (∀ id, Table.entry? (op.perform t).2 id =
      (t.entry? id).map fun e => { e with driver := op.act id e.driver }) ∧
    (op.perform t).2.resolve = t.resolve := by
  cases op with
  | register e => cases other
  | registerNamed service e => cases other
  | bind service id =>
    refine ⟨nofun, fun id' => ?_, Table.resolve_bind⟩
    show Table.entry? (t.bind service id).2 id' = _
    rw [Table.entry?_bind]
    exact (Option.map_id' ..).symm
  | invoke id call w =>
    refine ⟨nofun, fun id' => ?_, ?_⟩
    · show Table.entry? (t.invoke id call w).2.1 id' = _
      rw [Table.entry?_invoke]
      by_cases same : id = id' <;> simp [Operation.act, same]
    · show (t.invoke id call w).2.1.resolve = _
      funext key
      rw [Table.resolve, Table.invoke_sameNumbers.numbers, Table.resolve]

theorem act_register (registers : op.registers? = some e) (id : Id) (driver : δ) :
    op.act id driver = driver := by
  cases op with
  | register e' => rfl
  | registerNamed service e' => rfl
  | bind service id => cases registers
  | invoke id call w => cases registers

theorem resolve_perform (op : Operation δ ω) (known : t.resolve key = some id) :
    (op.perform t).2.resolve key = some id := by
  cases registers : op.registers? with
  | none => rw [(perform_other registers).2.2, known]
  | some e =>
    rw [(perform_register registers).2.2, Table.resolve_register]
    split
    · rename_i same
      rw [Table.register_known (same ▸ known)]
    · exact known

theorem resolve_perform_of_ne (other : op.key? ≠ some key) :
    (op.perform t).2.resolve key = t.resolve key := by
  cases registers : op.registers? with
  | none => rw [(perform_other registers).2.2]
  | some e =>
    rw [Operation.key?_eq registers] at other
    rw [(perform_register registers).2.2, Table.resolve_register,
      if_neg fun same => other (congrArg some same.symm)]

/-- A driver that is not replaced stays, as the operation leaves it. -/
theorem entry?_perform (h : t.Numbered keys)
    (room : ∀ key, op.key? = some key → key ∈ keys ∨ t.size < UInt32.size)
    {category : Category} {driver : δ} (other : op.key? ≠ some key)
    (here : t.entry? id = some ⟨key, category, driver⟩) :
    Table.entry? (op.perform t).2 id = some ⟨key, category, op.act id driver⟩ := by
  cases registers : op.registers? with
  | none =>
    rw [(perform_other registers).2.1, here]
    rfl
  | some e =>
    have own : t.resolve key = some id := h.resolve_eq_key?.mpr (by rw [Table.key?, here]; rfl)
    have registered := Operation.key?_eq registers
    have different : key ≠ e.key := fun same => other (registered.trans (congrArg some same.symm))
    have notOwn : id ≠ (t.register e.key e.category e.driver).1 := fun same =>
      h.resolve_ne_register (room e.key registered) different (own.trans (congrArg some same))
    rw [(perform_register registers).2.1, h.entry?_register (room e.key registered),
      if_neg notOwn, here, act_register registers]

/-- A service name that is not bound by an operation is bound to what it was bound to before. -/
theorem perform_lookup (h : t.Numbered keys)
    (room : ∀ key, op.key? = some key → key ∈ keys ∨ t.size < UInt32.size) (service : String) :
    (op.perform t).2.lookup service =
      ((Operation.binding? (op, (op.perform t).1)).toList.lookup service).or
        (t.lookup service) := by
  cases op with
  | register e => exact Table.lookup_register
  | registerNamed name e =>
    simp only [Operation.perform, Table.registerNamed_eq, Operation.binding?, Table.lookup_bind,
      h.bind_register (room e.key rfl), and_true, Table.lookup_register, Option.toList_some, Entries.lookup_cons]
    split <;> rfl
  | bind name id =>
    simp only [Operation.perform, Table.lookup_bind]
    cases (t.bind name id).1 with
    | false => simp [Operation.binding?]
    | true =>
      simp only [Operation.binding?, and_true, Option.toList_some, Entries.lookup_cons]
      split <;> rfl
  | invoke id call w =>
    simp only [Operation.perform, Table.lookup, Table.invoke_sameNumbers.services]
    rfl

/-- What operations and what they returned tell about the table that they left. -/
structure Told (ops : List (Operation δ ω)) (log : List (Operation δ ω × Outcome))
    (t : Table δ) : Prop where
  numbered : t.Numbered (registered ops)
  returned : ∀ op id key, (op, Outcome.number id) ∈ log → op.key? = some key →
    t.resolve key = some id
  latest : ∀ before op since e id, ops = before ++ op :: since → op.registers? = some e →
    (∀ o ∈ since, o.key? ≠ some e.key) → t.resolve e.key = some id →
    t.entry? id = some { e with driver := actAll id e.driver since }
  lookup_eq : ∀ service, t.lookup service = (log.filterMap Operation.binding?).reverse.lookup service

theorem told_nothing : Told ([] : List (Operation δ ω)) [] {} where
  numbered := Table.numbered_empty
  returned _ _ _ member := nomatch member
  latest before _ _ _ _ split := by cases before <;> cases split
  lookup_eq _ := rfl

theorem lookup_append {κ α : Type} [BEq κ] (l r : List (κ × α)) (key : κ) :
    (l ++ r).lookup key = (l.lookup key).or (r.lookup key) := by
  induction l with
  | nil => rfl
  | cons m l ih =>
    rw [List.cons_append, List.lookup_cons, List.lookup_cons]
    cases key == m.1
    · exact ih
    · rfl

namespace Told

variable {ops : List (Operation δ ω)} {log : List (Operation δ ω × Outcome)}

theorem room (h : Told ops log t) (fits : (registered (ops ++ [op])).length ≤ UInt32.size) (key : Key)
    (registers : op.key? = some key) : key ∈ registered ops ∨ t.size < UInt32.size := by
  rw [registered_concat, registers] at fits
  exact h.numbered.room fits

theorem numbered_perform (h : Told ops log t)
    (fits : (registered (ops ++ [op])).length ≤ UInt32.size) :
    (op.perform t).2.Numbered (registered (ops ++ [op])) := by
  have room := h.room fits
  rw [registered_concat]
  cases op with
  | register e => exact h.numbered.register (room e.key rfl)
  | registerNamed service e => exact (h.numbered.register (room e.key rfl)).bind
  | bind service id => exact h.numbered.bind
  | invoke id call w => exact h.numbered.of_sameNumbers Table.invoke_sameNumbers

theorem step (h : Told ops log t) (fits : (registered (ops ++ [op])).length ≤ UInt32.size) :
    Told (ops ++ [op]) (log ++ [(op, (op.perform t).1)]) (op.perform t).2 where
  numbered := h.numbered_perform fits
  returned op' id key member registers := by
    rcases List.mem_append.mp member with earlier | now
    · exact resolve_perform op (h.returned op' id key earlier registers)
    · obtain ⟨rfl, number⟩ := Prod.mk.inj (List.mem_singleton.mp now)
      obtain ⟨e, registering, rfl⟩ := Option.map_eq_some_iff.mp registers
      obtain ⟨returns, -, resolve⟩ := perform_register (t := t) registering
      rw [returns] at number
      rw [resolve, Table.resolve_register, if_pos rfl, Outcome.number.inj number]
  latest before op' since e id split registers last found := by
    rcases List.eq_nil_or_concat since with rfl | ⟨since, op'', rfl⟩
    · obtain ⟨rfl, same⟩ := List.append_inj' split rfl
      cases same
      obtain ⟨-, entry, resolve⟩ := perform_register (t := t) registers
      rw [resolve, Table.resolve_register, if_pos rfl] at found
      rw [entry, h.numbered.entry?_register (h.room fits e.key (Operation.key?_eq registers)),
        if_pos (Option.some.inj found).symm]
      rfl
    · rw [List.concat_eq_append] at split last ⊢
      rw [← List.cons_append, ← List.append_assoc] at split
      obtain ⟨rfl, same⟩ := List.append_inj' split rfl
      cases same
      have other : op.key? ≠ some e.key := last op (by simp)
      have here := h.latest before op' since e id rfl registers
        (fun o ho => last o (List.mem_append_left _ ho)) (resolve_perform_of_ne other ▸ found)
      rw [entry?_perform h.numbered (h.room fits) other here, actAll, actAll, List.foldl_append]
      rfl
  lookup_eq service := by
    rw [perform_lookup h.numbered (h.room fits), List.filterMap_append, List.reverse_append,
      lookup_append, ← h.lookup_eq]
    cases h : Operation.binding? (op, (op.perform t).1) <;> simp [h]

theorem run (h : Told ops log t) (rest : List (Operation δ ω))
    (fits : (registered (ops ++ rest)).length ≤ UInt32.size) :
    Told (ops ++ rest) (log ++ (t.run rest).1) (t.run rest).2 := by
  induction rest generalizing ops log t with
  | nil => simpa [Table.run] using h
  | cons op rest ih =>
    rw [List.append_cons] at fits ⊢
    have now : Told (ops ++ [op]) _ _ := h.step (Nat.le_trans length_registered_append fits)
    simpa [Table.run, List.append_assoc] using ih now fits

end Told

/-- A table that operations have made from an empty one numbers the registered keys in the order
of their first registrations, and every key keeps the number that was once returned for it. The
driver of a number is the one that was registered last for its key, as the calls since then have
left it. A service name is bound to the number of its last successful binding, and there is such a
driver. A number that no driver has can neither be bound nor called. -/
theorem run_consistent (ops : List (Operation δ ω)) (fits : (registered ops).length ≤ UInt32.size) :
    let log := (Table.run {} ops).1
    let t := (Table.run {} ops).2
    (t.size = (registered ops).length ∧ ∀ id, t.key? id = (registered ops)[id.toNat]?) ∧
    (∀ key id, t.resolve key = some id ↔
      (∃ op ∈ ops, op.key? = some key) ∧ t.key? id = some key) ∧
    (∀ id id' key, t.key? id = some key → t.key? id' = some key → id = id') ∧
    (∀ op id key, (op, .number id) ∈ log → op.key? = some key →
      t.resolve key = some id ∧
      ∀ op' : Operation δ ω, op'.key? = some key → (op'.perform t).1 = .number id) ∧
    (∀ before op since e id, ops = before ++ op :: since → op.registers? = some e →
      (∀ o ∈ since, o.key? ≠ some e.key) → t.key? id = some e.key →
      let driver := actAll id e.driver since
      t.category? id = some e.category ∧
      (∀ expected actual, t.verify id expected actual = Model.verify driver expected actual) ∧
      ∀ call w, (t.invoke id call w).1 = Table.answerText (Model.call driver call w).1 ∧
        (t.invoke id call w).2.2 = (Model.call driver call w).2.2) ∧
    (∀ service, t.lookup service = (log.filterMap Operation.binding?).reverse.lookup service ∧
      ∀ id, t.lookup service = some id → id.toNat < t.size) ∧
    (∀ id, t.size ≤ id.toNat →
      (∀ service, t.bind service id = (false, t)) ∧
      ∀ call w, t.invoke id call w = ("error", t, w)) := by
  intro log t
  have told : Told ops log t := by simpa using told_nothing.run ops (by simpa using fits)
  obtain ⟨numbered, returned, latest, lookup_eq⟩ := told
  refine ⟨⟨numbered.size_eq, fun id => numbered.key?_eq⟩, ?_, ?_, ?_, ?_, ?_, ?_⟩
  · intro key id
    rw [← mem_registered, ← numbered.resolve_eq_key?]
    refine ⟨fun known => ⟨?_, known⟩, fun known => known.2⟩
    exact numbered.resolve_isSome.mp (Option.isSome_of_eq_some known)
  · intro id id' key here here'
    rw [← numbered.resolve_eq_key?] at here here'
    exact Option.some.inj (here.symm.trans here')
  · intro op id key logged registers
    have known := returned op id key logged registers
    refine ⟨known, fun op' registers' => ?_⟩
    obtain ⟨e, registering, rfl⟩ := Option.map_eq_some_iff.mp registers'
    rw [(perform_register registering).1, Table.register_known known]
  · intro before op since e id split registers last here driver
    have entry := latest before op since e id split registers last
      (numbered.resolve_eq_key?.mpr here)
    refine ⟨?_, fun expected actual => ?_, fun call w => ?_⟩
    · rw [Table.category?, entry]
      rfl
    · rw [Table.verify, entry]
    · rw [Table.invoke_known entry]
      exact ⟨rfl, rfl⟩
  · intro service
    refine ⟨lookup_eq service, fun id found => ?_⟩
    rw [numbered.size_eq]
    exact numbered.bound service id found
  · intro id unknown
    exact ⟨fun service => Table.bind_unknown unknown, fun call w => Table.invoke_unknown unknown⟩

end Performing

def camera : Key := ⟨"hal", "1.0", "ICamera", "default"⟩

def radio : Key := ⟨"hal", "1.0", "IRadio", "default"⟩

/-- Two drivers, one of them registered again, a second name, and a name for no driver. -/
theorem run_consistent_replaced :
    let ops : List (Operation Scripted Unit) :=
      [.registerNamed "camera" ⟨camera, .hidl, {}⟩, .register ⟨radio, .legacy, {}⟩,
        .bind "second" 0, .bind "absent" 2, .register ⟨camera, .conventional, {}⟩]
    let t := (Table.run {} ops).2
    (registered ops).length ≤ UInt32.size ∧ t.size = 2 ∧ t.key? 1 = some radio ∧
      t.resolve camera = some 0 ∧ t.category? 0 = some .conventional ∧
      t.lookup "second" = some 0 ∧ t.lookup "absent" = none ∧ t.bind "absent" 2 = (false, t) := by
  intro ops t
  have keys : registered ops = [camera, radio] := by decide
  have fits : (registered ops).length ≤ UInt32.size := by rw [keys]; decide
  obtain ⟨⟨size, numbers⟩, resolve, -, -, latest, lookup, unknown⟩ := run_consistent ops fits
  rw [keys] at size numbers
  have last := latest [_, _, _, _] (.register ⟨camera, .conventional, {}⟩) [] _ 0 rfl rfl nofun
    (numbers 0)
  refine ⟨fits, size, numbers 1, (resolve camera 0).mpr ⟨?_, numbers 0⟩, last.1,
    (lookup "second").1.trans (by decide), (lookup "absent").1.trans (by decide),
    (unknown 2 (Nat.le_of_eq size)).1 "absent"⟩
  exact ⟨.registerNamed "camera" ⟨camera, .hidl, {}⟩, List.mem_cons_self, rfl⟩

end HalBench.Driver
