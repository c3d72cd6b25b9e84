import HalBench.Proofs.Json.RoundTrip

/-! What is read with some levels of nesting left is written again within these levels, also where
the text gave a record as an array or had members that were passed over. -/

namespace HalBench.Json

open HalBench.Json.Tree

namespace Reader

variable {α β : Type} {P : α → Prop} {Q : β → Prop} {p : Reader α} {f : α → Reader β}

/-- Whatever a reader takes off a text has a property. -/
def Gives (P : α → Prop) (p : Reader α) : Prop :=
  ∀ input x rest, p input = .ok (x, rest) → P x

theorem Gives.of_forall (all : ∀ x, P x) : Gives P p := fun _ x _ _ => all x

theorem Gives.pure {x : α} (h : P x) : Gives P (pure x) := by
  intro input y rest read
  cases read
  exact h

theorem Gives.fail {e : Fault} : Gives P (fail e) := fun _ _ _ read => nomatch read

theorem Gives.unexpected : Gives P unexpected :=
  fun _ _ _ read => absurd read (unexpected_ne_ok _ _)

theorem Gives.require {answer : Except Fault α} (h : ∀ x, answer = .ok x → P x) :
    Gives P (require answer) := by
  intro input x rest read
  cases answer with
  | error e => cases read
  | ok y =>
    cases read
    exact h x rfl

theorem Gives.bind (first : Gives P p) (further : ∀ x, P x → Gives Q (f x)) : Gives Q (p >>= f) := by
  intro input y rest read
  cases taken : p input with
  | error e =>
    rw [bind_error taken] at read
    cases read
  | ok answer =>
    rw [bind_ok taken] at read
    exact further answer.1 (first _ _ _ taken) _ _ _ read

theorem Gives.after (further : ∀ x, Gives Q (f x)) : Gives Q (p >>= f) :=
  Gives.bind (P := fun _ => True) (.of_forall fun _ => trivial) fun x _ => further x

theorem itemsLoop_gives {item : Reader α} (each : Gives P item) (fuel : Nat) (first : Bool) :
    Gives (fun xs => ∀ x ∈ xs, P x) (itemsLoop item fuel first) := by
  induction fuel generalizing first with
  | zero => exact .fail
  | succ fuel ih =>
    refine .after fun next => ?_
    split
    · refine .bind each fun x hx => .bind (ih false) fun r hr => .pure ?_
      exact List.forall_mem_cons.mpr ⟨hx, hr⟩
    · exact .pure fun _ hx => absurd hx List.not_mem_nil

theorem items_gives {item : Reader α} (each : Gives P item) (first : Bool) :
    Gives (fun xs => ∀ x ∈ xs, P x) (items item first) := by
  intro input xs rest read
  have all : Gives (fun xs => ∀ x ∈ xs, P x) (do
      let xs ← itemsLoop item (input.length + 1) first
      closeItems
      return xs) :=
    .bind (itemsLoop_gives each _ first) fun xs hxs => .after fun _ => .pure hxs
  exact all _ _ _ read

theorem membersLoop_gives {key : Reader String} {member : String → α → Reader α}
    (each : ∀ k s, P s → Gives P (member k s)) (fuel : Nat) (first : Bool) {s : α} (start : P s) :
    Gives P (membersLoop key member fuel first s) := by
  induction fuel generalizing first s with
  | zero => exact .fail
  | succ fuel ih =>
    refine .after fun next => ?_
    split
    · exact .after fun k => .bind (each k s start) fun s' hs' => ih false hs'
    · exact .pure start

theorem members_gives {key : Reader String} {member : String → α → Reader α}
    (each : ∀ k s, P s → Gives P (member k s)) {s : α} (start : P s) :
    Gives P (members key member s) :=
  fun input _ _ read => membersLoop_gives each (input.length + 1) true start _ _ _ read

theorem nested_gives {P : Nat → α → Prop} {inner : Nat → Reader α}
    (each : ∀ d, Gives (P (d + 1)) (inner d)) (d : Nat) : Gives (P d) (nested d inner) := by
  cases d with
  | zero => exact .fail
  | succ d => exact .after fun _ => each d

theorem numeral_gives : Gives (fun t => ∀ d, Within d t) numeral := by
  intro input t rest read
  obtain ⟨_, n, -, value, -⟩ := numeral_ok read
  rw [Numeral.tree?] at value
  split at value
  · cases value
    exact fun d => .integer _
  · obtain ⟨x, -, rfl⟩ := Option.map_eq_some_iff.mp value
    exact fun d => .float _ _

theorem scalar_gives : Gives (fun t => ∀ d, Within d t) scalar := by
  refine .after fun next => ?_
  split
  · exact .fail
  · exact .after fun _ => .pure fun d => .null
  · exact .after fun _ => .pure fun d => .bool _
  · exact .after fun _ => .pure fun d => .bool _
  · exact .after fun _ => .after fun s => .pure fun d => .text s
  · split
    · exact numeral_gives
    · exact .fail

theorem tree_gives (d : Nat) : Gives (Within d) (tree d) := by
  have leaf {d : Nat} : Gives (Within d) scalar := fun _ _ _ read => scalar_gives _ _ _ read d
  induction d with
  | zero =>
    rw [tree]
    refine .after fun next => ?_
    split
    · exact .fail
    · exact .fail
    · exact leaf
  | succ d ih =>
    rw [tree]
    refine .after fun next => ?_
    split
    · exact .after fun _ => .bind (items_gives ih true) fun xs hxs => .pure (.array hxs)
    · refine .after fun _ => ?_
      have member (k : String) (ms : List (String × Tree)) (hms : ∀ m ∈ ms, Within d m.2) :
          Gives (fun ms => ∀ m ∈ ms, Within d m.2) (treeMember (tree d) k ms) := by
        refine .after fun _ => .bind ih fun x hx => .pure ?_
        exact List.forall_mem_append.mpr ⟨hms, List.forall_mem_singleton.mpr hx⟩
      have nothing : ∀ m ∈ ([] : List (String × Tree)), Within d m.2 := fun _ hm =>
        absurd hm List.not_mem_nil
      exact .bind (members_gives member nothing) fun ms hms => .after fun _ => .pure (.object hms)
    · exact leaf

end Reader

theorem canonItems_eq_map (items : List Tree) : canonItems items = items.map canon := by
  induction items with
  | nil => rw [canonItems, List.map_nil]
  | cons x r ih => rw [canonItems, ih, List.map_cons]

theorem canonMembers_eq_map (members : List (String × Tree)) :
    canonMembers members = members.map fun m => (m.1, m.2.canon) := by
  induction members with
  | nil => rw [canonMembers, List.map_nil]
  | cons m r ih => rw [canonMembers, canonMember, ih, List.map_cons]

theorem within_canon {d : Nat} {x : Tree} (h : Within d x) : Within d x.canon := by
  induction h with
  | null => simpa only [canon] using .null
  | bool b => simpa only [canon] using .bool b
  | integer i => simpa only [canon] using .integer i
  | float f x => simpa only [canon] using .float f x
  | text s => simpa only [canon] using .text s
  | array _ ih =>
    rw [canon, canonItems_eq_map]
    exact .array (List.forall_mem_map.mpr ih)
  | object _ ih =>
    rw [canon, canonMembers_eq_map]
    refine .object fun m hm => ?_
    obtain ⟨n, hn, rfl⟩ := List.mem_map.mp (Entries.mem_sort hm)
    exact ih n hn

open Reader

/-- What is read by a schema is written within the levels that were left for reading it. -/
def Schema.Shallow (s : Schema) : Prop := ∀ d, Gives (fun x => Within d (s.write x)) (s.read d)

theorem shallow_text : Schema.text.Shallow := fun _ => .of_forall fun s => .text s

theorem shallow_float (f : Format) : (Schema.float f).Shallow :=
  fun _ => .of_forall fun x => .float f x

theorem shallow_word (w : Word) : (Schema.word w).Shallow :=
  fun _ => .of_forall fun x => .integer (w.toInteger x)

theorem shallow_choice (names : List String) : (Schema.choice names).Shallow :=
  fun _ => .of_forall fun i => .text (names.get i)

theorem shallow_value : Schema.value.Shallow :=
  fun d => .bind (tree_gives d) fun _ hx => .pure (within_canon hx)

theorem shallow_list {item : Schema} (h : item.Shallow) : (Schema.list item).Shallow := by
  intro d
  refine .after fun next => ?_
  split
  · refine nested_gives (P := fun d xs => Within d ((Schema.list item).write xs)) (fun d => ?_) d
    intro input xs rest read
    exact .array (List.forall_mem_map.mpr (items_gives (h d) true _ _ _ read))
  · exact .unexpected

/-- Every field of a record is written within the levels that were left for reading it. -/
def Fields.Shallow : Fields → Prop
  | .done => True
  | .required _ schema rest => schema.Shallow ∧ rest.Shallow
  | .optional _ schema rest => schema.Shallow ∧ rest.Shallow

/-- The fields read so far are written within some levels. -/
def Fields.SlotsWithin (d : Nat) : (fields : Fields) → fields.Slots → Prop
  | .done, _ => True
  | .required _ schema rest, (slot, slots) =>
    (∀ x ∈ slot, Within d (schema.write x)) ∧ rest.SlotsWithin d slots
  | .optional _ schema rest, (slot, slots) =>
    (∀ x ∈ slot, Within d (schema.write x)) ∧ rest.SlotsWithin d slots

theorem Fields.slotsWithin_empty (d : Nat) : (fields : Fields) → fields.SlotsWithin d fields.empty
  | .done => trivial
  | .required _ _ rest => ⟨nofun, rest.slotsWithin_empty d⟩
  | .optional _ _ rest => ⟨nofun, rest.slotsWithin_empty d⟩

/-- A member is put into the slot of its name, which must be empty, or among the others. -/
theorem slot_gives {α σ : Type} {P : α → Prop} {Q : σ → Prop} {read : Reader α}
    {others : Reader σ} {k name : String} {slot : Option α} {slots : σ} (each : Gives P read)
    (further : Gives Q others) (here : ∀ x ∈ slot, P x) (there : Q slots) :
    Gives (fun s : Option α × σ => (∀ x ∈ s.1, P x) ∧ Q s.2)
      (if k = name then
        if slot.isSome then fail (.duplicateField name)
        else do
          colon
          let x ← read
          return (some x, slots)
      else do
        let slots ← others
        return (slot, slots)) := by
  split
  · split
    · exact .fail
    · refine .after fun _ => .bind each fun x hx => .pure ⟨?_, there⟩
      rintro _ ⟨⟩
      exact hx
  · exact .bind further fun _ h => .pure ⟨here, h⟩

theorem Fields.readMember_gives (d : Nat) (k : String) : (fields : Fields) → fields.Shallow →
    (slots : fields.Slots) → fields.SlotsWithin d slots →
    Gives (fields.SlotsWithin d) (fields.readMember d k slots)
  | .done, _, _, _ => .of_forall fun _ => trivial
  | .required _ _ rest, shallow, (_, slots), ⟨here, others⟩ =>
    slot_gives (shallow.1 d) (rest.readMember_gives d k shallow.2 slots others) here others
  | .optional _ _ rest, shallow, (_, slots), ⟨here, others⟩ =>
    slot_gives (shallow.1 d) (rest.readMember_gives d k shallow.2 slots others) here others

theorem Fields.within_finish {d : Nat} : (fields : Fields) → (slots : fields.Slots) →
    fields.SlotsWithin d slots → (x : fields.Carrier) → fields.finish slots = .ok x →
    ∀ m ∈ fields.write x, Within d m.2
  | .done, _, _, _, _ => fun _ hm => absurd hm List.not_mem_nil
  | .required name schema rest, (slot, slots), ⟨here, others⟩, x, h => by
    cases slot with
    | none => cases h
    | some y =>
      obtain ⟨r, finished, rfl⟩ := ok_of_map h
      exact Fields.all_required (here y rfl) (rest.within_finish slots others r finished)
  | .optional name schema rest, (slot, slots), ⟨here, others⟩, x, h => by
    obtain ⟨r, finished, rfl⟩ := ok_of_map h
    exact Fields.all_optional here (rest.within_finish slots others r finished)

theorem Fields.readItems_gives (d : Nat) : (fields : Fields) → fields.Shallow → (first : Bool) →
    Gives (fun x => ∀ m ∈ fields.write x, Within d m.2) (fields.readItems d first)
  | .done, _, _ => .of_forall fun _ _ hm => absurd hm List.not_mem_nil
  | .required name schema rest, shallow, first => by
    refine .after fun next => ?_
    cases next with
    | true =>
      refine .bind (shallow.1 d) fun x hx => .bind (rest.readItems_gives d shallow.2 false) ?_
      exact fun r hr => .pure (Fields.all_required hx hr)
    | false => exact .fail
  | .optional name schema rest, shallow, first => by
    refine .after fun next => ?_
    cases next with
    | true =>
      refine .bind (shallow.1 d) fun x hx => .bind (rest.readItems_gives d shallow.2 false) ?_
      refine fun r hr => .pure (Fields.all_optional ?_ hr)
      rintro _ ⟨⟩
      exact hx
    | false =>
      exact .bind (rest.readItems_gives d shallow.2 first) fun r hr =>
        .pure (Fields.all_optional nofun hr)

theorem shallow_record {fields : Fields} (h : fields.Shallow) : (Schema.record fields).Shallow := by
  intro d
  rw [Schema.read]
  refine .after fun next => ?_
  split
  · refine nested_gives (P := fun d x => Within d ((Schema.record fields).write x)) (fun d => ?_) d
    have member := fields.readMember_gives d
    refine .bind (members_gives (P := fields.SlotsWithin d) (fun k slots => member k h slots)
      (fields.slotsWithin_empty d)) fun slots hslots => ?_
    refine .bind (.require fun x finished => fields.within_finish slots hslots x finished) ?_
    exact fun x hx => .after fun _ => .pure (.object hx)
  · refine nested_gives (P := fun d x => Within d ((Schema.record fields).write x)) (fun d => ?_) d
    exact .bind (fields.readItems_gives d h true) fun x hx => .after fun _ => .pure (.object hx)
  · exact .unexpected

theorem Schema.within_of_decode {s : Schema} (shallow : s.Shallow) {text : Bytes} {x : s.Carrier}
    (h : s.decode text = .ok x) : Within maxDepth (s.write x) := by
  rw [Schema.decode, whole] at h
  split at h
  · cases h
  · rename_i y rest read
    split at h
    · cases h
      exact shallow maxDepth _ _ _ read
    · cases h

end HalBench.Json
