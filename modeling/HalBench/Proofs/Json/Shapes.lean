import HalBench.Json.Decode
import HalBench.Proofs.Json.Trees
import HalBench.Proofs.Outcome

/-! Reading the printed tree of a value by its schema gives what the schema makes of the tree. -/

namespace HalBench.Json

namespace Reader

open HalBench.Json.Tree

theorem require_ok {α : Type} {answer : Except Fault α} {x : α} (h : answer = .ok x) (b : Bytes) :
    require answer b = .ok (x, b) := by
  rw [h]
  rfl

/-- A reader reads a printed tree as what a check makes of it. -/
def Follows {α : Type} (read : Nat → Reader α) (check : Tree → Except Fault α) (t : Tree) : Prop :=
  ∀ {d : Nat}, Within d t → Readable t → ∀ {y : α}, check t.reread = .ok y →
    Reads (read d) t.bytes y

/-- A reader reads a printed member into a state as it is put there. -/
def FollowsMember {σ : Type} (member : Nat → String → σ → Reader σ)
    (put : String → Tree → σ → Except Fault σ) (m : String × Tree) : Prop :=
  ∀ {d : Nat}, Within d m.2 → Readable m.2 → ∀ {s s' : σ}, put m.1 m.2.reread s = .ok s' →
    Reads (member d m.1 s) (58 :: m.2.bytes) s'

theorem textValue_reads (s : String) : Reads textValue (quoted s) s := by
  intro rest _
  rw [textValue, quoted, List.cons_append, List.append_assoc]
  refine (bind_ok (peek_cons rfl _)).trans ((bind_ok (advance_cons 34 _)).trans ?_)
  exact string_escaped s rest

theorem numberValue_reads {α : Type} {check : Tree → Except Fault α} {p : Bytes} {n : Numeral}
    {t : Tree} {x : α} (spelled : Numeral.Spells p n) (value : n.tree? = some t)
    (checked : check t = .ok x) : Reads (numberValue check) p x := by
  intro rest delimited
  have read := numeral_reads spelled value rest delimited
  obtain ⟨b, r, rfl, first⟩ := Numeral.isFirst_head spelled
  have digit : (decide (b = 45) || Numeral.isDigit b) = true := first
  rw [List.cons_append] at read ⊢
  rw [numberValue, bind_ok (peek_cons (Numeral.opening_of_isFirst first).visible _)]
  simp only [digit, if_true]
  rw [bind_ok read]
  exact require_ok checked rest

theorem follows_text (s : String) : Follows (fun _ => textValue) asText (text s) := by
  intro d _ _ y h
  rw [reread_text] at h
  cases h
  rw [bytes_text]
  exact textValue_reads s

theorem follows_value (t : Tree) :
    Follows (fun d => do return .ofTree (← tree d)) (fun x => .ok (Value.ofTree x)) t := by
  intro d within readable y h rest delimited
  cases h
  exact bind_ok (tree_reads within readable rest delimited)

theorem follows_truth (b : Bool) : Follows (fun _ => truthValue) asTruth (Tree.bool b) := by
  intro d _ _ y h rest _
  rw [reread_bool] at h
  cases h
  rw [truthValue, bytes_bool]
  cases b with
  | true =>
    exact (bind_ok (peek_cons rfl _)).trans (bind_ok (literal_append [116, 114, 117, 101] rest))
  | false =>
    exact (bind_ok (peek_cons rfl _)).trans
      (bind_ok (literal_append [102, 97, 108, 115, 101] rest))

theorem follows_float (f : Format) (x : Binary) :
    Follows (fun _ => numberValue (asFloat f)) (asFloat f) (float f x) := by
  intro d _ readable y h
  cases readable with
  | float read =>
    rw [reread_float, again_eq read] at h
    rw [bytes, render]
    cases read with
    | nothing text => cases h
    | number spelled value => exact numberValue_reads spelled value h

theorem follows_word (w : Word) (i : Integer) :
    Follows (fun _ => numberValue (asWord w)) (asWord w) (integer i) := by
  intro d _ _ y h
  rw [reread_integer] at h
  rw [bytes, render]
  exact numberValue_reads (Numeral.spells_ofInt i.val) (Numeral.tree?_ofInt i) h

/-- The text of a tree begins like the word for nothing only if it is the word. -/
theorem null_or_not {t : Tree} (readable : Readable t) :
    t.bytes = [110, 117, 108, 108] ∧ t.reread = .null ∨
      ∃ b r, t.bytes = b :: r ∧ isBlank b = false ∧ b ≠ 110 ∧ t.reread ≠ .null := by
  have number {b : UInt8} (first : Numeral.isFirst b = true) : isBlank b = false ∧ b ≠ 110 := by
    refine ⟨(Numeral.opening_of_isFirst first).visible, ?_⟩
    rintro rfl
    cases first
  cases readable with
  | null => exact .inl ⟨bytes_null, reread_null⟩
  | bool b =>
    rw [bytes_bool, reread_bool]
    cases b with
    | true => exact .inr ⟨116, _, rfl, rfl, by decide, by simp⟩
    | false => exact .inr ⟨102, _, rfl, rfl, by decide, by simp⟩
  | integer i =>
    obtain ⟨b, r, first, isFirst⟩ := Numeral.isFirst_head (Numeral.spells_ofInt i.val)
    rw [bytes, render, reread_integer]
    exact .inr ⟨b, r, first, (number isFirst).1, (number isFirst).2, by simp⟩
  | @float f x t read =>
    rw [bytes, render, reread_float, again_eq read]
    cases read with
    | nothing text => exact .inl ⟨by rw [text]; rfl, rfl⟩
    | @number n t spelled value =>
      obtain ⟨b, r, first, isFirst⟩ := Numeral.isFirst_head spelled
      exact .inr ⟨b, r, first, (number isFirst).1, (number isFirst).2,
        Numeral.tree?_ne_null value⟩
  | text s =>
    rw [bytes_text, reread_text]
    exact .inr ⟨34, _, rfl, rfl, by decide, by simp⟩
  | array _ =>
    rw [bytes_array, reread_array]
    exact .inr ⟨91, _, rfl, rfl, by decide, by simp⟩
  | object _ =>
    rw [bytes_object, reread_object]
    exact .inr ⟨123, _, rfl, rfl, by decide, by simp⟩

def checkNullable {α : Type} (check : Tree → Except Fault α) : Tree → Except Fault (Option α)
  | .null => .ok none
  | x => (check x).map some

theorem checkNullable_of_ne {α : Type} (check : Tree → Except Fault α) {t : Tree}
    (notNull : t ≠ .null) : checkNullable check t = (check t).map some := by
  cases t with
  | null => exact absurd rfl notNull
  | _ => rfl

theorem follows_nullable {α : Type} {inner : Nat → Reader α} {check : Tree → Except Fault α}
    {t : Tree} (each : Follows inner check t) :
    Follows (fun d => nullableValue (inner d)) (checkNullable check) t := by
  intro d within readable y h rest delimited
  rcases null_or_not readable with ⟨text, null⟩ | ⟨b, r, text, visible, notNull, value⟩
  · rw [null] at h
    cases h
    rw [text]
    exact (bind_ok (peek_cons rfl _)).trans (bind_ok (literal_append _ rest))
  · rw [checkNullable_of_ne check value] at h
    obtain ⟨v, checked, rfl⟩ := ok_of_map h
    have read := each within readable checked rest delimited
    change nullableValue (inner d) _ = _
    rw [text, List.cons_append] at read ⊢
    rw [nullableValue, bind_ok (peek_cons visible _)]
    generalize next : some b = found
    split
    · exact absurd (Option.some.inj next) notNull
    · exact bind_ok read

theorem follows_null {α : Type} (inner : Nat → Reader α) (check : Tree → Except Fault α) :
    Follows (fun d => nullableValue (inner d)) (checkNullable check) .null := by
  intro d _ _ y h rest _
  rw [reread_null] at h
  cases h
  rw [bytes_null]
  exact (bind_ok (peek_cons rfl _)).trans (bind_ok (literal_append _ rest))

theorem follows_choice (names : List String) (s : String) :
    Follows (choiceValue names) (asChoice names) (text s) := by
  intro d _ _ y h rest _
  rw [reread_text] at h
  rw [choiceValue, bytes_text, quoted, List.cons_append, List.append_assoc]
  refine (bind_ok (peek_cons rfl _)).trans ((bind_ok (advance_cons 34 _)).trans ?_)
  exact (bind_ok (string_escaped s rest)).trans (require_ok h rest)

theorem nested_members {σ α : Type} {member : Nat → String → σ → Reader σ} {d : Nat}
    {ms : List (String × Tree)} {s s' : σ} (read : ReadsMembers (member d) ms s s')
    {after : σ → Reader α} {x : α} {rest : Bytes}
    (further : after s' (125 :: rest) = .ok (x, rest)) :
    nested (d + 1) (fun d => members string (member d) s >>= after) ((object ms).bytes ++ rest) =
      .ok (x, rest) := by
  rw [bytes_object, List.cons_append]
  apply (bind_ok (advance_cons 123 _)).trans
  exact (bind_ok (members_reads read rest)).trans further

theorem peek_object (ms : List (String × Tree)) (rest : Bytes) :
    peek ((object ms).bytes ++ rest) = .ok (some 123, (object ms).bytes ++ rest) := by
  rw [bytes_object, List.cons_append]
  exact peek_cons rfl _

theorem readsMembers_of_putAll {σ : Type} {put : String → Tree → σ → Except Fault σ}
    {member : String → σ → Reader σ} {ms : List (String × Tree)} {s s' : σ}
    (each : ∀ m ∈ ms, ∀ t t', put m.1 m.2.reread t = .ok t' →
      Reads (member m.1 t) (58 :: m.2.bytes) t')
    (h : putAll put (ms.map fun m => (m.1, m.2.reread)) s = .ok s') :
    ReadsMembers member ms s s' := by
  induction ms generalizing s with
  | nil =>
    cases h
    exact .nil _
  | cons m r ih =>
    obtain ⟨k, x⟩ := m
    obtain ⟨t, here, further⟩ := ok_of_bind h
    exact .cons (each (k, x) List.mem_cons_self s t here)
      (ih (fun m hm => each m (List.mem_cons_of_mem _ hm)) further)

theorem tableOf_eq_putAll {α : Type} (check : Tree → Except Fault α) (ms : List (String × Tree))
    (table : Index α) :
    tableOf check ms table = putAll (fun k x t => (check x).map (t.insert k ·)) ms table := by
  induction ms generalizing table with
  | nil => rfl
  | cons m r ih =>
    obtain ⟨k, x⟩ := m
    rw [tableOf, putAll]
    cases check x with
    | error e => rfl
    | ok y => exact ih (table.insert k y)

theorem readsItems_of_listOf {α : Type} {check : Tree → Except Fault α} {item : Reader α}
    {ts : List Tree} (opens : ∀ x ∈ ts, x.Opens)
    (each : ∀ x ∈ ts, ∀ y, check x.reread = .ok y → Reads item x.bytes y) {ys : List α}
    (h : listOf check (ts.map reread) = .ok ys) : ReadsItems item ts ys := by
  induction ts generalizing ys with
  | nil =>
    cases h
    exact .nil
  | cons x r ih =>
    obtain ⟨y, here, further⟩ := ok_of_bind h
    obtain ⟨s, rest, same⟩ := ok_of_bind further
    cases same
    exact .cons (opens x List.mem_cons_self) (each x List.mem_cons_self y here)
      (ih (fun x hx => opens x (List.mem_cons_of_mem _ hx))
        (fun x hx => each x (List.mem_cons_of_mem _ hx)) rest)

/-- After the tag, only members of other keys are let through. -/
theorem splitTag_some {tag : String} {names : List String} {ms : List (String × Tree)}
    {name found : String} {rest : List (String × Tree)}
    (h : splitTag tag names ms (some found) = .ok (name, rest)) :
    found = name ∧ ms = rest ∧ ∀ m ∈ ms, m.1 ≠ tag := by
  induction ms generalizing rest with
  | nil =>
    cases h
    exact ⟨rfl, rfl, nofun⟩
  | cons m r ih =>
    obtain ⟨k, x⟩ := m
    rw [splitTag] at h
    by_cases same : k = tag
    · rw [if_pos same, Option.isSome_some, if_pos rfl] at h
      cases h
    · rw [if_neg same] at h
      obtain ⟨⟨n, others⟩, further, done⟩ := ok_of_bind h
      cases done
      obtain ⟨rfl, rfl, apart⟩ := ih further
      refine ⟨rfl, rfl, fun m hm => ?_⟩
      cases List.mem_cons.mp hm with
      | inl here => exact here ▸ same
      | inr later => exact apart m later

theorem readsMembers_tagged {tag name : String} {names : List String} {d : Nat}
    {ms : List (String × Tree)} (apart : ∀ m ∈ ms, m.1 ≠ tag)
    (within : ∀ m ∈ ms, Within d m.2) (readable : ∀ m ∈ ms, Readable m.2)
    (before : List (String × Tree)) :
    ReadsMembers (taggedMember tag names d) ms (some name, before)
      (some name, before ++ ms.map fun m => (m.1, m.2.reread)) := by
  induction ms generalizing before with
  | nil =>
    rw [List.map_nil, List.append_nil]
    exact .nil _
  | cons m r ih =>
    obtain ⟨k, x⟩ := m
    have member : Reads (taggedMember tag names d k (some name, before)) (58 :: x.bytes)
        (some name, before ++ [(k, x.reread)]) := by
      intro rest delimited
      have read := tree_reads (within (k, x) List.mem_cons_self)
        (readable (k, x) List.mem_cons_self) rest delimited
      rw [taggedMember, if_neg (apart (k, x) List.mem_cons_self), List.cons_append,
        bind_ok (colon_colon _), bind_ok read]
      rfl
    have further := ih (fun m hm => apart m (List.mem_cons_of_mem _ hm))
      (fun m hm => within m (List.mem_cons_of_mem _ hm))
      (fun m hm => readable m (List.mem_cons_of_mem _ hm)) (before ++ [(k, x.reread)])
    rw [List.append_assoc] at further
    exact .cons member further

theorem follows_list {α : Type} {item : Nat → Reader α} {check : Tree → Except Fault α}
    {ts : List Tree} (each : ∀ t ∈ ts, Follows item check t) :
    Follows (fun d => listValue d item) (fun x => do listOf check (← x.asItems)) (array ts) := by
  intro d within readable y h rest _
  rw [reread_array] at h
  cases within with
  | @array d _ within =>
    cases readable with
    | array readable =>
      have read := readsItems_of_listOf (fun t ht => (readable t ht).opens)
        (fun t ht y checked => each t ht (within t ht) (readable t ht) checked) h
      change listValue (d + 1) item _ = _
      rw [listValue, bytes_array, List.cons_append]
      refine (bind_ok (peek_cons rfl _)).trans ((bind_ok (advance_cons 91 _)).trans ?_)
      exact items_reads read rest

theorem follows_table {α : Type} {entry : Nat → Reader α} {check : Tree → Except Fault α}
    {ms : List (String × Tree)} (each : ∀ m ∈ ms, Follows entry check m.2) :
    Follows (fun d => tableValue d entry) (fun x => do tableOf check (← x.asMembers) .empty)
      (object ms) := by
  intro d within readable y h rest _
  rw [reread_object] at h
  have put : tableOf check (ms.map fun m => (m.1, m.2.reread)) .empty = .ok y := h
  rw [tableOf_eq_putAll] at put
  cases within with
  | @object d _ within =>
    cases readable with
    | object readable =>
      change tableValue (d + 1) entry _ = _
      rw [tableValue, bind_ok (peek_object ms rest)]
      refine nested_members (readsMembers_of_putAll (fun m hm t t' inserted => ?_) put)
        (bind_ok (closeMembers_brace rest))
      obtain ⟨v, checked, rfl⟩ := ok_of_map inserted
      intro rest delimited
      have read := each m hm (within m hm) (readable m hm) checked rest delimited
      exact (bind_ok (colon_colon _)).trans (bind_ok read)

theorem follows_tagged {α : Type} (tag : String) (names : List String)
    {check : String → Body → Except Fault α} (name : String) (ms : List (String × Tree)) :
    Follows (fun d => do
        let (name, body) ← taggedValue tag names d
        require (check name body))
      (fun x => do
        let (name, body) ← x.asTagged tag names
        check name body)
      (object ((tag, .text name) :: ms)) := by
  intro d within readable y h rest _
  rw [reread_object] at h
  obtain ⟨⟨n, body⟩, tagged, checked⟩ := ok_of_bind h
  obtain ⟨⟨n', others⟩, split, done⟩ := ok_of_bind tagged
  cases done
  rw [List.map_cons, splitTag, if_pos rfl, reread_text] at split
  obtain ⟨name', text, split⟩ := ok_of_bind split
  have same : name = name' := Except.ok.inj text
  subst same
  obtain ⟨i, chosen, split⟩ := ok_of_bind split
  obtain ⟨same, rfl, apart⟩ := splitTag_some split
  subst same
  cases within with
  | @object d _ within =>
    cases readable with
    | object readable =>
      have first : Reads (taggedMember tag names d tag (none, [])) (58 :: (Tree.text name).bytes)
          (some name, []) := by
        intro rest delimited
        rw [taggedMember, if_pos rfl, bytes_text, List.cons_append]
        apply (bind_ok (colon_colon _)).trans
        apply (bind_ok (textValue_reads name rest delimited)).trans
        exact bind_ok (require_ok chosen rest)
      have others : ReadsMembers (taggedMember tag names d) ms (some name, [])
          (some name, ms.map fun m => (m.1, m.2.reread)) := readsMembers_tagged
        (fun m hm => apart (m.1, m.2.reread) (List.mem_map_of_mem hm))
        (fun m hm => within m (List.mem_cons_of_mem _ hm))
        (fun m hm => readable m (List.mem_cons_of_mem _ hm)) []
      have value : taggedValue tag names (d + 1)
          ((object ((tag, .text name) :: ms)).bytes ++ rest) =
            .ok ((name, .members (ms.map fun m => (m.1, m.2.reread))), rest) := by
        rw [taggedValue, bind_ok (peek_object _ rest)]
        exact nested_members (.cons first others) (bind_ok (closeMembers_brace rest))
      exact (bind_ok value).trans (require_ok checked rest)

theorem follows_record {σ α : Type} {member : Nat → String → σ → Reader σ}
    {put : String → Tree → σ → Except Fault σ} {finish : σ → Except Fault α} {empty : σ}
    {ms : List (String × Tree)} (ordered : Nat → Reader α) (inOrder : List Tree → Except Fault α)
    (each : ∀ m ∈ ms, FollowsMember member put m) :
    Follows (fun depth => do
        match ← peek with
        | some 123 => nested depth fun d => do
          let slots ← members string (member d) empty
          let x ← require (finish slots)
          closeMembers
          return x
        | some 91 => nested depth ordered
        | _ => unexpected)
      (fun x => match x with
        | .object members => do
          let slots ← putAll put members empty
          finish slots
        | .array items => inOrder items
        | _ => .error .wrongType)
      (object ms) := by
  intro d within readable y h rest _
  rw [reread_object] at h
  obtain ⟨slots, filled, finished⟩ := ok_of_bind h
  cases within with
  | @object d _ within =>
    cases readable with
    | object readable =>
      have read := readsMembers_of_putAll
        (fun m hm t t' put => each m hm (within m hm) (readable m hm) put) filled
      refine (bind_ok (peek_object ms rest)).trans (nested_members read ?_)
      apply (bind_ok (require_ok finished _)).trans
      exact bind_ok (closeMembers_brace rest)

end Reader

def Fields.names : Fields → List String
  | .done => []
  | .required name _ rest => name :: rest.names
  | .optional name _ rest => name :: rest.names

/-- A value of the schema is never printed as `null`, unless it is a float that is not finite. -/
def Schema.NeverNull : Schema → Prop
  | .value => False
  | .nullable _ => False
  | _ => True

mutual

/-- Names that must tell apart do: those of fields, of variants and of choices. -/
def Schema.Sound : Schema → Prop
  | .list item => item.Sound
  | .nullable inner => inner.Sound ∧ inner.NeverNull
  | .table entry => entry.Sound
  | .choice names => names.Nodup
  | .record fields => fields.Sound
  | .tagged tag variants => variants.Sound tag
  | _ => True

def Fields.Sound : Fields → Prop
  | .done => True
  | .required name schema rest => schema.Sound ∧ name ∉ rest.names ∧ rest.Sound
  | .optional name schema rest => schema.Sound ∧ name ∉ rest.names ∧ rest.Sound

/-- The names of the variants tell them apart, and no field has the name of the tag. -/
def Variants.Sound (tag : String) : Variants → Prop
  | .done => True
  | .variant name fields rest =>
    fields.Sound ∧ tag ∉ fields.names ∧ name ∉ rest.names ∧ rest.Sound tag

end

section Members
variable {P : String × Tree → Prop} {name : String} {schema : Schema} {rest : Fields}
  {r : rest.Carrier}

/-- What holds of a written field and of those after it holds of all members. -/
theorem Fields.all_required {x : schema.Carrier} (here : P (name, schema.write x))
    (later : ∀ m ∈ rest.write r, P m) :
    ∀ m ∈ (Fields.required name schema rest).write (x, r), P m := by
  intro m hm
  cases List.mem_cons.mp hm with
  | inl first => exact first ▸ here
  | inr other => exact later m other

theorem Fields.all_optional {x : Option schema.Carrier}
    (here : ∀ y ∈ x, P (name, schema.write y)) (later : ∀ m ∈ rest.write r, P m) :
    ∀ m ∈ (Fields.optional name schema rest).write (x, r), P m := by
  cases x with
  | none => exact later
  | some y => exact Fields.all_required (here y rfl) later

theorem Fields.of_all_required {x : schema.Carrier}
    (h : ∀ m ∈ (Fields.required name schema rest).write (x, r), P m) :
    P (name, schema.write x) ∧ ∀ m ∈ rest.write r, P m :=
  List.forall_mem_cons.mp h

theorem Fields.of_all_optional {x : Option schema.Carrier}
    (h : ∀ m ∈ (Fields.optional name schema rest).write (x, r), P m) :
    (∀ y ∈ x, P (name, schema.write y)) ∧ ∀ m ∈ rest.write r, P m := by
  cases x with
  | none => exact ⟨nofun, h⟩
  | some y =>
    obtain ⟨here, later⟩ := Fields.of_all_required h
    refine ⟨?_, later⟩
    rintro _ ⟨⟩
    exact here

end Members

theorem Fields.mem_names : (fields : Fields) → (x : fields.Carrier) →
    ∀ m ∈ fields.write x, m.1 ∈ fields.names
  | .done, _ => nofun
  | .required _ _ rest, (_, r) =>
    Fields.all_required List.mem_cons_self fun m hm =>
      List.mem_cons_of_mem _ (rest.mem_names r m hm)
  | .optional _ _ rest, (_, r) =>
    Fields.all_optional (fun _ _ => List.mem_cons_self) fun m hm =>
      List.mem_cons_of_mem _ (rest.mem_names r m hm)

theorem Fields.name_ne {fields : Fields} {name : String} (notIn : name ∉ fields.names)
    {x : fields.Carrier} : ∀ m ∈ fields.write x, m.1 ≠ name := by
  intro m hm same
  exact notIn (same ▸ fields.mem_names x m hm)

open Reader

/-- Reads a member into the first slot if it has its name, and else into the others. -/
def readSlot {α σ : Type} (name : String) (read : Nat → Reader α)
    (member : Nat → String → σ → Reader σ) (d : Nat) (k : String) (slots : Option α × σ) :
    Reader (Option α × σ) :=
  if k = name then
    if slots.1.isSome then fail (.duplicateField name)
    else do
      colon
      let x ← read d
      return (some x, slots.2)
  else do
    let others ← member d k slots.2
    return (slots.1, others)

/-- Puts a member into the first slot if it has its name, and else into the others. -/
def putSlot {α σ : Type} (name : String) (check : Tree → Except Fault α)
    (put : String → Tree → σ → Except Fault σ) (k : String) (x : Tree) (slots : Option α × σ) :
    Except Fault (Option α × σ) :=
  if k = name then
    if slots.1.isSome then .error (.duplicateField name)
    else (check x).map fun y => (some y, slots.2)
  else (put k x slots.2).map fun others => (slots.1, others)

section Slot
variable {α σ : Type} {name : String} {read : Nat → Reader α} {check : Tree → Except Fault α}
  {member : Nat → String → σ → Reader σ} {put : String → Tree → σ → Except Fault σ}

theorem follows_here {t : Tree} (here : Follows read check t) :
    FollowsMember (readSlot name read member) (putSlot name check put) (name, t) := by
  intro d within readable s s' h rest delimited
  simp only [putSlot, readSlot, if_true] at h ⊢
  split at h
  · cases h
  · rename_i free
    obtain ⟨y, checked, rfl⟩ := ok_of_map h
    simp only [free, Bool.false_eq_true, if_false]
    apply (bind_ok (colon_colon _)).trans
    exact bind_ok (here within readable checked rest delimited)

theorem follows_later {m : String × Tree} (other : m.1 ≠ name)
    (later : FollowsMember member put m) :
    FollowsMember (readSlot name read member) (putSlot name check put) m := by
  intro d within readable s s' h rest delimited
  simp only [putSlot, readSlot, other, if_false] at h ⊢
  obtain ⟨slots, put, rfl⟩ := ok_of_map h
  exact bind_ok (later within readable put rest delimited)

end Slot

mutual

/-- The printed tree of a value is read as what the schema makes of it. -/
theorem Schema.follows_write : (s : Schema) → s.Sound → (x : s.Carrier) →
    Follows s.read s.check (s.write x)
  | .text, _, x => follows_text x
  | .value, _, x => follows_value (Value.tree x)
  | .truth, _, x => follows_truth x
  | .float f, _, x => follows_float f x
  | .word w, _, x => follows_word w (w.toInteger x)
  | .list item, sound, x => follows_list fun t ht => by
    obtain ⟨v, _, rfl⟩ := List.mem_map.mp ht
    exact item.follows_write sound v
  | .nullable inner, sound, none => follows_null inner.read inner.check
  | .nullable inner, sound, some y => follows_nullable (inner.follows_write sound.1 y)
  | .table entry, sound, x => follows_table fun m hm => by
    obtain ⟨v, _, rfl⟩ := List.mem_map.mp hm
    exact entry.follows_write sound v.2
  | .choice names, _, x => follows_choice names (names.get x)
  | .record fields, sound, x =>
    follows_record _ fields.checkItems fun m hm => fields.follows_write sound x m hm
  | .tagged tag variants, _, x =>
    follows_tagged tag variants.names (variants.write x).1 (variants.write x).2

/-- The printed members of a record are read into their slots as they are put there. -/
theorem Fields.follows_write : (fields : Fields) → fields.Sound → (x : fields.Carrier) →
    ∀ m ∈ fields.write x, FollowsMember fields.readMember fields.checkMember m
  | .done, _, _ => nofun
  | .required _ schema rest, sound, (v, r) =>
    Fields.all_required (follows_here (schema.follows_write sound.1 v)) fun m hm =>
      follows_later (Fields.name_ne sound.2.1 m hm) (rest.follows_write sound.2.2 r m hm)
  | .optional _ schema rest, sound, (_, r) =>
    Fields.all_optional (fun v _ => follows_here (schema.follows_write sound.1 v)) fun m hm =>
      follows_later (Fields.name_ne sound.2.1 m hm) (rest.follows_write sound.2.2 r m hm)

end

end HalBench.Json
