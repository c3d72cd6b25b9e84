import HalBench.Proofs.Json.RoundTrip

/-! A schema may have places for any value. What is written is as deep as the schema and the values
in it together; and where the schema has no floats, it is legible when the values have none. -/

namespace HalBench.Json

open HalBench.Json.Tree

mutual

def Schema.height : Schema → Nat
  | .list item => item.height + 1
  | .nullable inner => inner.height
  | .table entry => entry.height + 1
  | .record fields => fields.height + 1
  | .tagged _ variants => variants.height + 1
  | _ => 0

def Fields.height : Fields → Nat
  | .done => 0
  | .required _ schema rest => max schema.height rest.height
  | .optional _ schema rest => max schema.height rest.height

def Variants.height : Variants → Nat
  | .done => 0
  | .variant _ fields rest => max fields.height rest.height

end

mutual

def Schema.hasFloats : Schema → Bool
  | .float _ => true
  | .list item => item.hasFloats
  | .nullable inner => inner.hasFloats
  | .table entry => entry.hasFloats
  | .record fields => fields.hasFloats
  | .tagged _ variants => variants.hasFloats
  | _ => false

def Fields.hasFloats : Fields → Bool
  | .done => false
  | .required _ schema rest => schema.hasFloats || rest.hasFloats
  | .optional _ schema rest => schema.hasFloats || rest.hasFloats

def Variants.hasFloats : Variants → Bool
  | .done => false
  | .variant _ fields rest => fields.hasFloats || rest.hasFloats

end

mutual

def Schema.Holds (P : Tree → Prop) : (s : Schema) → s.Carrier → Prop
  | .value, x => P (Value.tree x)
  | .list item, x => ∀ y ∈ (show List item.Carrier from x), item.Holds P y
  | .nullable inner, x => ∀ y ∈ (show Option inner.Carrier from x), inner.Holds P y
  | .table entry, x => ∀ m ∈ (show Index entry.Carrier from x).entries, entry.Holds P m.2
  | .record fields, x => fields.Holds P x
  | .tagged _ variants, x => variants.Holds P x
  | _, _ => True

def Fields.Holds (P : Tree → Prop) : (fields : Fields) → fields.Carrier → Prop
  | .done, _ => True
  | .required _ schema rest, (x, r) => schema.Holds P x ∧ rest.Holds P r
  | .optional _ schema rest, (x, r) =>
    (∀ y ∈ (show Option schema.Carrier from x), schema.Holds P y) ∧ rest.Holds P r

def Variants.Holds (P : Tree → Prop) : (variants : Variants) → variants.Carrier → Prop
  | .done, _ => True
  | .variant _ fields _, .inl x => fields.Holds P x
  | .variant _ _ rest, .inr x => rest.Holds P x

end

mutual

theorem Schema.within_write {d : Nat} : (s : Schema) → (x : s.Carrier) → s.Holds (Within d) x →
    Within (d + s.height) (s.write x)
  | .text, x, _ => .text x
  | .value, _, h => h
  | .truth, x, _ => .bool x
  | .float f, x, _ => .float f x
  | .word w, x, _ => .integer (w.toInteger x)
  | .list item, _, h => .array fun t ht => by
    obtain ⟨v, hv, rfl⟩ := List.mem_map.mp ht
    exact item.within_write v (h v hv)
  | .nullable _, none, _ => .null
  | .nullable inner, some y, h => inner.within_write y (h y rfl)
  | .table entry, _, h => .object fun m hm => by
    obtain ⟨v, hv, rfl⟩ := List.mem_map.mp hm
    exact entry.within_write v.2 (h v hv)
  | .choice names, x, _ => .text (names.get x)
  | .record fields, x, h => .object (fields.within_write x h)
  | .tagged _ variants, x, h => .object fun m hm => by
    cases List.mem_cons.mp hm with
    | inl tag => exact tag ▸ .text _
    | inr member => exact variants.within_write x h m member

theorem Fields.within_write {d : Nat} : (fields : Fields) → (x : fields.Carrier) →
    fields.Holds (Within d) x → ∀ m ∈ fields.write x, Within (d + fields.height) m.2
  | .done, _, _ => nofun
  | .required _ schema rest, (v, r), h =>
    Fields.all_required
      ((schema.within_write v h.1).mono (Nat.add_le_add_left (Nat.le_max_left ..) d))
      fun m hm => (rest.within_write r h.2 m hm).mono (Nat.add_le_add_left (Nat.le_max_right ..) d)
  | .optional _ schema rest, (_, r), h =>
    Fields.all_optional
      (fun v hv => (schema.within_write v (h.1 v hv)).mono
        (Nat.add_le_add_left (Nat.le_max_left ..) d))
      fun m hm => (rest.within_write r h.2 m hm).mono (Nat.add_le_add_left (Nat.le_max_right ..) d)

theorem Variants.within_write {d : Nat} : (variants : Variants) → (x : variants.Carrier) →
    variants.Holds (Within d) x → ∀ m ∈ (variants.write x).2, Within (d + variants.height) m.2
  | .variant _ fields _, .inl x, h => fun m hm =>
    (fields.within_write x h m hm).mono (Nat.add_le_add_left (Nat.le_max_left ..) d)
  | .variant _ _ rest, .inr x, h => fun m hm =>
    (rest.within_write x h m hm).mono (Nat.add_le_add_left (Nat.le_max_right ..) d)

end

mutual

theorem Schema.legible_of_holds : (s : Schema) → s.hasFloats = false → (x : s.Carrier) →
    s.Holds FloatFree x → s.Legible x
  | .text, _, _, _ => trivial
  | .value, _, _, h => Value.legible h
  | .truth, _, _, _ => trivial
  | .word _, _, _, _ => trivial
  | .list item, noFloats, _, h => fun y hy => item.legible_of_holds noFloats y (h y hy)
  | .nullable inner, noFloats, _, h => fun y hy => inner.legible_of_holds noFloats y (h y hy)
  | .table entry, noFloats, _, h => fun m hm => entry.legible_of_holds noFloats m.2 (h m hm)
  | .choice _, _, _, _ => trivial
  | .record fields, noFloats, x, h => fields.legible_of_holds noFloats x h
  | .tagged _ variants, noFloats, x, h => variants.legible_of_holds noFloats x h

theorem Fields.legible_of_holds : (fields : Fields) → fields.hasFloats = false →
    (x : fields.Carrier) → fields.Holds FloatFree x → fields.Legible x
  | .done, _, _, _ => trivial
  | .required _ schema rest, noFloats, (v, r), h =>
    ⟨schema.legible_of_holds (Bool.or_eq_false_iff.mp noFloats).1 v h.1,
      rest.legible_of_holds (Bool.or_eq_false_iff.mp noFloats).2 r h.2⟩
  | .optional _ schema rest, noFloats, (_, r), h =>
    ⟨fun v hv => schema.legible_of_holds (Bool.or_eq_false_iff.mp noFloats).1 v (h.1 v hv),
      rest.legible_of_holds (Bool.or_eq_false_iff.mp noFloats).2 r h.2⟩

theorem Variants.legible_of_holds : (variants : Variants) → variants.hasFloats = false →
    (x : variants.Carrier) → variants.Holds FloatFree x → variants.Legible x
  | .variant _ fields _, noFloats, .inl x, h =>
    fields.legible_of_holds (Bool.or_eq_false_iff.mp noFloats).1 x h
  | .variant _ _ rest, noFloats, .inr x, h =>
    rest.legible_of_holds (Bool.or_eq_false_iff.mp noFloats).2 x h

end

end HalBench.Json
