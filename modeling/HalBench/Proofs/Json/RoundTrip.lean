import HalBench.Proofs.Json.Written
import HalBench.Proofs.Number.Decimal

/-! What is written by a codec is read back by it: strings and integers always, floats that are
read back from their own text, and values without floats, nested as deep as a reader goes. -/

namespace HalBench.Json

open Reader HalBench.Json.Tree

theorem not_blank_of_visible {c : Char} (h : Decimal.Visible c) :
    ∀ b ∈ String.utf8EncodeChar c, isBlank b = false := by
  have value := Utf8.toNat_ofNat (n := c.toNat) (Nat.lt_trans h.2 (by decide))
  rw [Utf8.encodeChar_ascii h.2]
  intro b hb
  rw [List.mem_singleton.mp hb]
  have low := h.1
  simp only [isBlank, Bool.or_eq_false_iff, beq_eq_false_iff_ne, ne_eq, ← UInt8.toNat_inj, value,
    UInt8.reduceToNat]
  omega

theorem not_blank_renderFloat (f : Format) (x : Binary) :
    ∀ b ∈ Utf8.encode (renderFloat f x), isBlank b = false := by
  have visible : ∀ c ∈ renderFloat f x, Decimal.Visible c := by
    unfold renderFloat
    cases text : Decimal.plain f x with
    | none => exact Decimal.visible_of_all rfl
    | some text' => exact Decimal.visible_plain text
  intro b hb
  obtain ⟨c, hc, hb⟩ := List.mem_flatMap.mp hb
  exact not_blank_of_visible (visible c hc) b hb

theorem skipBlank_eq_nil {b : Bytes} (visible : ∀ c ∈ b, isBlank c = false)
    (h : skipBlank b = []) : b = [] := by
  cases b with
  | nil => rfl
  | cons c r =>
    rw [skipBlank, List.dropWhile_cons_of_neg (by simp [visible c List.mem_cons_self])] at h
    cases h

theorem unexpected_ne_ok {α : Type} (b : Bytes) (answer : α × Bytes) :
    (unexpected : Reader α) b ≠ .ok answer := by
  intro h
  have peeked : peek b = .ok ((skipBlank b).head?, skipBlank b) := rfl
  rw [unexpected, bind_ok peeked] at h
  generalize (skipBlank b).head? = found at h
  split at h
  · cases h
  · cases h
  · cases read : scalar (skipBlank b) with
    | error e =>
      rw [bind_error read] at h
      cases h
    | ok answer =>
      rw [bind_ok read] at h
      cases h

theorem numberValue_ok {α : Type} {check : Tree → Except Fault α} {b q : Bytes} {x : α}
    (h : numberValue check b = .ok (x, q)) :
    ∃ t, numeral (skipBlank b) = .ok (t, q) ∧ check t = .ok x := by
  have peeked : peek b = .ok ((skipBlank b).head?, skipBlank b) := rfl
  rw [numberValue, bind_ok peeked] at h
  generalize (skipBlank b).head? = found at h
  split at h
  · split at h
    · cases read : numeral (skipBlank b) with
      | error e =>
        rw [bind_error read] at h
        cases h
      | ok answer =>
        rw [bind_ok read] at h
        cases checked : check answer.1 with
        | error e =>
          rw [checked] at h
          cases h
        | ok y =>
          rw [checked] at h
          cases h
          exact ⟨answer.1, rfl, checked⟩
    · exact absurd h (unexpected_ne_ok _ _)
  · exact absurd h (unexpected_ne_ok _ _)

theorem skipBlank_of_visible {b : Bytes} (visible : ∀ c ∈ b, isBlank c = false) :
    skipBlank b = b := by
  cases b with
  | nil => rfl
  | cons c r => exact List.dropWhile_cons_of_neg (by rw [visible c List.mem_cons_self]; decide)

/-- A float that is decoded from its own text is read back wherever it is written. -/
theorem legible_of_decode {f : Format} {x : Binary}
    (h : (Schema.float f).decode (Utf8.encode (renderFloat f x)) = .ok x) :
    (Schema.float f).Legible x := by
  have visible := not_blank_renderFloat f x
  have value : whole (numberValue (asFloat f)) (Utf8.encode (renderFloat f x)) = .ok x := h
  rw [whole] at value
  split at value
  · cases value
  · rename_i y rest read
    split at value
    · rename_i blank
      cases value
      -- Blanks may follow a numeral, but this text has none and is a numeral as a whole.
      obtain ⟨t, number, accepted⟩ := numberValue_ok read
      rw [skipBlank_of_visible visible] at number
      obtain ⟨p, n, spelled, tree, all⟩ := numeral_ok number
      have ended : rest = [] := skipBlank_eq_nil (fun c hc =>
        visible c (all ▸ List.mem_append_right p hc)) blank
      rw [ended, List.append_nil] at all
      exact ⟨t, .number (all ▸ spelled) tree, accepted⟩
    · cases value

section Canonical

theorem sort_of_ascending {α : Type} {entries : List (String × α)}
    (ascending : Entries.Ascending entries) : Entries.sort entries = entries := by
  -- The entries put in so far are the first ones, and the next one goes to their end.
  suffices ∀ (rest done : List (String × α)), Entries.Ascending (done ++ rest) →
      rest.foldl (fun sorted m => Entries.insert m.1 m.2 sorted) done = done ++ rest from
    this entries [] ascending
  intro rest
  induction rest with
  | nil => exact fun done _ => (List.append_nil done).symm
  | cons m r ih =>
    intro done ascending
    have last : Entries.insert m.1 m.2 done = done ++ [m] := insert_last fun n hn =>
      (List.pairwise_append.mp ascending).2.2 n hn m List.mem_cons_self
    rw [List.foldl_cons, last, ih (done ++ [m]) (by rwa [List.append_assoc]), List.append_assoc]
    rfl

mutual

theorem canon_eq : (x : Tree) → x.Canonical → x.canon = x
  | null, _ => by rw [canon]; all_goals nofun
  | Tree.bool _, _ => by rw [canon]; all_goals nofun
  | integer _, _ => by rw [canon]; all_goals nofun
  | float .., _ => by rw [canon]; all_goals nofun
  | text _, _ => by rw [canon]; all_goals nofun
  | array items, h => by
    rw [Canonical] at h
    rw [canon, canonItems_eq items h]
  | object members, h => by
    rw [Canonical] at h
    rw [canon, canonMembers_eq members h.2, sort_of_ascending h.1]

theorem canonItems_eq : (items : List Tree) → CanonicalItems items → canonItems items = items
  | [], _ => by rw [canonItems]
  | x :: r, h => by
    rw [CanonicalItems] at h
    rw [canonItems, canon_eq x h.1, canonItems_eq r h.2]

theorem canonMembers_eq : (members : List (String × Tree)) → CanonicalMembers members →
    canonMembers members = members
  | [], _ => by rw [canonMembers]
  | (k, x) :: r, h => by
    rw [CanonicalMembers, CanonicalMember] at h
    rw [canonMembers, canonMember, canon_eq x h.1, canonMembers_eq r h.2]

end

theorem Value.ofTree_tree (x : Value) : Value.ofTree x.tree = x := by
  obtain ⟨tree, canonical⟩ := x
  simp only [Value.ofTree, Value.mk.injEq]
  exact canon_eq tree canonical

theorem Value.legible {x : Value} (h : x.tree.FloatFree) : Schema.value.Legible x := by
  refine ⟨h.readable, ?_⟩
  rw [h.reread]
  exact x.ofTree_tree

end Canonical

/-- A written value that is legible and not nested too deep is read back from its text. -/
theorem Schema.decode_write {s : Schema} (sound : s.Sound) {x : s.Carrier} (legible : s.Legible x)
    (within : Within maxDepth (s.write x)) : s.decode (s.write x).bytes = .ok x :=
  whole_of_reads (s.follows_write sound x within (s.readable_write x legible)
    (s.check_write sound x legible))

theorem Codec.decode_encode {α : Type} {c : Codec α} (sound : c.schema.Sound) {x : α}
    (legible : c.schema.Legible (c.pack x)) (within : Within maxDepth (c.toTree x)) :
    c.decode (c.encode x) = .ok x := by
  have read := Schema.decode_write sound legible within
  rw [Codec.decode, show c.encode x = (c.schema.write (c.pack x)).bytes from rfl, read]
  exact congrArg Except.ok (c.unpack_pack x)

end HalBench.Json
