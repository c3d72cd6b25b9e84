import HalBench.Json.Reader

/-! What the readers take off the front of a text. A value may be followed by the end of the text
or by a byte that separates or closes. -/

namespace HalBench.Json

/-- Nothing, or bytes that begin with a comma or a closing bracket or brace. -/
def Delimited (rest : Bytes) : Prop := ∀ b ∈ rest.head?, b = 44 ∨ b = 93 ∨ b = 125

theorem delimited_nil : Delimited [] := nofun

theorem delimited_comma (r : Bytes) : Delimited (44 :: r) := by
  rintro b ⟨⟩
  exact .inl rfl

theorem delimited_bracket (r : Bytes) : Delimited (93 :: r) := by
  rintro b ⟨⟩
  exact .inr (.inl rfl)

theorem delimited_brace (r : Bytes) : Delimited (125 :: r) := by
  rintro b ⟨⟩
  exact .inr (.inr rfl)

structure Opening (b : UInt8) : Prop where
  visible : Reader.isBlank b = false
  notBracket : b ≠ 93

namespace Reader

variable {α β : Type} {p : Reader α} {f : α → Reader β} {x : α} {input rest : Bytes}

theorem bind_ok (h : p input = .ok (x, rest)) : (p >>= f) input = f x rest := by
  change StateT.bind p f input = _
  simp only [StateT.bind, h]
  rfl

theorem bind_error {e : Fault} (h : p input = .error e) : (p >>= f) input = .error e := by
  change StateT.bind p f input = _
  simp only [StateT.bind, h]
  rfl

/-- A reader takes some bytes off and gives a value, whatever may follow the bytes. -/
def Reads (p : Reader α) (b : Bytes) (x : α) : Prop :=
  ∀ rest, Delimited rest → p (b ++ rest) = .ok (x, rest)

theorem peek_cons {b : UInt8} (visible : isBlank b = false) (r : Bytes) :
    peek (b :: r) = .ok (some b, b :: r) := by
  have kept : skipBlank (b :: r) = b :: r := List.dropWhile_cons_of_neg (by simp [visible])
  simp only [peek, kept, List.head?_cons]

theorem advance_cons (b : UInt8) (r : Bytes) : advance (b :: r) = .ok ((), r) := rfl

theorem literal_append (word rest : Bytes) : literal word (word ++ rest) = .ok ((), rest) := by
  induction word with
  | nil => rfl
  | cons b word ih =>
    rw [List.cons_append, literal, if_pos rfl, ih]

theorem nextItem_first {b : UInt8} (opening : Opening b) (r : Bytes) :
    nextItem true (b :: r) = .ok (true, b :: r) := by
  rw [nextItem, bind_ok (peek_cons opening.visible r)]
  generalize next : some b = found
  split
  · cases next
  · exact absurd (Option.some.inj next) opening.notBracket
  · rfl
  · rfl

theorem nextItem_bracket (first : Bool) (r : Bytes) :
    nextItem first (93 :: r) = .ok (false, 93 :: r) := by
  rw [nextItem, bind_ok (peek_cons rfl r)]
  rfl

theorem nextItem_comma {b : UInt8} (opening : Opening b) (r : Bytes) :
    nextItem false (44 :: b :: r) = .ok (true, b :: r) := by
  rw [nextItem, bind_ok (peek_cons rfl _)]
  change (advance >>= _) _ = _
  rw [bind_ok (advance_cons 44 _), bind_ok (peek_cons opening.visible r)]
  generalize next : some b = found
  split
  · cases next
  · exact absurd (Option.some.inj next) opening.notBracket
  · rfl

theorem closeItems_bracket (r : Bytes) : closeItems (93 :: r) = .ok ((), r) := by
  rw [closeItems, bind_ok (peek_cons rfl r)]
  rfl

theorem nextMember_first (r : Bytes) : nextMember true (34 :: r) = .ok (true, r) := by
  rw [nextMember, bind_ok (peek_cons rfl r)]
  rfl

theorem nextMember_brace (first : Bool) (r : Bytes) :
    nextMember first (125 :: r) = .ok (false, 125 :: r) := by
  rw [nextMember, bind_ok (peek_cons rfl r)]
  rfl

theorem nextMember_comma (r : Bytes) : nextMember false (44 :: 34 :: r) = .ok (true, r) := by
  rw [nextMember, bind_ok (peek_cons rfl _)]
  change (advance >>= _) _ = _
  rw [bind_ok (advance_cons 44 _), bind_ok (peek_cons rfl r)]
  rfl

theorem closeMembers_brace (r : Bytes) : closeMembers (125 :: r) = .ok ((), r) := by
  rw [closeMembers, bind_ok (peek_cons rfl r)]
  rfl

theorem colon_colon (r : Bytes) : colon (58 :: r) = .ok ((), r) := by
  rw [colon, bind_ok (peek_cons rfl r)]
  rfl

theorem whole_of_reads (h : Reads p input x) : whole p input = .ok x := by
  have read := h [] delimited_nil
  rw [List.append_nil] at read
  simp only [whole, read]
  rfl

end Reader

end HalBench.Json
