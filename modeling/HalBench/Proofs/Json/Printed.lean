import HalBench.Json.Codec
import HalBench.Proofs.Json.Numeral
import HalBench.Proofs.Json.Quotation
import HalBench.Proofs.Number.Decimal

/-! The bytes of printed trees, and the readers of their items and members. A printed tree stands on
one line: strings escape the control characters that they hold, and everything else is written in
visible characters. -/

namespace HalBench.Json

def quoted (s : String) : Bytes := 34 :: (escaped s.toList ++ [34])

theorem encode_renderText (s : String) : Utf8.encode (renderText s.toList) = quoted s := by
  rw [renderText, Utf8.encode_cons, Utf8.encode_append]
  rfl

namespace Tree

def bytes (x : Tree) : Bytes := Utf8.encode x.render

/-- The bytes of the items after the first one, with the closing bracket. -/
def itemsBytes (items : List Tree) : Bytes := Utf8.encode (renderItems items)

/-- The bytes of the members after the first one, with the closing brace. -/
def membersBytes (members : List (String × Tree)) : Bytes := Utf8.encode (renderMembers members)

theorem bytes_null : null.bytes = [110, 117, 108, 108] := rfl

theorem bytes_bool (b : Bool) :
    (bool b).bytes = if b then [116, 114, 117, 101] else [102, 97, 108, 115, 101] := by
  cases b <;> rfl

theorem bytes_text (s : String) : (text s).bytes = quoted s := encode_renderText s

def arrayBody : List Tree → Bytes
  | [] => [93]
  | x :: r => x.bytes ++ itemsBytes r

theorem bytes_array (items : List Tree) : (array items).bytes = 91 :: arrayBody items := by
  cases items with
  | nil => rfl
  | cons x r =>
    show Utf8.encode ('[' :: (x.render ++ renderItems r)) = _
    rw [Utf8.encode_cons, Utf8.encode_append]
    rfl

def objectBody : List (String × Tree) → Bytes
  | [] => [125]
  | (k, x) :: r => quoted k ++ 58 :: x.bytes ++ membersBytes r

theorem encode_renderMember (k : String) (x : Tree) :
    Utf8.encode (renderMember (k, x)) = quoted k ++ 58 :: x.bytes := by
  show Utf8.encode (renderText k.toList ++ ':' :: x.render) = _
  rw [Utf8.encode_append, Utf8.encode_cons, encode_renderText]
  rfl

theorem bytes_object (members : List (String × Tree)) :
    (object members).bytes = 123 :: objectBody members := by
  cases members with
  | nil => rfl
  | cons m r =>
    show Utf8.encode ('\x7b' :: (renderMember m ++ renderMembers r)) = _
    rw [Utf8.encode_cons, Utf8.encode_append, encode_renderMember]
    rfl

theorem itemsBytes_nil : itemsBytes [] = [93] := rfl

theorem itemsBytes_cons (x : Tree) (r : List Tree) :
    itemsBytes (x :: r) = 44 :: (x.bytes ++ itemsBytes r) := by
  show Utf8.encode (',' :: (x.render ++ renderItems r)) = _
  rw [Utf8.encode_cons, Utf8.encode_append]
  rfl

theorem membersBytes_nil : membersBytes [] = [125] := rfl

theorem membersBytes_cons (k : String) (x : Tree) (r : List (String × Tree)) :
    membersBytes ((k, x) :: r) = 44 :: (quoted k ++ 58 :: x.bytes ++ membersBytes r) := by
  show Utf8.encode (',' :: (renderMember (k, x) ++ renderMembers r)) = _
  rw [Utf8.encode_cons, Utf8.encode_append, encode_renderMember]
  rfl

theorem length_itemsBytes (items : List Tree) : items.length < (itemsBytes items).length := by
  induction items with
  | nil =>
    rw [itemsBytes_nil]
    exact Nat.one_pos
  | cons x r ih =>
    rw [itemsBytes_cons, List.length_cons, List.length_cons, List.length_append]
    omega

theorem length_membersBytes (members : List (String × Tree)) :
    members.length < (membersBytes members).length := by
  induction members with
  | nil =>
    rw [membersBytes_nil]
    exact Nat.one_pos
  | cons m r ih =>
    rw [membersBytes_cons, List.length_cons, List.length_cons, List.length_append]
    omega

theorem delimited_itemsBytes (items : List Tree) (rest : Bytes) :
    Delimited (itemsBytes items ++ rest) := by
  cases items with
  | nil =>
    rw [itemsBytes_nil]
    exact delimited_bracket _
  | cons x r =>
    rw [itemsBytes_cons]
    exact delimited_comma _

theorem delimited_membersBytes (members : List (String × Tree)) (rest : Bytes) :
    Delimited (membersBytes members ++ rest) := by
  cases members with
  | nil =>
    rw [membersBytes_nil]
    exact delimited_brace _
  | cons m r =>
    rw [membersBytes_cons]
    exact delimited_comma _

def Opens (x : Tree) : Prop := ∃ b r, x.bytes = b :: r ∧ Opening b

end Tree

namespace Reader

open HalBench.Json.Tree

inductive ReadsItems {α : Type} (item : Reader α) : List Tree → List α → Prop where
  | nil : ReadsItems item [] []
  | cons {x : Tree} {r : List Tree} {y : α} {s : List α} (opens : x.Opens)
      (read : Reads item x.bytes y) (further : ReadsItems item r s) :
      ReadsItems item (x :: r) (y :: s)

/-- The printed members of an object are read into a state one after another. -/
inductive ReadsMembers {σ : Type} (member : String → σ → Reader σ) :
    List (String × Tree) → σ → σ → Prop where
  | nil (s : σ) : ReadsMembers member [] s s
  | cons {k : String} {x : Tree} {r : List (String × Tree)} {s t u : σ}
      (read : Reads (member k s) (58 :: x.bytes) t) (further : ReadsMembers member r t u) :
      ReadsMembers member ((k, x) :: r) s u

section Items
variable {α : Type} {item : Reader α} {ts : List Tree} {xs : List α}

theorem itemsLoop_step {first : Bool} {fuel : Nat} {x : Tree} {y : α} {input q rest : Bytes}
    (next : nextItem first input = .ok (true, x.bytes ++ q)) (read : Reads item x.bytes y)
    (delimited : Delimited q) (further : itemsLoop item fuel false q = .ok (xs, rest)) :
    itemsLoop item (fuel + 1) first input = .ok (y :: xs, rest) := by
  rw [itemsLoop, bind_ok next, if_pos rfl, bind_ok (read q delimited), bind_ok further]
  rfl

theorem itemsLoop_reads (h : ReadsItems item ts xs) {fuel : Nat} (enough : ts.length < fuel)
    (rest : Bytes) :
    itemsLoop item fuel false (itemsBytes ts ++ rest) = .ok (xs, 93 :: rest) := by
  induction h generalizing fuel with
  | nil =>
    obtain ⟨fuel, rfl⟩ := Nat.exists_eq_succ_of_ne_zero (Nat.ne_of_gt enough)
    rw [itemsBytes_nil, itemsLoop]
    exact bind_ok (nextItem_bracket false rest)
  | @cons x r y s opens read further ih =>
    obtain ⟨fuel, rfl⟩ := Nat.exists_eq_succ_of_ne_zero (Nat.ne_of_gt (Nat.zero_lt_of_lt enough))
    obtain ⟨b, q, first, opening⟩ := opens
    refine itemsLoop_step ?_ read (delimited_itemsBytes r rest) (ih (Nat.lt_of_succ_lt_succ enough))
    rw [itemsBytes_cons, List.cons_append, List.append_assoc, first]
    exact nextItem_comma opening _

theorem items_reads (h : ReadsItems item ts xs) (rest : Bytes) :
    items item true (arrayBody ts ++ rest) = .ok (xs, rest) := by
  have loop : itemsLoop item ((arrayBody ts ++ rest).length + 1) true (arrayBody ts ++ rest) =
      .ok (xs, 93 :: rest) := by
    cases h with
    | nil =>
      rw [itemsLoop]
      exact bind_ok (nextItem_bracket true rest)
    | @cons x r y s opens read further =>
      have enough := length_itemsBytes r
      obtain ⟨b, q, first, opening⟩ := opens
      refine itemsLoop_step ?_ read (delimited_itemsBytes r rest) (itemsLoop_reads further ?_ rest)
      · rw [arrayBody, List.append_assoc, first]
        exact nextItem_first opening _
      · rw [arrayBody, List.length_append, List.length_append]
        omega
  rw [items, bind_ok loop, bind_ok (closeItems_bracket rest)]
  rfl

end Items

section Members
variable {σ : Type} {member : String → σ → Reader σ} {ms : List (String × Tree)} {s s' : σ}

theorem membersLoop_step {first : Bool} {fuel : Nat} {k : String} {x : Tree} {t : σ}
    {input q rest : Bytes}
    (next : nextMember first input = .ok (true, escaped k.toList ++ 34 :: (58 :: x.bytes ++ q)))
    (read : Reads (member k s) (58 :: x.bytes) t) (delimited : Delimited q)
    (further : membersLoop string member fuel false t q = .ok (s', rest)) :
    membersLoop string member (fuel + 1) first s input = .ok (s', rest) := by
  rw [membersLoop, bind_ok next, if_pos rfl, bind_ok (string_escaped k _),
    bind_ok (read q delimited), further]

theorem membersLoop_reads (h : ReadsMembers member ms s s') {fuel : Nat}
    (enough : ms.length < fuel) (rest : Bytes) :
    membersLoop string member fuel false s (membersBytes ms ++ rest) = .ok (s', 125 :: rest) := by
  induction h generalizing fuel with
  | nil s =>
    obtain ⟨fuel, rfl⟩ := Nat.exists_eq_succ_of_ne_zero (Nat.ne_of_gt enough)
    rw [membersBytes_nil, membersLoop]
    exact bind_ok (nextMember_brace false rest)
  | @cons k x r s t u read further ih =>
    obtain ⟨fuel, rfl⟩ := Nat.exists_eq_succ_of_ne_zero (Nat.ne_of_gt (Nat.zero_lt_of_lt enough))
    refine membersLoop_step ?_ read (delimited_membersBytes r rest)
      (ih (Nat.lt_of_succ_lt_succ enough))
    rw [membersBytes_cons, quoted]
    simp only [List.cons_append, List.append_assoc, List.nil_append]
    exact nextMember_comma _

theorem members_reads (h : ReadsMembers member ms s s') (rest : Bytes) :
    members string member s (objectBody ms ++ rest) = .ok (s', 125 :: rest) := by
  unfold members
  cases h with
  | nil =>
    rw [membersLoop]
    exact bind_ok (nextMember_brace true rest)
  | @cons k x r s t u read further =>
    have enough := length_membersBytes r
    refine membersLoop_step ?_ read (delimited_membersBytes r rest)
      (membersLoop_reads further ?_ rest)
    · rw [objectBody, quoted]
      simp only [List.cons_append, List.append_assoc, List.nil_append]
      exact nextMember_first _
    · rw [objectBody, List.length_append, List.length_append]
      omega

end Members

end Reader

section Graphic

/-- A character that does not stand among the control characters before the blank. -/
def Graphic (c : Char) : Prop := 32 ≤ c.toNat

instance (c : Char) : Decidable (Graphic c) := inferInstanceAs (Decidable (32 ≤ c.toNat))

theorem graphic_of_all {text : List Char} (h : text.all (fun c => decide (Graphic c)) = true) :
    ∀ c ∈ text, Graphic c := fun c hc => of_decide_eq_true (List.all_eq_true.mp h c hc)

theorem graphic_of_visible {text : List Char} (h : ∀ c ∈ text, Decimal.Visible c) :
    ∀ c ∈ text, Graphic c := fun c hc => Nat.le_of_lt (h c hc).1

theorem newline_not_mem {text : List Char} (h : ∀ c ∈ text, Graphic c) : '\n' ∉ text := by
  intro member
  exact absurd (h '\n' member) (by decide)

theorem graphic_hexDigit (n : Nat) : Graphic (hexDigit n) := by
  have all : ∀ k < 16, Graphic (Nat.digitChar k) := by decide
  exact all (n % 16) (Nat.mod_lt n (by decide))

theorem graphic_escapeChar (c : Char) : ∀ d ∈ escapeChar c, Graphic d := by
  unfold escapeChar
  -- Seven characters have an escape of their own.
  split
  · exact graphic_of_all rfl
  · exact graphic_of_all rfl
  · exact graphic_of_all rfl
  · exact graphic_of_all rfl
  · exact graphic_of_all rfl
  · exact graphic_of_all rfl
  · exact graphic_of_all rfl
  · split
    · simp only [List.forall_mem_cons, graphic_hexDigit, true_and]
      exact ⟨by decide, by decide, by decide, by decide, nofun⟩
    · rename_i notControl
      intro d hd
      rw [List.mem_singleton.mp hd]
      exact Nat.le_of_not_lt notControl

theorem graphic_renderText (text : List Char) : ∀ c ∈ renderText text, Graphic c := by
  intro c hc
  rw [renderText, List.mem_cons, List.mem_append, List.mem_singleton, List.mem_flatMap] at hc
  rcases hc with rfl | ⟨d, _, inside⟩ | rfl
  · decide
  · exact graphic_escapeChar d c inside
  · decide

theorem graphic_renderInteger (i : Int) : ∀ c ∈ renderInteger i, Graphic c := by
  intro c hc
  rw [renderInteger, List.mem_append] at hc
  rcases hc with sign | digit
  · split at sign
    · rw [List.mem_singleton.mp sign]
      decide
    · cases sign
  · exact graphic_of_visible Decimal.visible_toDigits c digit

theorem graphic_renderFloat (f : Format) (x : Binary) : ∀ c ∈ renderFloat f x, Graphic c := by
  unfold renderFloat
  cases text : Decimal.plain f x with
  | none => exact graphic_of_all rfl
  | some digits => exact graphic_of_visible (Decimal.visible_plain text)

namespace Tree

mutual

theorem graphic_render : (x : Tree) → ∀ c ∈ x.render, Graphic c
  | null => graphic_of_all rfl
  | bool true => graphic_of_all rfl
  | bool false => graphic_of_all rfl
  | integer i => graphic_renderInteger i.val
  | float f x => graphic_renderFloat f x
  | text s => graphic_renderText s.toList
  | array [] => graphic_of_all rfl
  | array (x :: r) => by
    rw [render]
    exact List.forall_mem_cons.mpr ⟨by decide, List.forall_mem_append.mpr
      ⟨graphic_render x, graphic_renderItems r⟩⟩
  | object [] => graphic_of_all rfl
  | object (m :: r) => by
    rw [render]
    exact List.forall_mem_cons.mpr ⟨by decide, List.forall_mem_append.mpr
      ⟨graphic_renderMember m, graphic_renderMembers r⟩⟩

theorem graphic_renderItems : (items : List Tree) → ∀ c ∈ renderItems items, Graphic c
  | [] => graphic_of_all rfl
  | x :: r => by
    rw [renderItems]
    exact List.forall_mem_cons.mpr ⟨by decide, List.forall_mem_append.mpr
      ⟨graphic_render x, graphic_renderItems r⟩⟩

theorem graphic_renderMembers : (members : List (String × Tree)) →
    ∀ c ∈ renderMembers members, Graphic c
  | [] => graphic_of_all rfl
  | m :: r => by
    rw [renderMembers]
    exact List.forall_mem_cons.mpr ⟨by decide, List.forall_mem_append.mpr
      ⟨graphic_renderMember m, graphic_renderMembers r⟩⟩

theorem graphic_renderMember : (m : String × Tree) → ∀ c ∈ renderMember m, Graphic c
  | (k, x) => by
    rw [renderMember]
    exact List.forall_mem_append.mpr ⟨graphic_renderText k.toList,
      List.forall_mem_cons.mpr ⟨by decide, graphic_render x⟩⟩

end

end Tree

theorem Codec.newline_not_mem_toText {α : Type} (c : Codec α) (x : α) :
    '\n' ∉ (c.toText x).toList := by
  rw [Codec.toText, String.toList_ofList]
  exact newline_not_mem (Tree.graphic_render _)

end Graphic

end HalBench.Json
