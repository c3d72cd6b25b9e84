import HalBench.Json.Numeral
import HalBench.Json.Printer
import HalBench.Proofs.Json.Reading
import HalBench.Proofs.Number.Digits

/-! Scanning a numeral takes the bytes that spell it, whatever follows them. -/

namespace HalBench.Json

namespace Numeral

structure AreDigits (ds : Bytes) : Prop where
  some_ : ds ≠ []
  all : ∀ b ∈ ds, isDigit b = true

def SpellsFraction (p : Bytes) : Option Bytes → Prop
  | none => p = []
  | some ds => p = 46 :: ds ∧ AreDigits ds

def SpellsExponent (p : Bytes) : Option (Bool × Bytes) → Prop
  | none => p = []
  | some (down, ds) => AreDigits ds ∧ ∃ mark, (mark = 101 ∨ mark = 69) ∧
      (p = mark :: 43 :: ds ∧ down = false ∨ p = mark :: 45 :: ds ∧ down = true ∨
        p = mark :: ds ∧ down = false)

structure SpellsUnsigned (p : Bytes) (n : Numeral) : Prop where
  whole : AreDigits n.whole
  leading : n.whole.head? = some 48 → n.whole = [48]
  parts : ∃ f e, p = n.whole ++ (f ++ e) ∧ SpellsFraction f n.fraction ∧
    SpellsExponent e n.exponent

def Spells (p : Bytes) (n : Numeral) : Prop :=
  ∃ q, SpellsUnsigned q n ∧ p = if n.negative then 45 :: q else q

/-- Bytes with which no numeral goes on. -/
def Halts (rest : Bytes) : Prop :=
  ∀ b ∈ rest.head?, isDigit b = false ∧ b ≠ 46 ∧ b ≠ 101 ∧ b ≠ 69

theorem halts_of_delimited {rest : Bytes} (h : Delimited rest) : Halts rest := by
  intro b hb
  rcases h b hb with rfl | rfl | rfl <;> decide

section Scan
variable {atEnd : Fault} {ds p rest : Bytes}

theorem takeWhile_append_stop (all : ∀ b ∈ ds, isDigit b = true)
    (stop : ∀ b ∈ rest.head?, isDigit b = false) :
    (ds ++ rest).takeWhile isDigit = ds ∧ (ds ++ rest).dropWhile isDigit = rest := by
  rw [List.takeWhile_append_of_pos all, List.dropWhile_append_of_pos all]
  cases rest with
  | nil => simp
  | cons b r => simp [stop b rfl]

theorem digits_append (spelled : AreDigits ds) (stop : ∀ b ∈ rest.head?, isDigit b = false) :
    digits atEnd (ds ++ rest) = .ok (ds, rest) := by
  obtain ⟨some_, all⟩ := spelled
  cases ds with
  | nil => exact absurd rfl some_
  | cons d ds =>
    obtain ⟨taken, left⟩ :=
      takeWhile_append_stop (fun b hb => all b (List.mem_cons_of_mem _ hb)) stop
    rw [List.cons_append, digits, if_pos (all d List.mem_cons_self), taken, left]

theorem wholeDigits_append (spelled : AreDigits ds) (leading : ds.head? = some 48 → ds = [48])
    (stop : ∀ b ∈ rest.head?, isDigit b = false) :
    wholeDigits atEnd (ds ++ rest) = .ok (ds, rest) := by
  by_cases zero : ds.head? = some 48
  · rw [leading zero]
    cases rest with
    | nil => rfl
    | cons b r =>
      rw [List.singleton_append, wholeDigits]
      simp [stop b rfl]
  · obtain ⟨d, r, rfl⟩ := List.exists_cons_of_ne_nil spelled.some_
    rw [← digits_append spelled stop, List.cons_append, wholeDigits]
    intro later same
    cases same
    exact zero rfl

theorem fractionPart_append {f : Option Bytes} (spelled : SpellsFraction p f)
    (stop : ∀ b ∈ rest.head?, isDigit b = false ∧ b ≠ 46) :
    fractionPart atEnd (p ++ rest) = .ok (f, rest) := by
  cases f with
  | none =>
    cases spelled
    cases rest with
    | nil => rfl
    | cons b r =>
      rw [List.nil_append, fractionPart]
      intro later same
      cases same
      exact (stop 46 rfl).2 rfl
  | some ds =>
    obtain ⟨rfl, spelled⟩ := spelled
    rw [List.cons_append, fractionPart,
      Reader.bind_ok (digits_append spelled fun b hb => (stop b hb).1)]
    rfl

theorem exponentPart_append {e : Option (Bool × Bytes)} (spelled : SpellsExponent p e)
    (stop : Halts rest) : exponentPart atEnd (p ++ rest) = .ok (e, rest) := by
  cases e with
  | none =>
    cases spelled
    cases rest with
    | nil => rfl
    | cons b r =>
      obtain ⟨_, _, notSmall, notLarge⟩ := stop b rfl
      rw [List.nil_append, exponentPart.eq_def]
      simp [notSmall, notLarge]
  | some e =>
    obtain ⟨down, ds⟩ := e
    obtain ⟨spelled, mark, marked, spells⟩ := spelled
    have read : digits atEnd (ds ++ rest) = .ok (ds, rest) :=
      digits_append spelled fun b hb => (stop b hb).1
    have found : (decide (mark = 101) || decide (mark = 69)) = true := by simpa using marked
    rcases spells with ⟨rfl, rfl⟩ | ⟨rfl, rfl⟩ | ⟨rfl, rfl⟩
    · rw [List.cons_append, List.cons_append, exponentPart, if_pos found]
      exact Reader.bind_ok read
    · rw [List.cons_append, List.cons_append, exponentPart, if_pos found]
      exact Reader.bind_ok read
    · obtain ⟨d, r, rfl⟩ := List.exists_cons_of_ne_nil spelled.some_
      have digit := spelled.all d List.mem_cons_self
      rw [List.cons_append, exponentPart, if_pos found]
      · exact Reader.bind_ok read
      · intro later same
        cases same
        cases digit
      · intro later same
        cases same
        cases digit

theorem fraction_not_digit {f : Option Bytes} (spelled : SpellsFraction p f)
    (stop : ∀ b ∈ rest.head?, isDigit b = false) : ∀ b ∈ (p ++ rest).head?, isDigit b = false := by
  cases f with
  | none =>
    cases spelled
    exact stop
  | some ds =>
    obtain ⟨rfl, _⟩ := spelled
    rintro b ⟨⟩
    rfl

theorem exponent_not_digit {e : Option (Bool × Bytes)} (spelled : SpellsExponent p e)
    (stop : ∀ b ∈ rest.head?, isDigit b = false ∧ b ≠ 46) :
    ∀ b ∈ (p ++ rest).head?, isDigit b = false ∧ b ≠ 46 := by
  cases e with
  | none =>
    cases spelled
    exact stop
  | some e =>
    obtain ⟨_, mark, marked, spells⟩ := spelled
    have first : (p ++ rest).head? = some mark := by
      rcases spells with ⟨rfl, _⟩ | ⟨rfl, _⟩ | ⟨rfl, _⟩ <;> rfl
    rw [first]
    rintro b ⟨⟩
    rcases marked with rfl | rfl <;> decide

theorem unsigned_append {n : Numeral} (spelled : SpellsUnsigned p n) (stop : Halts rest) :
    unsigned atEnd n.negative (p ++ rest) = .ok (n, rest) := by
  obtain ⟨whole, leading, f, e, rfl, fraction, exponent⟩ := spelled
  -- No part begins with a digit except the first, so each one ends where the next begins.
  have plain : ∀ b ∈ rest.head?, isDigit b = false ∧ b ≠ 46 := fun b hb =>
    ⟨(stop b hb).1, (stop b hb).2.1⟩
  have afterFraction := exponent_not_digit exponent plain
  have afterWhole := fraction_not_digit fraction fun b hb => (afterFraction b hb).1
  rw [unsigned, List.append_assoc, List.append_assoc,
    Reader.bind_ok (wholeDigits_append whole leading afterWhole),
    Reader.bind_ok (fractionPart_append fraction afterFraction),
    Reader.bind_ok (exponentPart_append exponent stop)]
  rfl

theorem scan_append {n : Numeral} (spelled : Spells p n) (stop : Halts rest) :
    scan atEnd (p ++ rest) = .ok (n, rest) := by
  obtain ⟨q, spelled, rfl⟩ := spelled
  have read : unsigned atEnd n.negative (q ++ rest) = .ok (n, rest) := unsigned_append spelled stop
  rw [← read]
  cases sign : n.negative with
  | true => rfl
  | false =>
    obtain ⟨d, r, whole⟩ := List.exists_cons_of_ne_nil spelled.whole.some_
    obtain ⟨f, e, rfl, _⟩ := spelled.parts
    have digit := spelled.whole.all d (whole ▸ List.mem_cons_self)
    simp only [whole, List.cons_append, Bool.false_eq_true, if_false]
    rw [scan]
    intro later same
    cases same
    cases digit

end Scan

section Taken
variable {atEnd : Fault} {b q : Bytes}

theorem digits_ok {ds : Bytes} (h : digits atEnd b = .ok (ds, q)) : AreDigits ds ∧ b = ds ++ q := by
  cases b with
  | nil => cases h
  | cons d r =>
    rw [digits] at h
    split at h
    · rename_i digit
      cases h
      refine ⟨⟨List.cons_ne_nil _ _, fun c hc => ?_⟩, ?_⟩
      · cases List.mem_cons.mp hc with
        | inl same => exact same ▸ digit
        | inr later => exact List.all_eq_true.mp List.all_takeWhile c later
      · rw [List.cons_append, List.takeWhile_append_dropWhile]
    · cases h

theorem wholeDigits_ok {ds : Bytes} (h : wholeDigits atEnd b = .ok (ds, q)) :
    AreDigits ds ∧ (ds.head? = some 48 → ds = [48]) ∧ b = ds ++ q := by
  unfold wholeDigits at h
  split at h
  · have zero : AreDigits [48] := ⟨List.cons_ne_nil _ _, by simp [isDigit]⟩
    split at h
    · split at h
      · cases h
      · cases h
        exact ⟨zero, fun _ => rfl, rfl⟩
    · cases h
      exact ⟨zero, fun _ => rfl, rfl⟩
  · rename_i notZero
    obtain ⟨spelled, rfl⟩ := digits_ok h
    refine ⟨spelled, fun first => ?_, rfl⟩
    obtain ⟨d, r, rfl⟩ := List.exists_cons_of_ne_nil spelled.some_
    cases first
    exact absurd rfl (notZero (r ++ q))

theorem fractionPart_ok {f : Option Bytes} (h : fractionPart atEnd b = .ok (f, q)) :
    ∃ p, SpellsFraction p f ∧ b = p ++ q := by
  unfold fractionPart at h
  split at h
  · rename_i r
    cases read : digits atEnd r with
    | error e =>
      rw [Reader.bind_error read] at h
      cases h
    | ok answer =>
      rw [Reader.bind_ok read] at h
      cases h
      obtain ⟨spelled, rfl⟩ := digits_ok read
      exact ⟨46 :: answer.1, ⟨rfl, spelled⟩, rfl⟩
  · cases h
    exact ⟨[], rfl, rfl⟩

theorem digitsAs_ok {down : Bool} {e : Option (Bool × Bytes)}
    (h : (do return some (down, ← digits atEnd) : Reader (Option (Bool × Bytes))) b = .ok (e, q)) :
    ∃ ds, AreDigits ds ∧ e = some (down, ds) ∧ b = ds ++ q := by
  cases read : digits atEnd b with
  | error fault =>
    rw [Reader.bind_error read] at h
    cases h
  | ok answer =>
    rw [Reader.bind_ok read] at h
    cases h
    obtain ⟨spelled, rfl⟩ := digits_ok read
    exact ⟨answer.1, spelled, rfl, rfl⟩

theorem exponentPart_ok {e : Option (Bool × Bytes)} (h : exponentPart atEnd b = .ok (e, q)) :
    ∃ p, SpellsExponent p e ∧ b = p ++ q := by
  cases b with
  | nil =>
    cases h
    exact ⟨[], rfl, rfl⟩
  | cons mark r =>
    rw [exponentPart.eq_def] at h
    simp only at h
    split at h
    · rename_i found
      have marked : mark = 101 ∨ mark = 69 := by simpa using found
      split at h
      · obtain ⟨ds, spelled, rfl, rfl⟩ := digitsAs_ok h
        exact ⟨mark :: 43 :: ds, ⟨spelled, mark, marked, .inl ⟨rfl, rfl⟩⟩, rfl⟩
      · obtain ⟨ds, spelled, rfl, rfl⟩ := digitsAs_ok h
        exact ⟨mark :: 45 :: ds, ⟨spelled, mark, marked, .inr (.inl ⟨rfl, rfl⟩)⟩, rfl⟩
      · obtain ⟨ds, spelled, rfl, rfl⟩ := digitsAs_ok h
        exact ⟨mark :: ds, ⟨spelled, mark, marked, .inr (.inr ⟨rfl, rfl⟩)⟩, rfl⟩
    · cases h
      exact ⟨[], rfl, rfl⟩

theorem unsigned_ok {negative : Bool} {n : Numeral} (h : unsigned atEnd negative b = .ok (n, q)) :
    n.negative = negative ∧ ∃ p, SpellsUnsigned p n ∧ b = p ++ q := by
  unfold unsigned at h
  cases first : wholeDigits atEnd b with
  | error e =>
    rw [Reader.bind_error first] at h
    cases h
  | ok answer =>
    obtain ⟨ds, b₁⟩ := answer
    rw [Reader.bind_ok first] at h
    cases second : fractionPart atEnd b₁ with
    | error e =>
      rw [Reader.bind_error second] at h
      cases h
    | ok answer =>
      obtain ⟨fraction, b₂⟩ := answer
      rw [Reader.bind_ok second] at h
      cases third : exponentPart atEnd b₂ with
      | error e =>
        rw [Reader.bind_error third] at h
        cases h
      | ok answer =>
        obtain ⟨exponent, b₃⟩ := answer
        rw [Reader.bind_ok third] at h
        cases h
        obtain ⟨whole, leading, rfl⟩ := wholeDigits_ok first
        obtain ⟨f, spelled, rfl⟩ := fractionPart_ok second
        obtain ⟨e, spelled', rfl⟩ := exponentPart_ok third
        exact ⟨rfl, ds ++ (f ++ e), ⟨whole, leading, f, e, rfl, spelled, spelled'⟩, by simp⟩

theorem scan_ok {n : Numeral} (h : scan atEnd b = .ok (n, q)) : ∃ p, Spells p n ∧ b = p ++ q := by
  unfold scan at h
  split at h
  · obtain ⟨sign, p, spelled, rfl⟩ := unsigned_ok h
    exact ⟨45 :: p, ⟨p, spelled, by rw [sign, if_pos rfl]⟩, rfl⟩
  · obtain ⟨sign, p, spelled, rfl⟩ := unsigned_ok h
    exact ⟨p, ⟨p, spelled, by rw [sign]; rfl⟩, rfl⟩

end Taken

def isFirst (b : UInt8) : Bool := b = 45 || isDigit b

theorem isFirst_head {p : Bytes} {n : Numeral} (spelled : Spells p n) :
    ∃ b r, p = b :: r ∧ isFirst b = true := by
  obtain ⟨q, ⟨whole, _, f, e, rfl, _⟩, rfl⟩ := spelled
  cases n.negative with
  | true => exact ⟨45, _, rfl, rfl⟩
  | false =>
    obtain ⟨d, r, first⟩ := List.exists_cons_of_ne_nil whole.some_
    have digit := whole.all d (first ▸ List.mem_cons_self)
    exact ⟨d, r ++ (f ++ e), by rw [first]; rfl, by simp [isFirst, digit]⟩

theorem opening_of_isFirst {b : UInt8} (h : isFirst b = true) : Opening b := by
  have low : 45 ≤ b.toNat ∧ b.toNat ≤ 57 := by
    simp only [isFirst, isDigit, Bool.or_eq_true, Bool.and_eq_true, decide_eq_true_eq,
      UInt8.le_iff_toNat_le] at h
    rcases h with rfl | ⟨low, high⟩
    · decide
    · exact ⟨Nat.le_trans (by decide) low, high⟩
  refine ⟨?_, ?_⟩
  · simp only [Reader.isBlank, Bool.or_eq_false_iff, beq_eq_false_iff_ne, ne_eq,
      ← UInt8.toNat_inj, UInt8.reduceToNat]
    omega
  · rintro rfl
    exact absurd low.2 (by decide)

theorem tree?_ne_null {n : Numeral} {t : Tree} (value : n.tree? = some t) : t ≠ .null := by
  rintro rfl
  unfold tree? at value
  split at value
  · cases value
  · obtain ⟨x, _, same⟩ := Option.map_eq_some_iff.mp value
    cases same

theorem areDigits_ofNat (n : Nat) : AreDigits (Digits.ofNat n) where
  some_ := Digits.ofNat_ne_nil n
  all b hb := by
    have bounds := Digits.bounds_of_mem hb
    simpa [isDigit, UInt8.le_iff_toNat_le] using bounds

theorem ofNat_of_head? {n : Nat} (first : (Digits.ofNat n).head? = some 48) :
    Digits.ofNat n = [48] := by
  rcases Nat.eq_zero_or_pos n with rfl | pos
  · exact Digits.ofNat_zero
  · obtain ⟨b, r, eq, notZero⟩ := Digits.head_ne_zero pos
    rw [eq, List.head?_cons, Option.some.injEq] at first
    exact absurd first notZero

def ofInt (i : Int) : Numeral := ⟨decide (i < 0), Digits.ofNat i.natAbs, none, none⟩

theorem spells_ofInt (i : Int) : Spells (Utf8.encode (renderInteger i)) (ofInt i) := by
  refine ⟨Digits.ofNat i.natAbs, ⟨areDigits_ofNat _, ofNat_of_head?, [], [], ?_, rfl, rfl⟩, ?_⟩
  · simp [ofInt]
  · by_cases negative : i < 0
    · simp [renderInteger, ofInt, negative, Digits.ofNat]
      rfl
    · simp [renderInteger, ofInt, negative, Digits.ofNat]

theorem tree?_ofInt (i : Integer) : (ofInt i.val).tree? = some (.integer i) := by
  obtain ⟨i, lower, upper⟩ := i
  have value : number (Digits.ofNat i.natAbs) = i.natAbs := Digits.value_ofNat _
  have integer : (ofInt i).integer? = some ⟨i, lower, upper⟩ := by
    simp only [integer?, ofInt, value]
    by_cases negative : i < 0
    · have notZero : (i.natAbs == 0) = false := beq_eq_false_iff_ne.mpr (by omega)
      have same : -(i.natAbs : Int) = i := by omega
      simp only [negative, decide_true, notZero, Bool.and_false, Bool.false_eq_true, if_false,
        if_true, same, Integer.ofInt?, lower, upper, and_self, dif_pos]
    · have same : (i.natAbs : Int) = i := by omega
      simp only [negative, decide_false, Bool.false_and, Bool.false_eq_true, if_false, same,
        Integer.ofInt?, lower, upper, and_self, dif_pos]
  rw [tree?, integer]

end Numeral

namespace Reader

theorem numeral_reads {p : Bytes} {n : Numeral} {t : Tree} (spelled : Numeral.Spells p n)
    (value : n.tree? = some t) : Reads numeral p t := by
  intro rest delimited
  rw [numeral, bind_ok (Numeral.scan_append spelled (Numeral.halts_of_delimited delimited)), value]
  rfl

theorem numeral_scan {b q : Bytes} {t : Tree} (h : numeral b = .ok (t, q)) :
    ∃ n, Numeral.scan .endOfText b = .ok (n, q) ∧ n.tree? = some t := by
  cases scanned : Numeral.scan .endOfText b with
  | error e =>
    rw [numeral, bind_error scanned] at h
    cases h
  | ok answer =>
    rw [numeral, bind_ok scanned] at h
    cases value : answer.1.tree? with
    | none =>
      rw [value] at h
      cases h
    | some x =>
      rw [value] at h
      cases h
      exact ⟨answer.1, rfl, value⟩

theorem numeral_ok {b q : Bytes} {t : Tree} (h : numeral b = .ok (t, q)) :
    ∃ p n, Numeral.Spells p n ∧ n.tree? = some t ∧ b = p ++ q := by
  obtain ⟨n, scanned, value⟩ := numeral_scan h
  obtain ⟨p, spelled, all⟩ := Numeral.scan_ok scanned
  exact ⟨p, n, spelled, value, all⟩

end Reader

end HalBench.Json
