import HalBench.Proofs.Driver.Table
import HalBench.Proofs.Json.RoundTrip
import HalBench.Proofs.Number.Decimal
import HalBench.Proofs.Number.Rounding
import HalBench.Proofs.Service.Name
import HalBench.Trace.Replay

/-! A version that is written with one digit after the point is read as the nearest double and then
as the nearest number of single precision, and below 2 ^ 20 it is written in the same way again. So
a record tells of the service whose version its text has. -/

namespace HalBench.Json.Numeral

def ofTenths (whole : Nat) (digit : Nat) : Numeral :=
  ⟨false, Digits.ofNat whole, some (Digits.ofNat digit), none⟩

theorem spells_ofTenths (whole digit : Nat) :
    Spells (Digits.ofNat whole ++ 46 :: Digits.ofNat digit) (ofTenths whole digit) := by
  have parts : Digits.ofNat whole ++ 46 :: Digits.ofNat digit =
      Digits.ofNat whole ++ (46 :: Digits.ofNat digit ++ []) := by rw [List.append_nil]
  have fraction : SpellsFraction (46 :: Digits.ofNat digit) (some (Digits.ofNat digit)) :=
    ⟨rfl, areDigits_ofNat digit⟩
  exact ⟨_, ⟨areDigits_ofNat whole, ofNat_of_head?, _, [], parts, fraction, rfl⟩, rfl⟩

theorem spells_unique {p : Bytes} {n n' : Numeral} (h : Spells p n) (h' : Spells p n') :
    n = n' := by
  have scanned : scan .endOfText (p ++ []) = .ok (n, []) :=
    scan_append h (halts_of_delimited delimited_nil)
  rw [scan_append h' (halts_of_delimited delimited_nil)] at scanned
  cases scanned
  rfl

theorem absorb_fits (ds : Bytes) (s : Nat)
    (fits : ds.foldl (fun n b => 10 * n + (b.toNat - 48)) s ≤ maxSignificand) :
    absorb s ds = (ds.foldl (fun n b => 10 * n + (b.toNat - 48)) s, []) := by
  have grows (ds : Bytes) (s : Nat) : s ≤ ds.foldl (fun n b => 10 * n + (b.toNat - 48)) s := by
    induction ds generalizing s with
    | nil => exact Nat.le_refl s
    | cons b r ih => exact Nat.le_trans (show s ≤ 10 * s + (b.toNat - 48) by omega) (ih _)
  induction ds generalizing s with
  | nil => rfl
  | cons b r ih =>
    rw [List.foldl_cons] at fits ⊢
    have next : s * 10 + (b.toNat - 48) = 10 * s + (b.toNat - 48) := by omega
    rw [absorb]
    simp only [next]
    rw [if_pos (Nat.le_trans (grows r _) fits)]
    exact ih _ fits

theorem ofNat_digit {d : Nat} (small : d < 10) :
    ∃ b : UInt8, Digits.ofNat d = [b] ∧ b.toNat - 48 = d := by
  have length := Digits.length_ofNat_le Nat.one_pos (show d < tenTo 1 from small)
  obtain ⟨b, r, eq⟩ := List.exists_cons_of_ne_nil (Digits.ofNat_ne_nil d)
  rw [eq, List.length_cons] at length
  obtain rfl : r = [] := List.length_eq_zero_iff.mp (by omega)
  have value := Digits.value_ofNat d
  rw [eq] at value
  exact ⟨b, eq, by simpa [Digits.value] using value⟩

theorem tree?_ofTenths {m d : Nat} (few : 10 * m + d ≤ maxSignificand) (digit : d < 10) :
    (ofTenths m d).tree? = some (.float .double
      ((Binary.ofNat .double (10 * m + d)).div .double (Binary.ofNat .double 10))) := by
  obtain ⟨b, eq, value⟩ := ofNat_digit digit
  have whole : absorb 0 (Digits.ofNat m) = (m, []) := by
    have fold : (Digits.ofNat m).foldl (fun n b => 10 * n + (b.toNat - 48)) 0 = m :=
      Digits.value_ofNat m
    have all := absorb_fits (Digits.ofNat m) 0 (by rw [fold]; omega)
    rwa [fold] at all
  have last : absorb m [b] = (10 * m + d, []) := by
    have all := absorb_fits [b] m
    rw [List.foldl_cons, List.foldl_nil, value] at all
    exact all few
  have magnitude : (ofTenths m d).magnitude =
      some ((Binary.ofNat .double (10 * m + d)).div .double (Binary.ofNat .double 10)) := by
    simp only [Numeral.magnitude, ofTenths, whole, Option.getD_some, eq, last]
    rfl
  rw [tree?, magnitude]
  rfl

end HalBench.Json.Numeral

namespace HalBench.Json

open Reader

section Slot
variable {α σ : Type} {name key : String} {read : Nat → Reader α}
  {member : Nat → String → σ → Reader σ} {d : Nat} {slots slots' : Option α × σ}
  {input rest : Bytes}

theorem readSlot_here (h : readSlot name read member d name slots input = .ok (slots', rest)) :
    slots.1 = none ∧ ∃ value x, colon input = .ok ((), value) ∧ read d value = .ok (x, rest) ∧
      slots' = (some x, slots.2) := by
  rw [readSlot, if_pos rfl] at h
  split at h
  · cases h
  next free =>
    obtain ⟨⟨⟨⟩, value⟩, marked, further⟩ := ok_of_bind h
    obtain ⟨⟨x, after⟩, found, done⟩ := ok_of_bind further
    cases done
    exact ⟨Option.not_isSome_iff_eq_none.mp free, value, x, marked, found, rfl⟩

theorem readSlot_later (other : key ≠ name)
    (h : readSlot name read member d key slots input = .ok (slots', rest)) :
    ∃ others, member d key slots.2 input = .ok (others, rest) ∧ slots' = (slots.1, others) := by
  rw [readSlot, if_neg other] at h
  obtain ⟨⟨others, after⟩, passed, done⟩ := ok_of_bind h
  cases done
  exact ⟨others, passed, rfl⟩

end Slot

section Record
variable {name : String} {schema : Schema} {more : Fields} {d : Nat} {text input rest : Bytes}

theorem Fields.finish_required {slots : (Fields.required name schema more).Slots}
    {x : (Fields.required name schema more).Carrier}
    (h : (Fields.required name schema more).finish slots = .ok x) :
    slots.1 = some x.1 ∧ more.finish slots.2 = .ok x.2 := by
  obtain ⟨slot, slots⟩ := slots
  cases slot with
  | none => cases h
  | some y =>
    obtain ⟨z, finished, rfl⟩ := ok_of_map h
    exact ⟨rfl, finished⟩

theorem Fields.readItems_required {first : Bool}
    {x : (Fields.required name schema more).Carrier}
    (h : (Fields.required name schema more).readItems d first input = .ok (x, rest)) :
    ∃ item after, nextItem first input = .ok (true, item) ∧
      schema.read d item = .ok (x.1, after) ∧ more.readItems d false after = .ok (x.2, rest) := by
  obtain ⟨⟨more?, item⟩, has, further⟩ := ok_of_bind h
  cases more? with
  | false => cases further
  | true =>
    obtain ⟨⟨y, after⟩, read, others⟩ := ok_of_bind further
    obtain ⟨⟨z, last⟩, reads, done⟩ := ok_of_bind others
    cases done
    exact ⟨item, after, has, read, reads⟩

theorem Schema.read_of_decode {x : schema.Carrier} (h : schema.decode text = .ok x) :
    ∃ rest, schema.read maxDepth text = .ok (x, rest) := by
  unfold Schema.decode whole at h
  split at h
  · cases h
  next read =>
    split at h
    · cases h
      exact ⟨_, read⟩
    · cases h

theorem ok_of_require {α : Type} {answer : Except Fault α} {x : α}
    (h : require answer input = .ok (x, rest)) : answer = .ok x := by
  cases answer with
  | error e => cases h
  | ok y =>
    cases h
    rfl

/-- A record is read off the members of an object or off the items of an array. -/
theorem Schema.read_record {fs : Fields} {x : fs.Carrier}
    (h : (Schema.record fs).read maxDepth text = .ok (x, rest)) :
    (∃ input slots behind, skipBlank text = 123 :: input ∧
      members Reader.string (fs.readMember (maxDepth - 1)) fs.empty input = .ok (slots, behind) ∧
      fs.finish slots = .ok x) ∨
    ∃ input behind, skipBlank text = 91 :: input ∧
      fs.readItems (maxDepth - 1) true input = .ok (x, behind) := by
  have peeked : peek text = .ok ((skipBlank text).head?, skipBlank text) := rfl
  rw [Schema.read, bind_ok peeked] at h
  generalize head : (skipBlank text).head? = first at h
  split at h
  · obtain ⟨input, opened⟩ := List.head?_eq_some_iff.mp head
    rw [opened] at h
    have run : (do
        let slots ← members Reader.string (fs.readMember (maxDepth - 1)) fs.empty
        let y ← require (fs.finish slots)
        closeMembers
        return y : Json.Reader fs.Carrier) input = .ok (x, rest) := h
    obtain ⟨⟨slots, behind⟩, read, further⟩ := ok_of_bind run
    obtain ⟨⟨y, after⟩, required, closed⟩ := ok_of_bind further
    obtain ⟨⟨⟨⟩, last⟩, -, done⟩ := ok_of_bind closed
    cases done
    exact .inl ⟨input, slots, behind, opened, read, ok_of_require required⟩
  · obtain ⟨input, opened⟩ := List.head?_eq_some_iff.mp head
    rw [opened] at h
    have run : (do
        let y ← fs.readItems (maxDepth - 1) true
        closeItems
        return y : Json.Reader fs.Carrier) input = .ok (x, rest) := h
    obtain ⟨⟨y, behind⟩, read, closed⟩ := ok_of_bind run
    obtain ⟨⟨⟨⟩, last⟩, -, done⟩ := ok_of_bind closed
    cases done
    exact .inr ⟨input, behind, opened, read⟩
  · exact absurd h (unexpected_ne_ok _ _)

end Record

end HalBench.Json

namespace HalBench.Trace.Record

open Json Json.Reader

abbrev fields : Fields :=
  .required "event" Event.codec.schema <| .required "package" .text <|
    .required "version" (.float .single) <| .required "interface" .text <|
    .required "func_msg" Service.Message.codec.schema <|
    .optional "timestamp" (.word .signed64) .done

def versionOf (s : fields.Slots) : Option Binary := s.2.2.1

/-- Reading the members of an object comes to the value of the version. -/
inductive MeetsVersion (d : Nat) : Bool → fields.Slots → Bytes → Bytes → Prop
  | here {first : Bool} {s : fields.Slots} {input key mark value : Bytes}
      (opened : nextMember first input = .ok (true, key))
      (named : Reader.string key = .ok ("version", mark)) (marked : colon mark = .ok ((), value)) :
      MeetsVersion d first s input value
  | later {first : Bool} {s s' : fields.Slots} {input key mark rest value : Bytes} {name : String}
      (opened : nextMember first input = .ok (true, key))
      (named : Reader.string key = .ok (name, mark)) (other : name ≠ "version")
      (passed : fields.readMember d name s mark = .ok (s', rest))
      (further : MeetsVersion d false s' rest value) : MeetsVersion d first s input value

variable {d : Nat} {s s' : fields.Slots} {input rest value value' : Bytes} {name : String}

theorem readMember_version (h : fields.readMember d "version" s input = .ok (s', rest)) :
    versionOf s = none ∧ ∃ value x, colon input = .ok ((), value) ∧
      numberValue (Tree.asFloat .single) value = .ok (x, rest) ∧ versionOf s' = some x := by
  obtain ⟨afterEvent, inner, rfl⟩ := readSlot_later (by decide) h
  obtain ⟨afterPackage, innermost, rfl⟩ := readSlot_later (by decide) inner
  obtain ⟨free, value, x, marked, found, rfl⟩ := readSlot_here innermost
  exact ⟨free, value, x, marked, found, rfl⟩

theorem readMember_other (other : name ≠ "version")
    (h : fields.readMember d name s input = .ok (s', rest)) : versionOf s' = versionOf s := by
  by_cases event : name = "event"
  · subst event
    obtain ⟨-, -, -, -, -, rfl⟩ := readSlot_here h
    rfl
  obtain ⟨afterEvent, inner, rfl⟩ := readSlot_later event h
  by_cases package : name = "package"
  · subst package
    obtain ⟨-, -, -, -, -, rfl⟩ := readSlot_here inner
    rfl
  obtain ⟨afterPackage, innermost, rfl⟩ := readSlot_later package inner
  obtain ⟨-, -, rfl⟩ := readSlot_later other innermost
  rfl

/-- The slot of the version is filled once, from the value that reading comes to. -/
theorem membersLoop_version {fuel : Nat} {first : Bool} {x : Binary}
    (h : membersLoop Reader.string (fields.readMember d) fuel first s input = .ok (s', rest))
    (found : versionOf s' = some x) :
    versionOf s = some x ∨ versionOf s = none ∧ ∃ value rest',
      MeetsVersion d first s input value ∧
        numberValue (Tree.asFloat .single) value = .ok (x, rest') := by
  induction fuel generalizing first s input with
  | zero => cases h
  | succ fuel ih =>
    rw [membersLoop] at h
    obtain ⟨⟨more, key⟩, opened, member⟩ := ok_of_bind h
    cases more with
    | false =>
      cases member
      exact .inl found
    | true =>
      obtain ⟨⟨name, mark⟩, named, value⟩ := ok_of_bind member
      obtain ⟨⟨s₁, behind⟩, passed, further⟩ := ok_of_bind value
      by_cases version : name = "version"
      · subst version
        obtain ⟨free, value, y, marked, read, now⟩ := readMember_version passed
        refine .inr ⟨free, value, behind, .here opened named marked, ?_⟩
        rcases ih further with kept | ⟨none, -⟩
        · rw [now] at kept
          cases kept
          exact read
        · rw [now] at none
          cases none
      · rw [← readMember_other version passed]
        refine (ih further).imp_right ?_
        rintro ⟨free, value, rest', meets, read⟩
        exact ⟨free, value, rest', .later opened named version passed meets, read⟩

theorem MeetsVersion.unique {first : Bool} (h : MeetsVersion d first s input value)
    (h' : MeetsVersion d first s input value') : value = value' := by
  induction h with
  | here opened named marked =>
    cases h' with
    | here opened' named' marked' =>
      cases opened.symm.trans opened'
      cases named.symm.trans named'
      cases marked.symm.trans marked'
      rfl
    | later opened' named' other =>
      cases opened.symm.trans opened'
      cases named.symm.trans named'
      exact absurd rfl other
  | later opened named other passed _ ih =>
    cases h' with
    | here opened' named' _ =>
      cases opened.symm.trans opened'
      cases named.symm.trans named'
      exact absurd rfl other
    | later opened' named' _ passed' further' =>
      cases opened.symm.trans opened'
      cases named.symm.trans named'
      cases passed.symm.trans passed'
      exact ih further'

/-- Reading a record comes to the value of its version: a member of an object, or the third item
of an array. -/
inductive VersionAt (text value : Bytes) : Prop where
  | member {input : Bytes} (opened : skipBlank text = 123 :: input)
      (meets : MeetsVersion (maxDepth - 1) true fields.empty input value)
  | item {input first afterFirst second afterSecond : Bytes} {package : String}
      {event : Event.codec.schema.Carrier} (opened : skipBlank text = 91 :: input)
      (hasFirst : nextItem true input = .ok (true, first))
      (readFirst : Event.codec.schema.read (maxDepth - 1) first = .ok (event, afterFirst))
      (hasSecond : nextItem false afterFirst = .ok (true, second))
      (readSecond : textValue second = .ok (package, afterSecond))
      (hasThird : nextItem false afterSecond = .ok (true, value))

variable {text : Bytes} {r : Record}

theorem VersionAt.unique (h : VersionAt text value) (h' : VersionAt text value') :
    value = value' := by
  cases h with
  | member opened meets =>
    cases h' with
    | member opened' meets' =>
      cases opened.symm.trans opened'
      exact meets.unique meets'
    | item opened' => cases opened.symm.trans opened'
  | item opened hasFirst readFirst hasSecond readSecond hasThird =>
    cases h' with
    | member opened' => cases opened.symm.trans opened'
    | item opened' hasFirst' readFirst' hasSecond' readSecond' hasThird' =>
      cases opened.symm.trans opened'
      cases hasFirst.symm.trans hasFirst'
      cases readFirst.symm.trans readFirst'
      cases hasSecond.symm.trans hasSecond'
      cases readSecond.symm.trans readSecond'
      cases hasThird.symm.trans hasThird'
      rfl

theorem versionOf_finish {x : fields.Carrier} (h : fields.finish s = .ok x) :
    versionOf s = some x.2.2.1 := by
  obtain ⟨-, others⟩ := Fields.finish_required h
  obtain ⟨-, others'⟩ := Fields.finish_required others
  exact (Fields.finish_required others').1

theorem version_read (h : codec.decode text = .ok r) :
    ∃ value rest, VersionAt text value ∧
      numberValue (Tree.asFloat .single) value = .ok (r.version, rest) := by
  obtain ⟨x, decoded, rfl⟩ := ok_of_map h
  have run : ∃ rest, (Schema.record fields).read maxDepth text = .ok (x, rest) :=
    Schema.read_of_decode decoded
  obtain ⟨rest, run⟩ := run
  rcases Schema.read_record run with object | array
  · obtain ⟨input, slots, behind, opened, read, finished⟩ := object
    rcases membersLoop_version read (versionOf_finish finished) with already | found
    · cases already
    · obtain ⟨-, value, rest', meets, read⟩ := found
      exact ⟨value, rest', .member opened meets, read⟩
  · obtain ⟨input, behind, opened, read⟩ := array
    obtain ⟨first, afterFirst, hasFirst, readFirst, others⟩ := Fields.readItems_required read
    obtain ⟨second, afterSecond, hasSecond, readSecond, others'⟩ := Fields.readItems_required others
    obtain ⟨value, behind, hasThird, read, -⟩ := Fields.readItems_required others'
    exact ⟨value, behind, .item opened hasFirst readFirst hasSecond readSecond hasThird, read⟩

/-- The version of a record is spelled by some bytes of its text. -/
def VersionLiteral (text p : Bytes) : Prop :=
  ∃ value rest n, VersionAt text value ∧ skipBlank value = p ++ rest ∧
    Numeral.scan .endOfText (p ++ rest) = .ok (n, rest)

theorem VersionLiteral.unique {p p' : Bytes} (h : VersionLiteral text p)
    (h' : VersionLiteral text p') : p = p' := by
  obtain ⟨value, rest, n, place, spelled, scanned⟩ := h
  obtain ⟨value', rest', n', place', spelled', scanned'⟩ := h'
  obtain rfl := place.unique place'
  rw [← spelled] at scanned
  rw [← spelled', scanned] at scanned'
  cases scanned'
  exact List.append_cancel_right (spelled.symm.trans spelled')

theorem exists_versionLiteral (h : codec.decode text = .ok r) : ∃ p, VersionLiteral text p := by
  obtain ⟨value, rest, place, read⟩ := version_read h
  obtain ⟨t, number, -⟩ := numberValue_ok read
  obtain ⟨n, scanned, -⟩ := numeral_scan number
  obtain ⟨p, -, all⟩ := Numeral.scan_ok scanned
  exact ⟨p, value, rest, n, place, all, all ▸ scanned⟩

theorem version_of_literal {p : Bytes} {n : Numeral} (h : codec.decode text = .ok r)
    (literal : VersionLiteral text p) (spelled : Numeral.Spells p n) :
    ∃ t, n.tree? = some t ∧ t.asFloat .single = .ok r.version := by
  obtain ⟨value, rest, n', place, whole, scanned⟩ := literal
  obtain ⟨value', rest', place', read⟩ := version_read h
  obtain rfl := place.unique place'
  obtain ⟨t, number, checked⟩ := numberValue_ok read
  obtain ⟨m, scanned', denotes⟩ := numeral_scan number
  rw [whole, scanned] at scanned'
  cases scanned'
  obtain ⟨q, spelled', same⟩ := Numeral.scan_ok scanned
  obtain rfl := List.append_cancel_right same
  rw [Numeral.spells_unique spelled spelled']
  exact ⟨t, denotes, checked⟩

def dotted (major minor : Nat) : String := toString major ++ "." ++ toString minor

theorem toList_dotted (major minor : Nat) :
    (dotted major minor).toList = Nat.toDigits 10 major ++ '.' :: Nat.toDigits 10 minor := by
  rw [dotted, String.toList_append, String.toList_append, Digits.toList_toString,
    Digits.toList_toString, List.append_assoc]
  rfl

theorem bytes_dotted (major minor : Nat) : Utf8.bytes (dotted major minor) =
    Digits.ofNat major ++ 46 :: Digits.ofNat minor := by
  rw [Utf8.bytes, toList_dotted, Utf8.encode_append]
  rfl

theorem dotted_injective {major minor major' minor' : Nat}
    (h : dotted major minor = dotted major' minor') : major = major' ∧ minor = minor' := by
  have point (n : Nat) : '.' ∉ Nat.toDigits 10 n := Digits.not_mem_toDigits (by decide) n
  have text := congrArg String.toList h
  rw [toList_dotted, toList_dotted] at text
  obtain ⟨first, second⟩ := Text.append_mark_inj [] (point major) (point major') text
  exact ⟨Digits.toDigits_injective first, Digits.toDigits_injective second⟩

/-- A record that was decoded from a text in which its version has one digit after the point. -/
structure Dotted (text : Bytes) (r : Record) (major minor : Nat) : Prop where
  decoded : codec.decode text = .ok r
  literal : VersionLiteral text (Utf8.bytes (dotted major minor))
  small : major < 2 ^ 20
  digit : minor < 10

namespace Dotted

variable {text' : Bytes} {r' : Record} {major minor major' minor' : Nat}

theorem versionText_eq (h : Dotted text r major minor) : r.versionText = dotted major minor := by
  obtain ⟨decoded, literal, small, digit⟩ := h
  rw [bytes_dotted] at literal
  obtain ⟨t, denotes, checked⟩ :=
    version_of_literal decoded literal (Numeral.spells_ofTenths major minor)
  have few : 10 * major + minor < 10 * 2 ^ 20 := by omega
  rw [Numeral.tree?_ofTenths (few.le.trans (by decide)) digit] at denotes
  cases denotes
  have version := Except.ok.inj checked
  rw [Record.versionText, Trace.versionText, ← version, Rounding.oneDecimal_tenths few]
  apply String.toList_injective
  rw [String.toList_ofList, toList_dotted]
  have whole : (10 * major + minor) / 10 = major := by omega
  have last : (10 * major + minor) % 10 = minor := by omega
  rw [whole, last]

theorem versionText_ne (h : Dotted text r major minor) (h' : Dotted text' r' major' minor')
    (other : (major, minor) ≠ (major', minor')) : r.versionText ≠ r'.versionText := by
  rw [h.versionText_eq, h'.versionText_eq]
  intro same
  obtain ⟨rfl, rfl⟩ := dotted_injective same
  exact other rfl

end Dotted

theorem colon_not_mem_versionText (r : Record) : ':' ∉ r.versionText.toList := by
  rw [Record.versionText, Trace.versionText, String.toList_ofList]
  exact Decimal.colon_not_mem_oneDecimal r.version

/-- Versions with one digit after the point, below 2 ^ 20, survive being decoded. -/
theorem versions_survive :
    (∀ text r, codec.decode text = .ok r → ∃! p, VersionLiteral text p) ∧
    (∀ text r major minor, Dotted text r major minor → r.versionText = dotted major minor) ∧
    (∀ text text' r r' major minor major' minor', Dotted text r major minor →
      Dotted text' r' major' minor' → (major, minor) ≠ (major', minor') →
        (r.package = r'.package ∨ '@' ∉ r.package.toList ∧ '@' ∉ r'.package.toList →
          r.qualifiedName ≠ r'.qualifiedName) ∧
        ∀ instances instances', targetOf instances r ≠ targetOf instances' r') ∧
    ∀ text r major minor, Dotted text r major minor →
      ∀ (δ ω : Type) [Driver.Model δ ω] (t : Driver.Table δ) (w : ω) (instances : Index String)
        (category : Service.Category) (driver : δ),
        let version := dotted major minor
        let name := Service.qualifiedName r.package version r.interface
        let key : Service.Key := ⟨r.package, version, r.interface,
          (instances.get? name).getD Service.Key.defaultInstance⟩
        let registered := t.register key category driver
        targetOf instances r = key ∧
          Registry.resolve (targetOf instances r) (registered.2, w) =
            (some registered.1, (registered.2, w)) := by
  refine ⟨?_, ?_, ?_, ?_⟩
  · intro text r decoded
    obtain ⟨p, literal⟩ := exists_versionLiteral decoded
    exact ⟨p, literal, fun p' literal' => literal'.unique literal⟩
  · intro text r major minor h
    exact h.versionText_eq
  · intro text text' r r' major minor major' minor' h h' other
    have versions := h.versionText_ne h' other
    refine ⟨?_, ?_⟩
    · intro packages same
      apply versions
      exact Service.version_of_qualifiedName same packages (colon_not_mem_versionText r)
        (colon_not_mem_versionText r')
    · intro instances instances' same
      exact versions (congrArg Service.Key.version same)
  · intro text r major minor h δ ω _ t w instances category driver version name key registered
    have target : targetOf instances r = key := by
      rw [targetOf, qualifiedName, h.versionText_eq]
    refine ⟨target, ?_⟩
    rw [target]
    exact congrArg (fun id => (id, (registered.2, w))) Driver.Table.resolve_register_self

def beginning (version after : Bytes) : Bytes :=
  123 :: 34 :: (escaped "version".toList ++ 34 :: 58 :: (version ++ after))

theorem literal_beginning {p after : Bytes} {n : Numeral} (spelled : Numeral.Spells p n)
    (stop : Numeral.Halts after) : VersionLiteral (beginning p after) p := by
  have meets :
      MeetsVersion (maxDepth - 1) true fields.empty (beginning p after).tail (p ++ after) :=
    .here (nextMember_first _) (string_escaped "version" _) (colon_colon _)
  refine ⟨p ++ after, after, n, .member rfl meets, ?_, Numeral.scan_append spelled stop⟩
  obtain ⟨b, r, rfl, first⟩ := Numeral.isFirst_head spelled
  exact List.dropWhile_cons_of_neg
    (by rw [(Numeral.opening_of_isFirst first).visible]; exact Bool.false_ne_true)

def greatest : Bytes :=
  beginning (Utf8.bytes (dotted 1048575 9)) <| Utf8.bytes <|
    ",\"event\": \"SERVER_API_ENTRY\", \"package\": \"p\", \"interface\": \"IFoo\", " ++
      "\"func_msg\": \x7b\"name\": \"f\"\x7d\x7d"

/-- The greatest of these versions in a record. -/
theorem versions_survive_greatest :
    ∃ r, Dotted greatest r 1048575 9 ∧ r.versionText = "1048575.9" := by
  obtain ⟨-, survives, -, -⟩ := versions_survive
  have literal : VersionLiteral greatest (Utf8.bytes (dotted 1048575 9)) := by
    apply literal_beginning (n := .ofTenths 1048575 9)
    · rw [bytes_dotted]
      exact Numeral.spells_ofTenths 1048575 9
    · exact fun b hb => by cases hb; decide
  have readable : (codec.decode greatest).isOk = true := by decide +kernel
  cases decoded : codec.decode greatest with
  | error e =>
    rw [decoded] at readable
    cases readable
  | ok r =>
    have spelled : Dotted greatest r 1048575 9 := ⟨decoded, literal, by decide, by decide⟩
    refine ⟨r, spelled, ?_⟩
    rw [survives greatest r 1048575 9 spelled]
    decide

end HalBench.Trace.Record
