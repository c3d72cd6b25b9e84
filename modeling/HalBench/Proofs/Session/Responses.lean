import HalBench.Proofs.Json.Values
import HalBench.Session.Response

/-! A response is decoded from its own text: with any strings and payloads, and with the times of a
measurement as long as each of them is read back from its digits. -/

namespace HalBench

open Json

structure Measurement.Summary.Faithful (s : Summary) : Prop where
  sum : (Schema.float .double).decode (Utf8.encode (renderFloat .double s.sum)) = .ok s.sum
  least : (Schema.float .double).decode (Utf8.encode (renderFloat .double s.least)) = .ok s.least
  greatest : (Schema.float .double).decode (Utf8.encode (renderFloat .double s.greatest)) =
    .ok s.greatest

theorem Measurement.Summary.Faithful.legible {s : Summary} (h : s.Faithful) :
    Summary.codec.schema.Legible (Summary.codec.pack s) :=
  ⟨trivial, legible_of_decode h.sum, legible_of_decode h.least, legible_of_decode h.greatest,
    trivial⟩

namespace Session

/-- The times of a measurement are read back; other payloads have none. -/
def Payload.Faithful : Payload → Prop
  | measurements s => ∀ m ∈ s.calls.entries, m.2.Faithful
  | _ => True

theorem Payload.sound_codec : Payload.codec.schema.Sound := by
  have summaries : Measurement.Summary.codec.schema.Sound := by
    refine ⟨trivial, ?_, trivial, ?_, trivial, ?_, trivial, ?_, trivial⟩
    all_goals decide
  refine ⟨⟨trivial, ?_, trivial, ?_, trivial, ?_, trivial, ?_, trivial⟩, ?_, ?_,
    ⟨trivial, ?_, trivial⟩, ?_, ?_, ⟨trivial, ?_, trivial⟩, ?_, ?_, ⟨trivial, ?_, trivial⟩, ?_, ?_,
    ⟨trivial, ?_, trivial⟩, ?_, ?_, ⟨trivial, ?_, trivial, ?_, trivial, ?_, trivial⟩, ?_, ?_,
    ⟨trivial, ?_, trivial, ?_, summaries, ?_, trivial⟩, ?_, ?_, trivial⟩
  all_goals decide

theorem Payload.legible {p : Payload} (h : p.Faithful) :
    Payload.codec.schema.Legible (Payload.codec.pack p) := by
  cases p with
  | capability c => exact ⟨trivial, trivial, trivial, fun _ _ => trivial, trivial⟩
  | services names => exact ⟨fun _ _ => trivial, trivial⟩
  | driver id => exact ⟨trivial, trivial⟩
  | functions names => exact ⟨fun _ _ => trivial, trivial⟩
  | result text => exact ⟨trivial, trivial⟩
  | shell o => exact ⟨fun _ _ => trivial, fun _ _ => trivial, fun _ _ => trivial, trivial⟩
  | measurements s =>
    refine ⟨trivial, trivial, fun m hm => ?_, trivial⟩
    obtain ⟨n, hn, rfl⟩ := List.mem_map.mp hm
    exact (h n hn).legible

theorem Payload.holds (P : Tree → Prop) (p : Payload) :
    Payload.codec.schema.Holds P (Payload.codec.pack p) := by
  cases p with
  | capability c => exact ⟨trivial, trivial, trivial, fun _ _ => trivial, trivial⟩
  | services names => exact ⟨fun _ _ => trivial, trivial⟩
  | driver id => exact ⟨trivial, trivial⟩
  | functions names => exact ⟨fun _ _ => trivial, trivial⟩
  | result text => exact ⟨trivial, trivial⟩
  | shell o => exact ⟨fun _ _ => trivial, fun _ _ => trivial, fun _ _ => trivial, trivial⟩
  | measurements s =>
    exact ⟨trivial, trivial, fun _ _ => ⟨trivial, trivial, trivial, trivial, trivial⟩, trivial⟩

namespace Response

theorem packOptional_mem {α β : Type} {pack : α → β} {x : Option α} {y : Option β} {z : β}
    (hy : y ∈ packOptional pack x) (hz : z ∈ y) : ∃ a ∈ x, pack a = z := by
  obtain ⟨a, ha, rfl⟩ := Option.map_eq_some_iff.mp hy
  exact ⟨a, ha, Option.some.inj hz⟩

theorem sound_codec : codec.schema.Sound := by
  have codes : ["success", "fail"].Nodup := by decide
  refine ⟨codes, ?_, ⟨trivial, trivial⟩, ?_, ⟨Payload.sound_codec, trivial⟩, ?_, trivial⟩
  all_goals decide

theorem legible {r : Response} (faithful : ∀ p ∈ r.payload, p.Faithful) :
    codec.schema.Legible (codec.pack r) := by
  refine ⟨trivial, fun _ _ _ _ => trivial, fun y hy z hz => ?_, trivial⟩
  obtain ⟨p, hp, rfl⟩ := packOptional_mem hy hz
  exact Payload.legible (faithful p hp)

theorem within (r : Response) : Tree.Within maxDepth (codec.toTree r) := by
  have holds : codec.schema.Holds (Tree.Within 0) (codec.pack r) := by
    refine ⟨trivial, fun _ _ _ _ => trivial, fun y hy z hz => ?_, trivial⟩
    obtain ⟨p, -, rfl⟩ := packOptional_mem hy hz
    exact p.holds _
  exact (Schema.within_write _ _ holds).mono (by decide)

/-- A response of any kind is decoded from its own text, if the times in it are. -/
theorem encode_decodes {r : Response} (faithful : ∀ p ∈ r.payload, p.Faithful) :
    decode r.encode = .ok r :=
  Codec.decode_encode sound_codec (legible faithful) r.within

/-- What was measured, with names that are escaped and a time of one and a half milliseconds. -/
def measured : Response :=
  { code := .failure
    reason := some "null"
    payload := some (.measurements ⟨true, 18446744073709551615,
      Index.empty.insert "type\"\n" ⟨2, .finite false 6755399441055744 (-52), .zero .double true,
        .finite false 6755399441055744 (-52)⟩⟩) }

theorem encode_decodes_measured : (∀ p ∈ measured.payload, p.Faithful) ∧
    decode measured.encode = .ok measured := by
  have faithful : ∀ p ∈ measured.payload, p.Faithful := by
    rintro p ⟨⟩
    exact List.forall_mem_cons.mpr ⟨⟨rfl, rfl, rfl⟩, nofun⟩
  exact ⟨faithful, encode_decodes faithful⟩

end Response

end Session

end HalBench
