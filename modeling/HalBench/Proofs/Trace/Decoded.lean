import HalBench.Proofs.Json.Depth
import HalBench.Proofs.Outcome
import HalBench.Proofs.Trace.RoundTrip

/-! A record that was decoded is decoded once more from its own text when its floats are. However
the record was spelled, its text is not nested deeper than a record may be: an empty list and a
timestamp that was left out add no level. -/

namespace HalBench.Trace

open Json

theorem shallow_message : Service.Message.codec.schema.Shallow :=
  shallow_record ⟨shallow_text, shallow_list shallow_value, shallow_list shallow_value, trivial⟩

theorem shallow_codec : Record.codec.schema.Shallow :=
  shallow_record ⟨shallow_choice _, shallow_text, shallow_float _, shallow_text, shallow_message,
    shallow_word _, trivial⟩

theorem mem_of_packValues {slot : Option (List Value)} {items : List Value}
    (h : items ∈ Service.Message.packValues (slot.getD [])) : items ∈ slot := by
  obtain rfl := Service.Message.packValues_mem h
  cases slot with
  | none => cases h
  | some values => rfl

variable {d : Nat} {payload : Bytes} {r : Record}

theorem within_unpackMessage {x : Service.Message.codec.schema.Carrier}
    (h : Tree.Within d (Service.Message.codec.schema.write x)) :
    Tree.Within d (Service.Message.codec.toTree (Service.Message.codec.unpack x)) := by
  obtain ⟨name, arguments, returns, ⟨⟩⟩ := x
  cases h with
  | object inner =>
    obtain ⟨here, inner⟩ := Fields.of_all_required inner
    obtain ⟨arguments, inner⟩ := Fields.of_all_optional inner
    obtain ⟨returns, inner⟩ := Fields.of_all_optional inner
    apply Tree.Within.object
    refine Fields.all_required here (Fields.all_optional ?_ (Fields.all_optional ?_ inner))
    · exact fun items h => arguments items (mem_of_packValues h)
    · exact fun items h => returns items (mem_of_packValues h)

theorem within_unpack {x : Record.codec.schema.Carrier}
    (h : Tree.Within d (Record.codec.schema.write x)) :
    Tree.Within d (Record.codec.toTree (Record.codec.unpack x)) := by
  obtain ⟨event, package, version, interface, message, timestamp, ⟨⟩⟩ := x
  cases h with
  | object inner =>
    obtain ⟨-, inner⟩ := Fields.of_all_required inner
    obtain ⟨package, inner⟩ := Fields.of_all_required inner
    obtain ⟨version, inner⟩ := Fields.of_all_required inner
    obtain ⟨interface, inner⟩ := Fields.of_all_required inner
    obtain ⟨message, -⟩ := Fields.of_all_required inner
    apply Tree.Within.object
    refine Fields.all_required (.text _) ?_
    refine Fields.all_required package (Fields.all_required version ?_)
    refine Fields.all_required interface (Fields.all_required (within_unpackMessage message) ?_)
    exact Fields.all_optional (fun _ _ => .integer _) nofun

theorem within_of_decode (h : Record.codec.decode payload = .ok r) :
    Tree.Within maxDepth (Record.codec.toTree r) := by
  obtain ⟨x, decoded, rfl⟩ := ok_of_map h
  exact within_unpack (Schema.within_of_decode shallow_codec decoded)

/-- Every float of a record is read back from its text. -/
def Record.Legible (r : Record) : Prop := Record.codec.schema.Legible (Record.codec.pack r)

theorem decode_again (h : Record.codec.decode payload = .ok r) (legible : r.Legible) :
    Record.codec.decode (Record.codec.encode r) = .ok r :=
  Codec.decode_encode sound_codec legible (within_of_decode h)

namespace Reader

variable {reader s : Reader}

theorem readRecord_decoded (h : reader.readRecord = (.ok (some r), s)) :
    ∃ payload, Record.codec.decode payload = .ok r := by
  unfold readRecord at h
  split at h
  · cases h
  · cases h
  · split at h
    · cases h
    · rename_i decoded
      cases h
      exact ⟨_, decoded⟩

theorem recordsLoop_decoded {fuel : Nat} :
    ∀ r ∈ (recordsLoop fuel reader).1, ∃ payload, Record.codec.decode payload = .ok r := by
  induction fuel generalizing reader with
  | zero => exact fun _ hr => absurd hr List.not_mem_nil
  | succ fuel ih =>
    rw [recordsLoop]
    split
    · exact fun _ hr => absurd hr List.not_mem_nil
    · exact fun _ hr => absurd hr List.not_mem_nil
    · rename_i read
      exact List.forall_mem_cons.mpr ⟨readRecord_decoded read, ih⟩

theorem records_decoded :
    ∀ r ∈ reader.records.1, ∃ payload, Record.codec.decode payload = .ok r :=
  recordsLoop_decoded

end Reader

end HalBench.Trace
