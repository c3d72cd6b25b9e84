import HalBench.Proofs.Trace.RoundTrip
import HalBench.Session.Command

/-! A command is decoded from its own text: of every kind, with any strings, and with values as deep
as they may be in a record of a trace. -/

namespace HalBench.Session.Command

open Json

/-- The values of a call are plain; other commands have none. -/
def Plain : Command → Prop
  | call _ m => Trace.Plain m.arguments ∧ Trace.Plain m.returns
  | _ => True

theorem sound_launchFields : launchFields.Sound := by
  have categories : Service.Category.names.Nodup := by decide
  have bitnesses : ["32", "64"].Nodup := by decide
  refine ⟨trivial, ?_, trivial, ?_, trivial, ?_, trivial, ?_, trivial, ?_, categories, ?_,
    bitnesses, ?_, ⟨trivial, trivial⟩, ?_, trivial⟩
  all_goals decide

theorem sound_codec : codec.schema.Sound := by
  refine ⟨trivial, ?_, ?_, ⟨trivial, ?_, trivial⟩, ?_, ?_, ⟨trivial, ?_, trivial⟩, ?_, ?_,
    sound_launchFields, ?_, ?_, ⟨trivial, ?_, trivial⟩, ?_, ?_,
    ⟨trivial, ?_, Service.Message.sound_codec, ?_, trivial⟩, ?_, ?_, ⟨trivial, ?_, trivial⟩, ?_, ?_,
    trivial, ?_, ?_, trivial, ?_, ?_, trivial, ?_, ?_, trivial⟩
  all_goals decide

theorem holds {P : Tree → Prop} {c : Command} (plain : c.Plain)
    (each : ∀ v : Value, v.tree.FloatFree ∧ v.tree.Within 124 → P v.tree) :
    codec.schema.Holds P (codec.pack c) := by
  cases c with
  | capability => exact trivial
  | listServices paths => exact ⟨fun _ _ _ _ => trivial, trivial⟩
  | checkService name => exact ⟨trivial, trivial⟩
  | launch l =>
    exact ⟨trivial, trivial, trivial, trivial, fun _ _ => trivial, fun _ _ => trivial,
      fun _ _ => trivial, fun _ _ _ _ => trivial, trivial⟩
  | listFunctions id => exact ⟨trivial, trivial⟩
  | call id m => exact ⟨trivial, Trace.holds_message plain.1 plain.2 each, trivial⟩
  | shell commands => exact ⟨fun _ _ => trivial, trivial⟩
  | startMeasurement => exact trivial
  | stopMeasurement => exact trivial
  | exit => exact trivial

/-- A command with plain values is decoded from its own text, whichever kind it is of. -/
theorem encoded_decoded {c : Command} (plain : c.Plain) : Command.decode c.encode = .ok c := by
  have legible : codec.schema.Legible (codec.pack c) :=
    Schema.legible_of_holds _ rfl _ (holds plain fun _ h => h.1)
  have within : Tree.Within maxDepth (codec.toTree c) :=
    Schema.within_write _ _ (holds plain fun _ h => h.2)
  have decoded : codec.decode c.encode = .ok c := Codec.decode_encode sound_codec legible within
  have something : c.encode ≠ [] := by
    intro nothing
    rw [nothing] at decoded
    cases decoded
  rw [Command.decode, if_neg something, decoded]
  rfl

/-- A call whose strings are escaped or have letters of several bytes. -/
def quoted : Command :=
  call 4294967295
    ⟨"\x00\"\\é", [⟨.array [.null, .text "\n"], trivial, trivial, trivial⟩],
      [⟨.object [("\t", .bool true)], List.pairwise_singleton .., trivial, trivial⟩]⟩

theorem encoded_decoded_quoted : quoted.Plain ∧ Command.decode quoted.encode = .ok quoted := by
  have plain : quoted.Plain := by
    refine ⟨List.forall_mem_cons.mpr ⟨⟨.array ?_, .array ?_⟩, nofun⟩,
      List.forall_mem_cons.mpr ⟨⟨.object ?_, .object ?_⟩, nofun⟩⟩
    · exact List.forall_mem_cons.mpr ⟨.null, List.forall_mem_cons.mpr ⟨.text _, nofun⟩⟩
    · exact List.forall_mem_cons.mpr ⟨.null, List.forall_mem_cons.mpr ⟨.text _, nofun⟩⟩
    · exact List.forall_mem_cons.mpr ⟨.bool _, nofun⟩
    · exact List.forall_mem_cons.mpr ⟨.bool _, nofun⟩
  exact ⟨plain, encoded_decoded plain⟩

end HalBench.Session.Command
