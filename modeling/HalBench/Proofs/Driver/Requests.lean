import HalBench.Proofs.Driver.Exchanges
import HalBench.Proofs.Frame.Sequence
import HalBench.Proofs.Trace.RoundTrip

/-! Requests to a peer that answers each of them with one frame. The peer gets every request in a
frame of its own, and every request comes to what its own frame says. -/

namespace HalBench.Driver

open Service

namespace Request

open Json

def Plain : Request → Prop
  | call m => Trace.Plain m.arguments ∧ Trace.Plain m.returns
  | listFunctions => True

theorem sound_codec : codec.schema.Sound := by
  refine ⟨⟨Message.sound_codec, ?_, trivial⟩, ?_, ?_, trivial, ?_, ?_, trivial⟩
  all_goals decide

theorem holds {P : Tree → Prop} {q : Request} (plain : q.Plain)
    (each : ∀ v : Value, v.tree.FloatFree ∧ v.tree.Within 124 → P v.tree) :
    codec.schema.Holds P (codec.pack q) := by
  cases q with
  | call m => exact ⟨Trace.holds_message plain.1 plain.2 each, trivial⟩
  | listFunctions => exact trivial

theorem decoded {q : Request} (plain : q.Plain) : codec.decode (codec.encode q) = .ok q := by
  have legible : codec.schema.Legible (codec.pack q) :=
    Schema.legible_of_holds _ rfl _ (holds plain fun _ h => h.1)
  have within : Tree.Within maxDepth (codec.toTree q) :=
    Schema.within_write _ _ (holds plain fun _ h => h.2)
  exact Codec.decode_encode sound_codec legible within

end Request

namespace Remote

variable {r : Remote} {requests : List Request} {payload : Nat → Bytes}

/-- The peer answers each of some requests with one frame, and stays to the last of them. -/
structure Answered (r : Remote) (requests : List Request) (payload : Nat → Bytes) : Prop where
  frame : ∀ k < requests.length, Frame.Whole (payload k) (r.reply requests k).bytes
  stays : ∀ k, k + 1 < requests.length → (r.reply requests k).closes = false

namespace Answered

theorem unread_eq_nil (answered : r.Answered requests payload)
    (nothing : r.connection.inbox = []) {k : Nat} (inside : k ≤ requests.length) :
    r.unread requests k = [] :=
  Remote.unread_eq_nil nothing fun j before =>
    (answered.frame j (Nat.lt_of_lt_of_le before inside)).spent

theorem received_eq (answered : r.Answered requests payload) {k : Nat}
    (inside : k < requests.length) : r.received requests [] k = .ok (payload k) := by
  have stays : ∀ j < k, (r.reply requests j).closes = false := fun j before =>
    answered.stays j (Nat.lt_of_le_of_lt before inside)
  rw [Remote.received_eq stays, List.nil_append, (answered.frame k inside).received]

end Answered

/-- Answers of each kind: none, bytes that are no text, a failure, a text that is no message, one
that is, and names of functions. -/
def said : Nat → Bytes
  | 0 => Utf8.bytes "void"
  | 1 => [255]
  | 2 => Utf8.bytes "error"
  | 3 => Utf8.bytes "["
  | 4 => Utf8.bytes (Message.toText ⟨"d", [], []⟩)
  | _ => Utf8.bytes "[\"f\"]"

end Remote

end HalBench.Driver
