import HalBench.Driver.Model
import HalBench.Proofs.Json.Values

/-! A message is read back from its text, and its text is neither of the two words that stand for
no result and for a failure. -/

namespace HalBench.Service.Message

open Json

variable {m : Message} {d : Nat}

theorem packValues_mem {values items : List Value} (h : items ∈ packValues values) :
    items = values := by
  unfold packValues at h
  split at h
  · cases h
  · exact (Option.some.inj h).symm

theorem sound_codec : codec.schema.Sound := by
  refine ⟨trivial, ?_, trivial, ?_, trivial, ?_, trivial⟩
  all_goals decide

theorem holds {P : Tree → Prop} (arguments : ∀ v ∈ m.arguments, P v.tree)
    (returns : ∀ v ∈ m.returns, P v.tree) : codec.schema.Holds P (codec.pack m) := by
  refine ⟨trivial, fun items h v hv => ?_, fun items h v hv => ?_, trivial⟩
  · exact arguments v (packValues_mem h ▸ hv)
  · exact returns v (packValues_mem h ▸ hv)

theorem legible (arguments : ∀ v ∈ m.arguments, v.tree.FloatFree)
    (returns : ∀ v ∈ m.returns, v.tree.FloatFree) : codec.schema.Legible (codec.pack m) :=
  Schema.legible_of_holds _ rfl _ (holds arguments returns)

theorem within (arguments : ∀ v ∈ m.arguments, v.tree.Within d)
    (returns : ∀ v ∈ m.returns, v.tree.Within d) : Tree.Within (d + 2) (codec.toTree m) :=
  Schema.within_write _ _ (holds arguments returns)

theorem ofText_toText (legible : codec.schema.Legible (codec.pack m))
    (within : Tree.Within maxDepth (codec.toTree m)) : ofText m.toText = .ok m := by
  have text : Utf8.bytes m.toText = codec.encode m :=
    congrArg Utf8.encode (String.toList_ofList)
  rw [ofText, Codec.decodeText, text]
  exact Codec.decode_encode sound_codec legible within

/-- A message without floats, with values that leave room for the message around them. -/
structure Plain (m : Message) : Prop where
  arguments : ∀ v ∈ m.arguments, v.tree.FloatFree ∧ v.tree.Within 125
  returns : ∀ v ∈ m.returns, v.tree.FloatFree ∧ v.tree.Within 125

theorem Plain.ofText_toText (h : m.Plain) : ofText m.toText = .ok m := by
  apply Message.ofText_toText
  · exact legible (fun v hv => (h.arguments v hv).1) fun v hv => (h.returns v hv).1
  · exact within (fun v hv => (h.arguments v hv).2) fun v hv => (h.returns v hv).2

theorem classify_toText (m : Message) : Answer.classify m.toText = .text m.toText := by
  have opens : m.toText.toList.head? = some '\x7b' := by
    rw [toText, Codec.toText, String.toList_ofList]
    rfl
  unfold Answer.classify
  rw [if_neg, if_neg]
  · intro word
    rw [word] at opens
    cases opens
  · intro word
    rw [word] at opens
    cases opens

theorem agree_self (returns : ∀ v ∈ m.returns, v.tree.FloatFree) : Driver.agree m m = true := by
  rw [Driver.agree, Value.sameAll_self fun v hv => (returns v hv).same_self, beq_self_eq_true]
  rfl

end HalBench.Service.Message
