import HalBench.Json.Codec
/-!
# Function messages

A message names a function and carries the arguments of a call or the values that it returned.
What a driver answers to a call is a text: the message of a result, or one of two words for no
result and for a failure.
-/

namespace HalBench.Service

structure Message where
  name : String
  arguments : List Json.Value := []
  returns : List Json.Value := []
  deriving Inhabited

namespace Message

def packValues (values : List Json.Value) : Option (List Json.Value) :=
  if values.isEmpty then none else some values

theorem getD_packValues (values : List Json.Value) : (packValues values).getD [] = values := by
  cases values <;> rfl

def codec : Json.Codec Message where
  schema := .record <| .required "name" .text <| .optional "args" (.list .value) <|
    .optional "return_values" (.list .value) .done
  pack m := (m.name, packValues m.arguments, packValues m.returns, ())
  unpack := fun (name, arguments, returns, ()) =>
    ⟨name, Option.getD arguments [], Option.getD returns []⟩
  unpack_pack m := by
    cases m
    simp only [getD_packValues]

def toText (m : Message) : String := codec.toText m

def ofText (text : String) : Except Json.Fault Message := codec.decodeText text

def same (m n : Message) : Bool :=
  m.name == n.name && Json.Value.sameAll m.arguments n.arguments
    && Json.Value.sameAll m.returns n.returns

end Message

/-- What the text of an answer means. -/
inductive Answer where
  | nothing
  | failure
  | text (body : String)
  deriving DecidableEq, Repr

namespace Answer

def nothingWord : String := "void"

def failureWord : String := "error"

def classify (text : String) : Answer :=
  if text = nothingWord then nothing
  else if text = failureWord then failure
  else .text text

end Answer

end HalBench.Service
