/-!
# Faults of JSON decoding

What is wrong with a text that was to be decoded: it ends too soon, it is no JSON, or it is JSON
of another shape than asked for.
-/

namespace HalBench.Json

/-- Why a text was not decoded. -/
inductive Fault where
  | endOfText
  | malformed
  | missingField (name : String)
  | unknownVariant (name : String)
  | duplicateField (name : String)
  | wrongType
  | outOfRange
  | wrongLength
  deriving DecidableEq, Repr, Inhabited

def Fault.message : Fault → String
  | endOfText => "eof"
  | malformed => "syntax"
  | missingField name => "missing field `" ++ name ++ "`"
  | unknownVariant name => "unknown variant `" ++ name ++ "`"
  | duplicateField name => "duplicate field `" ++ name ++ "`"
  | wrongType => "invalid type"
  | outOfRange => "invalid value"
  | wrongLength => "invalid length"

end HalBench.Json
