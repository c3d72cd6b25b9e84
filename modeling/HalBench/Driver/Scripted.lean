import HalBench.Driver.Model
/-!
# Scripted drivers

A driver that answers by fixed rules, one for each function and one for all others.
-/

namespace HalBench.Driver

open Service

inductive Rule where
  | echo
  | sum
  | returns (values : List Json.Value) (name : Option String)
  | nothing
  | fails (reason : String)
  deriving Inhabited

/-- A driver that answers by rules; without a fixed verdict it compares results. -/
structure Scripted where
  functions : List String := []
  rules : List (String × Rule) := []
  otherwise : Option Rule := none
  verdict : Option Bool := none
  deriving Inhabited

/-- The sum of the values that are words of 64 bits, modulo their width. -/
def wordSum (values : List Json.Value) : Int64 :=
  values.foldl (fun sum v =>
    match v.tree with
    | .integer i => if i.val < 9223372036854775808 then sum + Int64.ofInt i.val else sum
    | _ => sum) 0

def wordValue (x : Int64) : Json.Value :=
  .ofTree (.integer (Json.Word.signed64.toInteger x))

def Rule.answer (call : Message) : Rule → Except Error (Option Message)
  | echo => .ok (some ⟨call.name, [], call.arguments⟩)
  | sum => .ok (some ⟨call.name, [], [wordValue (wordSum call.arguments)]⟩)
  | returns values name => .ok (some ⟨name.getD call.name, [], values⟩)
  | nothing => .ok none
  | fails reason => .error (.failed reason)

namespace Scripted

def answer (d : Scripted) (call : Message) : Except Error (Option Message) :=
  match (d.rules.lookup call.name).or d.otherwise with
  | some rule => rule.answer call
  | none => .error (.unsupported call.name)

instance : Model Scripted Unit where
  call d m w := (d.answer m, d, w)
  verify d expected actual := d.verdict.getD (agree expected actual)
  functions d w := (d.functions, d, w)

end Scripted

end HalBench.Driver
