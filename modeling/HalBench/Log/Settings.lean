import HalBench.Files.Tree
import HalBench.Log.Filter
/-!
# Logging

Where log lines go, in which form, and from which level on. Logging can be set up once only.
-/

namespace HalBench.Log

open Files

inductive Form where
  | json
  | pretty
  deriving DecidableEq, Repr

namespace Form

instance : Inhabited Form := ⟨pretty⟩

def ofText? (text : String) : Option Form :=
  match String.ofList (text.toList.map Char.toLower) with
  | "json" => some json
  | "pretty" => some pretty
  | "text" => some pretty
  | _ => none

end Form

structure Settings where
  form : Form := default
  filter : String := "info"
  path : Option Path := none
  deriving DecidableEq, Repr, Inhabited

inductive Error where
  | invalidFilter
  | notOpened (fault : SystemFault)
  | alreadySetUp
  deriving DecidableEq, Repr

def Error.message : Error → String
  | invalidFilter => "Invalid log filter: invalid filter directive"
  | notOpened fault => "Failed to open log file: " ++ fault.message
  | alreadySetUp => "Subscriber already initialized"

/-- Sets logging up: the filter is looked at first, then the file is opened, which makes it if
it is not there. -/
def setUp (files : Tree) (isSetUp : Bool) (s : Settings) : Except Error Unit × Tree :=
  if !isFilter s.filter.toList then (.error .invalidFilter, files)
  else
    match s.path.map fun p => files.append p [] with
    | some (.error fault) => (.error (.notOpened fault), files)
    | some (.ok files) => (if isSetUp then .error .alreadySetUp else .ok (), files)
    | none => (if isSetUp then .error .alreadySetUp else .ok (), files)

end HalBench.Log
