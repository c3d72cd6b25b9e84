import HalBench.Index
import HalBench.Settings
import HalBench.Text.Cut
/-!
# Options of a replay

The options come in groups of a name and a value, in any order and number; the last group of a
name counts.
-/

namespace HalBench.Tool

/-- Which drivers a replay launches, and for which service instances. -/
structure ReplayChoice where
  driver : Files.Path := ({} : Installation).driver64
  specs : Files.Path := ({} : Installation).specs
  instances : Index String := .empty
  deriving Inhabited

namespace ReplayChoice

inductive Error where
  | missingValue (option : String)
  | badMapping (text : String)
  | unknown (argument : String)
  deriving DecidableEq, Repr

def Error.message : Error → String
  | missingValue option => "Missing value for " ++ option
  | badMapping text => "Expected FQNAME=SERVICE, got '" ++ text ++ "'"
  | unknown argument => "Unknown argument: " ++ argument

/-- The name and the instance of a mapping, which an equals sign separates. -/
def mapping? (text : String) : Option (String × String) :=
  match Text.cut ['='] text.toList with
  | some (name, value) =>
    if name.isEmpty || value.isEmpty then none
    else some (String.ofList name, String.ofList value)
  | none => none

inductive Name where
  | driver
  | specs
  | service
  deriving DecidableEq, Repr

def option? : String → Option Name
  | "--driver" => some .driver
  | "--spec-dir" => some .specs
  | "--service" => some .service
  | _ => none

def set (o : ReplayChoice) (option : Name) (value : String) : Except Error ReplayChoice :=
  match option with
  | .driver => .ok { o with driver := .ofString value }
  | .specs => .ok { o with specs := .ofString value }
  | .service =>
    match mapping? value with
    | some (name, service) => .ok { o with instances := o.instances.insert name service }
    | none => .error (.badMapping value)

/-- Options changed by all groups of some arguments. -/
def parseFrom (o : ReplayChoice) : List String → Except Error ReplayChoice
  | [] => .ok o
  | [name] =>
    match option? name with
    | some _ => .error (.missingValue name)
    | none => .error (.unknown name)
  | name :: value :: rest =>
    match option? name with
    | some option => do parseFrom (← o.set option value) rest
    | none => .error (.unknown name)

def parse (arguments : List String) : Except Error ReplayChoice := parseFrom {} arguments

end ReplayChoice

end HalBench.Tool
