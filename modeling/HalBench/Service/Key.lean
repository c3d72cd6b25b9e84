import HalBench.Json.Codec
import HalBench.Text.Cut
/-!
# Names of services

An interface is named by its package, version and interface name, written
`package@version::Interface`. A key names one instance of an interface.
-/

namespace HalBench.Service

def qualifiedName (package version interface : String) : String :=
  package ++ "@" ++ version ++ "::" ++ interface

/-- The package, version and interface of a full name, none of them empty. The package ends at
the first at sign, the version at the first double colon after it. -/
def parseQualified? (name : String) : Option (String × String × String) := do
  let (package, rest) ← Text.cut ['@'] name.toList
  let (version, interface) ← Text.cut [':', ':'] rest
  if package = [] ∨ version = [] ∨ interface = [] then none
  else some (String.ofList package, String.ofList version, String.ofList interface)

/-- One instance of an interface. -/
structure Key where
  package : String
  version : String
  interface : String
  instanceName : String
  deriving DecidableEq, Repr, Inhabited

namespace Key

def defaultInstance : String := "default"

def qualifiedName (k : Key) : String := Service.qualifiedName k.package k.version k.interface

def display (k : Key) : String := k.qualifiedName ++ "/" ++ k.instanceName

def ofQualified? (name instanceName : String) : Option Key :=
  (parseQualified? name).map fun (p, v, i) => ⟨p, v, i, instanceName⟩

def codec : Json.Codec Key where
  schema := .record <| .required "package" .text <| .required "version" .text <|
    .required "interface" .text <| .required "instance" .text .done
  pack k := (k.package, k.version, k.interface, k.instanceName, ())
  unpack := fun (p, v, i, n, ()) => ⟨p, v, i, n⟩
  unpack_pack _ := rfl

end Key

end HalBench.Service
