import HalBench.Files.Tree
import HalBench.Service.Category
import HalBench.Service.Key
import HalBench.Toml.Document
/-!
# Catalogs of interface specifications

A specification is a TOML file that names an interface and its functions. A catalog takes the
files with the extension `toml` of a directory, in the order of their names, and passes over
those that cannot be read or are no specification.
-/

namespace HalBench

open Files

structure Spec where
  package : String
  version : String
  interface : String
  category : Service.Category := default
  functions : List String := []
  deriving DecidableEq, Repr, Inhabited

namespace Spec

def qualifiedName (s : Spec) : String :=
  Service.qualifiedName s.package s.version s.interface

def text? : Toml.Value → Option String
  | .text s => some s
  | _ => none

/-- The category of a value: its name, or a table with nothing under its name. -/
def category? : Toml.Value → Option Service.Category
  | .text s => Service.Category.ofName? s
  | .table [(name, .table [])] => Service.Category.ofName? name
  | .table [(name, .array [])] => Service.Category.ofName? name
  | _ => none

def texts? : Toml.Value → Option (List String)
  | .array items => items.mapM text?
  | _ => none

def ofToml? : Toml.Value → Option Spec
  | .table entries => do
    let package ← (entries.lookup "package").bind text?
    let version ← (entries.lookup "version").bind text?
    let interface ← (entries.lookup "interface").bind text?
    let category ← match entries.lookup "category" with
      | some v => category? v
      | none => some default
    let functions ← match entries.lookup "apis" with
      | some v => texts? v
      | none => some []
    return { package, version, interface, category, functions }
  | _ => none

def ofBytes? (content : Bytes) : Option Spec := do
  let text ← Utf8.decode? content
  let document ← Toml.parse? text
  ofToml? document

end Spec

/-- The names in a directory, each with the content of its file if that can be read. -/
abbrev Listing := List (Bytes × Option Bytes)

def Files.Tree.listing (files : Tree) (dir : Path) : Except SystemFault Listing := do
  let names ← files.list dir
  return names.map fun name => (name, (files.read (dir.join name)).toOption)

/-- Specifications in the order in which they were taken. -/
structure Catalog where
  specs : List Spec := []
  deriving DecidableEq, Repr, Inhabited

structure Catalog.Error where
  dir : Path
  fault : SystemFault
  deriving DecidableEq, Repr

namespace Catalog

def Error.message (e : Error) : String :=
  "Spec directory not readable: " ++ e.dir.display ++ ": " ++ e.fault.message

/-- What follows the last point of a name; a point at the start does not count. -/
def extension? (name : Bytes) : Option Bytes :=
  let reversed := name.reverse
  let ending := reversed.takeWhile (· != 46)
  match reversed.drop ending.length with
  | _ :: _ :: _ => some ending.reverse
  | _ => none

def isSpecName (name : Bytes) : Bool := extension? name == some (Utf8.bytes "toml")

def specsOf (listing : Listing) : List Spec :=
  let files := listing.filter fun e => isSpecName e.1
  let sorted := files.mergeSort fun a b => Path.nameLe a.1 b.1
  sorted.filterMap fun e => e.2.bind Spec.ofBytes?

def add (c : Catalog) (dir : Path) (listing : Except SystemFault Listing) :
    Except Error Catalog :=
  match listing with
  | .error fault => .error ⟨dir, fault⟩
  | .ok listing => .ok ⟨c.specs ++ specsOf listing⟩

def names (c : Catalog) : List String :=
  (Index.ofList (c.specs.map fun s => (s.qualifiedName, ()))).keys

def find? (c : Catalog) (package version interface : String) : Option Spec :=
  c.specs.find? fun s =>
    s.package == package && s.version == version && s.interface == interface

end Catalog

end HalBench
