import HalBench.Json.Codec
/-!
# Categories of services

How a service is provided. The category of a service that does not tell is `hidl`.
-/

namespace HalBench.Service

inductive Category where
  | conventional
  | legacy
  | hidl
  | sharedLibrary
  deriving DecidableEq, Repr

namespace Category

instance : Inhabited Category := ⟨hidl⟩

def names : List String := ["conventional", "legacy", "hidl", "shared_library"]

def index : Category → Fin 4
  | conventional => 0
  | legacy => 1
  | hidl => 2
  | sharedLibrary => 3

def ofIndex : Fin 4 → Category
  | 0 => conventional
  | 1 => legacy
  | 2 => hidl
  | 3 => sharedLibrary

theorem ofIndex_index (c : Category) : ofIndex c.index = c := by cases c <;> rfl

def name (c : Category) : String := names.get c.index

def ofName? (s : String) : Option Category :=
  [conventional, legacy, hidl, sharedLibrary].find? fun c => c.name == s

def codec : Json.Codec Category where
  schema := .choice names
  pack := index
  unpack := ofIndex
  unpack_pack := ofIndex_index

end Category

end HalBench.Service
