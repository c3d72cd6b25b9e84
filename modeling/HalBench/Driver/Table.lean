import HalBench.Driver.Model
import HalBench.Service.Category
import HalBench.Service.Key
import HalBench.Trace.Replay
/-!
# Tables of drivers

A table numbers the drivers in the order in which their keys were first registered, and remembers
the number of each key. Registering a key again replaces its driver and keeps the number. Service
names are bound to numbers.
-/

namespace HalBench.Driver

open Service

structure Entry (δ : Type) where
  key : Key
  category : Category
  driver : δ

/-- Drivers in the order of their numbers, the numbers of their keys, and the service names bound
to them. -/
structure Table (δ : Type) where
  entries : List (Entry δ) := []
  numbers : List (Key × Id) := []
  services : Index Id := .empty

namespace Table

variable {δ ω : Type}

instance : Inhabited (Table δ) := ⟨{}⟩

def size (t : Table δ) : Nat := t.entries.length

def isEmpty (t : Table δ) : Bool := t.entries.isEmpty

def entry? (t : Table δ) (id : Id) : Option (Entry δ) := t.entries[id.toNat]?

def key? (t : Table δ) (id : Id) : Option Key := (t.entry? id).map (·.key)

def category? (t : Table δ) (id : Id) : Option Category := (t.entry? id).map (·.category)

def resolve (t : Table δ) (key : Key) : Option Id := t.numbers.lookup key

def lookup (t : Table δ) (service : String) : Option Id := t.services.get? service

def setEntry (t : Table δ) (id : Id) (e : Entry δ) : Table δ :=
  { t with entries := t.entries.set id.toNat e }

/-- Registers a driver, or puts it in the place of the one that the key already has. -/
def register (t : Table δ) (key : Key) (category : Category) (driver : δ) : Id × Table δ :=
  match t.resolve key with
  | some id =>
    (id, { t with entries := t.entries.modify id.toNat fun e => { e with category, driver } })
  | none =>
    let id := UInt32.ofNat t.size
    (id, { t with
      entries := t.entries ++ [⟨key, category, driver⟩]
      numbers := (key, id) :: t.numbers })

def bind (t : Table δ) (service : String) (id : Id) : Bool × Table δ :=
  if (t.entry? id).isSome then (true, { t with services := t.services.insert service id })
  else (false, t)

def registerNamed (t : Table δ) (service : String) (key : Key) (category : Category)
    (driver : δ) : Id × Table δ :=
  let (id, t) := t.register key category driver
  (id, (t.bind service id).2)

def answerText : Except Error (Option Message) → String
  | .ok (some m) => m.toText
  | .ok none => Answer.nothingWord
  | .error _ => Answer.failureWord

variable [Model δ ω]

def invoke (t : Table δ) (id : Id) (call : Message) (w : ω) : String × Table δ × ω :=
  match t.entry? id with
  | none => (Answer.failureWord, t, w)
  | some e =>
    let (answer, driver, w) := Model.call e.driver call w
    (answerText answer, t.setEntry id { e with driver }, w)

def verify (t : Table δ) (id : Id) (expected actual : Message) : Bool :=
  match t.entry? id with
  | none => false
  | some e => Model.verify e.driver expected actual

def functions (t : Table δ) (id : Id) (w : ω) : List String × Table δ × ω :=
  match t.entry? id with
  | none => ([], t, w)
  | some e =>
    let (names, driver, w) := Model.functions e.driver w
    (names, t.setEntry id { e with driver }, w)

instance : Trace.Registry (Table δ × ω) where
  resolve key r := (r.1.resolve key, r)
  invoke id call r :=
    let (text, t, w) := r.1.invoke id call r.2
    (text, t, w)
  verify id expected actual r := (r.1.verify id expected actual, r)

end Table

end HalBench.Driver
