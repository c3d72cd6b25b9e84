import HalBench.Json.Codec
/-!
# Events of a trace

A call is recorded when it is entered and when it is left, on one of five sides.
-/

namespace HalBench.Trace

/-- Where a call was recorded. -/
inductive Side where
  | server
  | client
  | syncCallback
  | asyncCallback
  | passthrough
  deriving DecidableEq, Repr, Inhabited

inductive Phase where
  | entry
  | exit
  deriving DecidableEq, Repr, Inhabited

structure Event where
  side : Side
  phase : Phase
  deriving DecidableEq, Repr, Inhabited

namespace Event

def isEntry (e : Event) : Bool := e.phase == .entry

def isExit (e : Event) : Bool := e.phase == .exit

def matchingExit (e : Event) : Option Event :=
  match e.phase with
  | .entry => some ⟨e.side, .exit⟩
  | .exit => none

def names : List String :=
  ["SERVER_API_ENTRY", "SERVER_API_EXIT", "CLIENT_API_ENTRY", "CLIENT_API_EXIT",
    "SYNC_CALLBACK_ENTRY", "SYNC_CALLBACK_EXIT", "ASYNC_CALLBACK_ENTRY", "ASYNC_CALLBACK_EXIT",
    "PASSTHROUGH_ENTRY", "PASSTHROUGH_EXIT"]

def index : Event → Fin 10
  | ⟨.server, .entry⟩ => 0
  | ⟨.server, .exit⟩ => 1
  | ⟨.client, .entry⟩ => 2
  | ⟨.client, .exit⟩ => 3
  | ⟨.syncCallback, .entry⟩ => 4
  | ⟨.syncCallback, .exit⟩ => 5
  | ⟨.asyncCallback, .entry⟩ => 6
  | ⟨.asyncCallback, .exit⟩ => 7
  | ⟨.passthrough, .entry⟩ => 8
  | ⟨.passthrough, .exit⟩ => 9

def ofIndex : Fin 10 → Event
  | 0 => ⟨.server, .entry⟩
  | 1 => ⟨.server, .exit⟩
  | 2 => ⟨.client, .entry⟩
  | 3 => ⟨.client, .exit⟩
  | 4 => ⟨.syncCallback, .entry⟩
  | 5 => ⟨.syncCallback, .exit⟩
  | 6 => ⟨.asyncCallback, .entry⟩
  | 7 => ⟨.asyncCallback, .exit⟩
  | 8 => ⟨.passthrough, .entry⟩
  | 9 => ⟨.passthrough, .exit⟩

theorem ofIndex_index : (e : Event) → ofIndex e.index = e := by
  rintro ⟨side, phase⟩
  cases side <;> cases phase <;> rfl

def name (e : Event) : String := names.get e.index

def codec : Json.Codec Event where
  schema := .choice names
  pack := index
  unpack := ofIndex
  unpack_pack := ofIndex_index

end Event

end HalBench.Trace
