import HalBench.Trace.Error
import HalBench.Trace.Record
/-!
# Reading traces

A trace is a sequence of frames, each holding one record. A frame is consumed before its payload
is decoded, so a payload that is no record does not disturb those after it.
-/

namespace HalBench.Trace

/-- A place in a trace, and how many records were read before it. -/
structure Reader where
  source : Source
  count : Nat := 0
  deriving Repr

/-- Two records that were read together, or one at the end of a trace. -/
inductive Pair where
  | complete (call result : Record)
  | dangling (record : Record)
  deriving Inhabited

namespace Reader

def readRecord (r : Reader) : Except Error (Option Record) × Reader :=
  match Frame.receive r.source with
  | (.error .peerClosed, s) => (.ok none, { r with source := s })
  | (.error e, s) => (.error (.frame r.count e), { r with source := s })
  | (.ok payload, s) =>
    match Record.codec.decode payload with
    | .error fault => (.error (.malformed fault), { r with source := s })
    | .ok record => (.ok (some record), ⟨s, r.count + 1⟩)

def readPair (r : Reader) : Except Error (Option Pair) × Reader :=
  match r.readRecord with
  | (.error e, r) => (.error e, r)
  | (.ok none, r) => (.ok none, r)
  | (.ok (some call), r) =>
    match r.readRecord with
    | (.error e, r) => (.error e, r)
    | (.ok none, r) => (.ok (some (.dangling call)), r)
    | (.ok (some result), r) => (.ok (some (.complete call result)), r)

/-- All records up to the end, or those before an error and the error. A record takes two bytes
at least, so `fuel` above the number of bytes is never used up. -/
def recordsLoop : Nat → Reader → List Record × Option Error
  | 0, _ => ([], none)
  | fuel + 1, r =>
    match r.readRecord with
    | (.error e, _) => ([], some e)
    | (.ok none, _) => ([], none)
    | (.ok (some record), r) =>
      let (rest, ending) := recordsLoop fuel r
      (record :: rest, ending)

def records (r : Reader) : List Record × Option Error :=
  recordsLoop (r.source.remaining.length + 1) r

def all (r : Reader) : Except Error (List Record) :=
  match r.records with
  | (records, none) => .ok records
  | (_, some e) => .error e

end Reader

/-- An iteration over the records of a trace, which ends for good at the end or at an error. -/
structure Iteration where
  reader : Reader
  done : Bool := false
  deriving Repr

def Iteration.next (i : Iteration) : Option (Except Error Record) × Iteration :=
  if i.done then (none, i)
  else
    match i.reader.readRecord with
    | (.ok (some record), r) => (some (.ok record), ⟨r, false⟩)
    | (.ok none, r) => (none, ⟨r, true⟩)
    | (.error e, r) => (some (.error e), ⟨r, true⟩)

def services (r : Reader) : Except Error (List String) := do
  let records ← r.all
  return (Index.ofList (records.map fun record => (record.qualifiedName, ()))).keys

end HalBench.Trace
