import HalBench.Trace.Record
/-!
# Cleaning traces

A clean trace holds adjacent pairs of an entry and its exit only. What the client side recorded
of an interface goes when the server side or a passthrough recorded that interface too; of what
is left, a record stays only when it closes a pair with its neighbour.
-/

namespace HalBench.Trace

structure CleanupTally where
  kept : Nat := 0
  duplicates : Nat := 0
  unpaired : Nat := 0
  deriving DecidableEq, Repr

namespace CleanupTally

def removed (r : CleanupTally) : Nat := r.duplicates + r.unpaired

def toTree (r : CleanupTally) : Json.Tree :=
  .object [("kept", .count r.kept), ("removed_client_duplicates", .count r.duplicates),
    ("removed_unpaired", .count r.unpaired)]

end CleanupTally

def Record.isServed (r : Record) : Bool :=
  r.event.side == .server || r.event.side == .passthrough

/-- Whether a record of the client side has its interface among some names. -/
def Record.isDuplicate (served : List String) (r : Record) : Bool :=
  r.event.side == .client && served.contains r.qualifiedName

def isCompleteCall (call result : Record) : Bool :=
  call.event.matchingExit == some result.event
    && call.qualifiedName == result.qualifiedName
    && call.message.name == result.message.name

/-- Drops the records that are duplicates, and counts them. -/
def dropDuplicates (served : List String) :
    List Record → CleanupTally → List Record × CleanupTally
  | [], t => ([], t)
  | a :: r, t =>
    if a.isDuplicate served then
      dropDuplicates served r { t with duplicates := t.duplicates + 1 }
    else
      let (rest, t) := dropDuplicates served r t
      (a :: rest, t)

/-- Keeps the adjacent pairs, from the left, and counts the records that it drops. -/
def scanPairs : List Record → CleanupTally → List Record × CleanupTally
  | [], t => ([], t)
  | [_], t => ([], { t with unpaired := t.unpaired + 1 })
  | a :: b :: r, t =>
    if isCompleteCall a b then
      let (rest, t) := scanPairs r t
      (a :: b :: rest, t)
    else scanPairs (b :: r) { t with unpaired := t.unpaired + 1 }

def cleanup (records : List Record) : List Record × CleanupTally :=
  let served := (records.filter Record.isServed).map Record.qualifiedName
  let (remaining, tally) := dropDuplicates served records {}
  let (kept, tally) := scanPairs remaining tally
  (kept, { tally with kept := kept.length })

end HalBench.Trace
