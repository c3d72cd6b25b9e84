import HalBench.Trace.Error
import HalBench.Trace.Record
/-!
# Writing traces
-/

namespace HalBench.Trace

/-- A trace that is written, and how many records it has. -/
structure Writer where
  sink : Sink := {}
  count : Nat := 0
  deriving Repr

namespace Writer

def append (record : Record) (w : Writer) : Except Error Unit × Writer :=
  match Frame.send (Record.codec.encode record) w.sink with
  | (.error e, s) => (.error (.frame w.count e), { w with sink := s })
  | (.ok (), s) => (.ok (), ⟨s, w.count + 1⟩)

def appendAll : List Record → Writer → Except Error Unit × Writer
  | [], w => (.ok (), w)
  | record :: r, w =>
    match w.append record with
    | (.error e, w) => (.error e, w)
    | (.ok (), w) => appendAll r w

def finish (w : Writer) : Except Error Unit := w.sink.flush.mapError .io

end Writer

end HalBench.Trace
