import HalBench.Stream.Fault
import HalBench.Text.Utf8
/-!
# Sinks of bytes

A sink takes some or all of the bytes of each write, may interrupt writes, and may stop taking
bytes after a total: from then on a write fails, or takes nothing. `writeAll` repeats the write
until all bytes are taken, past interruptions.
-/

namespace HalBench

/-- One turn of a sink: how many bytes a write takes at most, or an interrupted write. -/
inductive Uptake where
  | upTo (atMostOneLess : Nat)
  | interrupted
  deriving DecidableEq, Repr

inductive Refusal where
  | fails (fault : SystemFault)
  | takesNothing
  deriving DecidableEq, Repr

/-- A sink of bytes: what it has taken, its next turns, its limit and its answer to a flush.
Without further turns a write is taken whole. -/
structure Sink where
  written : Bytes := []
  turns : List Uptake := []
  limit : Option (Nat × Refusal) := none
  flushFault : Option SystemFault := none
  deriving DecidableEq, Repr

namespace Sink

inductive Turn where
  | taken (count : Nat)
  | interrupted
  | failed (fault : SystemFault)
  deriving DecidableEq, Repr

def room (s : Sink) (wanted : Nat) : Nat :=
  match s.limit with
  | none => wanted
  | some (total, _) => min wanted (total - s.written.length)

/-- One write call with at least one byte. -/
def write (b : Bytes) (s : Sink) : Turn × Sink :=
  match s.turns with
  | .interrupted :: later => (.interrupted, { s with turns := later })
  | turns =>
    let most := match turns with
      | .upTo n :: _ => n + 1
      | _ => b.length
    let count := min most (s.room b.length)
    if count = 0 then
      match s.limit with
      | some (_, .fails f) => (.failed f, s)
      | _ => (.taken 0, s)
    else (.taken count, { s with written := s.written ++ b.take count, turns := turns.tail })

def writeLoop : Nat → Bytes → Sink → Except SystemFault Unit × Sink
  | _, [], s => (.ok (), s)
  | 0, _ :: _, s => (.error .writeZero, s)
  | fuel + 1, b :: r, s =>
    match s.write (b :: r) with
    | (.interrupted, s') => writeLoop fuel (b :: r) s'
    | (.failed f, s') => (.error f, s')
    | (.taken 0, s') => (.error .writeZero, s')
    | (.taken (n + 1), s') => writeLoop fuel ((b :: r).drop (n + 1)) s'

/-- Writes bytes until all are taken. Every call takes a byte or uses up a turn, so the calls
never outnumber the bytes and the turns together. -/
def writeAll (b : Bytes) (s : Sink) : Except SystemFault Unit × Sink :=
  writeLoop (b.length + s.turns.length) b s

def flush (s : Sink) : Except SystemFault Unit :=
  match s.flushFault with
  | none => .ok ()
  | some f => .error f

end Sink

end HalBench
