import HalBench.Duration
import HalBench.Json.Codec
/-!
# Measurement windows

While a window is open, the elapsed time of every call is added to the summary of its function.
Times are in nanoseconds, the sums in milliseconds of double precision.
-/

namespace HalBench.Measurement

def zero : Binary := .zero .double false

/-- How often a function was called and how long it took. -/
structure Summary where
  count : UInt64 := 0
  sum : Binary := zero
  least : Binary := zero
  greatest : Binary := zero
  deriving DecidableEq, Repr, Inhabited

namespace Summary

def add (s : Summary) (ms : Binary) : Summary :=
  { count := s.count + 1
    sum := s.sum.add .double ms
    least := if s.count = 0 then ms else s.least.min ms
    greatest := if s.count = 0 then ms else s.greatest.max ms }

def mean (s : Summary) : Binary :=
  if s.count = 0 then zero else s.sum.div .double (.ofNat .double s.count.toNat)

def codec : Json.Codec Summary where
  schema := .record <| .required "count" (.word .unsigned64) <|
    .required "sum_ms" (.float .double) <| .required "min_ms" (.float .double) <|
    .required "max_ms" (.float .double) .done
  pack s := (s.count, s.sum, s.least, s.greatest, ())
  unpack := fun (count, sum, least, greatest, ()) => ⟨count, sum, least, greatest⟩
  unpack_pack _ := rfl

end Summary

structure Snapshot where
  active : Bool
  window : UInt64
  calls : Index Summary
  deriving Inhabited

/-- The window that is open or was open last. -/
structure Window where
  started : Option Nat := none
  last : Duration := 0
  calls : Index Summary := .empty
  deriving Inhabited

namespace Window

def start (now : Nat) : Window := ⟨some now, 0, .empty⟩

def isActive (w : Window) : Bool := w.started.isSome

def record (w : Window) (name : String) (elapsed : Duration) : Window :=
  if w.isActive then
    let summary := (w.calls.get? name).getD {}
    { w with calls := w.calls.insert name (summary.add elapsed.milliseconds) }
  else w

def snapshot (w : Window) (now : Nat) : Snapshot :=
  let span := match w.started with
    | some t => now - t
    | none => w.last
  ⟨w.isActive, UInt64.ofNat (span / 1000000), w.calls⟩

def stop (w : Window) (now : Nat) : Snapshot × Window :=
  let closed := match w.started with
    | some t => { w with started := none, last := now - t }
    | none => w
  (closed.snapshot now, closed)

end Window

end HalBench.Measurement
