import HalBench.Stream.Fault
import HalBench.Text.Utf8
/-!
# Sources of bytes

A source delivers its bytes in stretches, may interrupt a read any number of times between them,
and ends either cleanly or with a fault that every later read meets again. Reading retries after
an interruption, so what is read depends on the bytes and the ending only.
-/

namespace HalBench

/-- One turn of a source: some bytes that one read can take, or an interrupted read. -/
inductive Arrival where
  | stretch (first : UInt8) (rest : Bytes)
  | interrupted
  deriving DecidableEq, Repr

/-- A source of bytes: what arrives, and the fault that ends it, if one does. -/
structure Source where
  arrivals : List Arrival
  fault : Option SystemFault := none
  deriving DecidableEq, Repr

namespace Source

def held : List Arrival → Bytes
  | [] => []
  | .stretch b more :: r => b :: more ++ held r
  | .interrupted :: r => held r

def remaining (s : Source) : Bytes := held s.arrivals

def stretchOf : Bytes → List Arrival
  | [] => []
  | b :: more => [.stretch b more]

@[simp] theorem held_stretchOf (b : Bytes) : held (stretchOf b) = b := by
  cases b <;> simp [stretchOf, held]

theorem held_append (a b : List Arrival) : held (a ++ b) = held a ++ held b := by
  induction a with
  | nil => rfl
  | cons x r ih => cases x <;> simp [held, ih]

def ofBytes (b : Bytes) : Source := ⟨stretchOf b, none⟩

@[simp] theorem remaining_ofBytes (b : Bytes) : (ofBytes b).remaining = b := held_stretchOf b

inductive Turn where
  | bytes (b : Bytes)
  | closed
  | interrupted
  | failed (fault : SystemFault)
  deriving DecidableEq, Repr

def read (limit : Nat) (s : Source) : Turn × Source :=
  match s.arrivals with
  | [] => (match s.fault with | none => .closed | some f => .failed f, s)
  | .interrupted :: r => (.interrupted, { s with arrivals := r })
  | .stretch b more :: r =>
    (.bytes ((b :: more).take limit),
      { s with arrivals := stretchOf ((b :: more).drop limit) ++ r })

def nextByte : List Arrival → Option (UInt8 × List Arrival)
  | [] => none
  | .interrupted :: r => nextByte r
  | .stretch b more :: r => some (b, stretchOf more ++ r)

/-- The answer to a request for one byte, after all interruptions: none at the clean end. -/
def readByte (s : Source) : Except SystemFault (Option UInt8) × Source :=
  match nextByte s.arrivals with
  | some (b, r) => (.ok (some b), { s with arrivals := r })
  | none =>
    (match s.fault with | none => .ok none | some f => .error f, { s with arrivals := [] })

def gather : Nat → List Arrival → Bytes × List Arrival
  | 0, arrivals => ([], arrivals)
  | _ + 1, [] => ([], [])
  | n + 1, .interrupted :: r => gather (n + 1) r
  | n + 1, .stretch b more :: r =>
    let taken := (b :: more).take (n + 1)
    let left := (b :: more).drop (n + 1)
    match left with
    | [] =>
      let (further, after) := gather (n + 1 - taken.length) r
      (taken ++ further, after)
    | c :: d => (taken, .stretch c d :: r)

/-- Reads until `count` bytes are there or the source ends; a fault drops what was read. -/
def readUpTo (count : Nat) (s : Source) : Except SystemFault Bytes × Source :=
  let (taken, after) := gather count s.arrivals
  let s' := { s with arrivals := after }
  if taken.length < count then
    match s.fault with
    | none => (.ok taken, s')
    | some f => (.error f, s')
  else (.ok taken, s')

end Source

end HalBench
