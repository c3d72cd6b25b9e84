/-!
# Counting notifications

Notifications are counted up to the greatest word of 32 bits, and each successful wait takes one
away. A wait ends at the next notification, or at its deadline if none has come by then.
-/

namespace HalBench

/-- How many notifications were not waited for yet. -/
structure Notifier where
  pending : Nat := 0
  deriving DecidableEq, Repr, Inhabited

namespace Notifier

def most : Nat := 4294967295

def notify (n : Notifier) : Notifier := ⟨min (n.pending + 1) most⟩

def take? (n : Notifier) : Option Notifier :=
  match n.pending with
  | 0 => none
  | k + 1 => some ⟨k⟩

/-- How a wait ends, and the notifications that are still to come. -/
structure Outcome where
  notified : Bool
  notifier : Notifier
  coming : List Nat
  deriving DecidableEq, Repr

/-- Waits, while notifications come at the given times. Without a deadline, and with none to
come, the wait does not end. -/
def wait (n : Notifier) (deadline : Option Nat) : List Nat → Option Outcome
  | [] =>
    match n.take?, deadline with
    | some m, _ => some ⟨true, m, []⟩
    | none, some _ => some ⟨false, n, []⟩
    | none, none => none
  | time :: later =>
    match n.take? with
    | some m => some ⟨true, m, time :: later⟩
    | none =>
      if deadline.all (time ≤ ·) then wait n.notify deadline later
      else some ⟨false, n, time :: later⟩

end Notifier

end HalBench
