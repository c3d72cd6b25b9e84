import HalBench.Number.Binary
/-!
# Spans of time
-/

namespace HalBench

/-- A span of time in nanoseconds. -/
abbrev Duration := Nat

namespace Duration

def second : Nat := 1000000000

def millisecond : Nat := 1000000

/-- A span in milliseconds of double precision: the whole seconds plus the fraction, times a
thousand. -/
def milliseconds (d : Duration) : Binary :=
  let whole := Binary.ofNat .double (d / second)
  let fraction := (Binary.ofNat .double (d % second)).div .double (.ofNat .double second)
  (whole.add .double fraction).mul .double (.ofNat .double 1000)

def fractionDigits (places n : Nat) : List Char :=
  let digits := Nat.toDigits 10 n
  let padded := List.replicate (places - digits.length) '0' ++ digits
  (padded.reverse.dropWhile (· == '0')).reverse

def inUnit (d : Duration) (places : Nat) (unit : String) : String :=
  let fraction := fractionDigits places (d % tenTo places)
  toString (d / tenTo places)
    ++ (if fraction = [] then "" else "." ++ String.ofList fraction) ++ unit

/-- The text of a span, in the greatest unit that it fills. -/
def display (d : Duration) : String :=
  if second ≤ d then d.inUnit 9 "s"
  else if millisecond ≤ d then d.inUnit 6 "ms"
  else if 1000 ≤ d then d.inUnit 3 "µs"
  else d.inUnit 0 "ns"

end Duration

end HalBench
