import HalBench.Text.Utf8
/-!
# Paths

A path is a byte string in which slashes separate names.
-/

namespace HalBench.Files

/-- The name of a file, or names separated by slashes. -/
abbrev Path := Bytes

namespace Path

def ofString (s : String) : Path := Utf8.bytes s

def display (p : Path) : String := Utf8.stringLossy p

def slash : UInt8 := 47

def names : Path → List Bytes
  | [] => []
  | b :: r =>
    if b = slash then names r
    else
      match r with
      | [] => [[b]]
      | c :: _ =>
        if c = slash then [b] :: names r
        else
          match names r with
          | [] => [[b]]
          | n :: rest => (b :: n) :: rest

def isAbsolute (p : Path) : Bool := p.head? == some slash

/-- A path below a directory; an absolute one stays as it is. -/
def join (dir p : Path) : Path :=
  if isAbsolute p || dir == [] then p
  else if dir.getLast? == some slash then dir ++ p
  else dir ++ slash :: p

def nameLe : Bytes → Bytes → Bool
  | [], _ => true
  | _ :: _, [] => false
  | a :: r, b :: s => a < b || (a == b && nameLe r s)

end Path

end HalBench.Files
