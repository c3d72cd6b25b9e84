import HalBench.Shell.Text
/-!
# The order of versions

Names with numbers in them are put in the order in which a reader would put them: digits count as
numbers, and endings such as those of files count last.
-/

namespace HalBench.Shell.Version

def weight : Text → Int
  | [] => -1
  | c :: _ =>
    if c.isDigit then 0
    else if c.isAlpha then c.toNat
    else if c == '~' then -2
    else c.toNat + 256

def compareParts : Nat → Text → Text → Ordering
  | 0, _, _ => .eq
  | fuel + 1, a, b =>
    let isPlain (x : Text) : Bool := (x.head?.map fun c => !c.isDigit).getD false
    if a.isEmpty && b.isEmpty then .eq
    else if isPlain a || isPlain b then
      match compare (weight a) (weight b) with
      | .eq => compareParts fuel (a.drop 1) (b.drop 1)
      | other => other
    else
      let digitsOf (x : Text) : Text := (x.dropWhile (· == '0')).takeWhile Char.isDigit
      let after (x : Text) : Text := (x.dropWhile (· == '0')).dropWhile Char.isDigit
      match compare (natOf (digitsOf a)) (natOf (digitsOf b)) with
      | .eq => compareParts fuel (after a) (after b)
      | other => other

/-- A part of an ending: letters, digits and tildes that do not start with a digit. -/
def isEnding (part : Text) : Bool :=
  match part with
  | c :: r => (c.isAlpha || c == '~') && r.all fun d => d.isAlphanum || d == '~'
  | [] => false

def stem (name : Text) : Text :=
  match cutAt '.' name with
  | first :: rest =>
    let endings := rest.reverse.takeWhile isEnding
    let kept := rest.take (rest.length - endings.length)
    if first.isEmpty && kept.isEmpty then
      match rest with
      | second :: _ => if name.isEmpty then [] else '.' :: second
      | [] => []
    else joinWith ['.'] (first :: kept)
  | [] => name

def rank (name : Text) : Nat :=
  match name with
  | [] => 0
  | ['.'] => 1
  | ['.', '.'] => 2
  | '.' :: _ => 3
  | _ => 4

def order (a b : Text) : Ordering :=
  match compare (rank a) (rank b) with
  | .eq =>
    let fuel := a.length + b.length + 2
    if rank a < 3 then .eq
    else
      match compareParts fuel (stem a) (stem b) with
      | .eq => compareParts fuel a b
      | other => other
  | other => other

end HalBench.Shell.Version
