import HalBench.Shell.Utility.Basic
/-!
# Dumps of bytes

A program that prints the bytes of texts as numbers or characters, some in each line, with their
offsets.
-/

namespace HalBench.Shell.Utility

namespace Dump

/-- How bytes are shown: as characters, as names, or as numbers of some bytes in a base, of which
those in base ten may have a sign. -/
inductive Kind where
  | characters
  | names
  | number (base size : Nat) (isSigned : Bool)
  deriving DecidableEq, Repr

structure Style where
  kind : Kind
  hasText : Bool := false

namespace Kind

def size : Kind → Nat
  | number _ n _ => n
  | _ => 1

def width : Kind → Nat
  | characters => 3
  | names => 3
  | number 8 n _ => (8 * n + 2) / 3
  | number 16 n _ => 2 * n
  | number _ n isSigned =>
    let digits := (showNat (twoTo (if isSigned then 8 * n - 1 else 8 * n))).length
    if isSigned then digits + 1 else digits

def byteNames : List String :=
  ["nul", "soh", "stx", "etx", "eot", "enq", "ack", "bel", "bs", "ht", "nl", "vt", "ff", "cr", "so",
    "si", "dle", "dc1", "dc2", "dc3", "dc4", "nak", "syn", "etb", "can", "em", "sub", "esc", "fs",
    "gs", "rs", "us", "sp"]

def show' (k : Kind) (bytes : Text) : Text :=
  let c := bytes.headD '\x00'
  match k with
  | characters =>
    if c == '\x00' then ['\\', '0']
    else if ['\x07', '\x08', '\x0c', '\n', '\r', '\t', '\x0b'].contains c then escapeOf c
    else if ' ' ≤ c && c ≤ '~' then [c]
    else
      let digits := Nat.toDigits 8 c.toNat
      List.replicate (3 - digits.length) '0' ++ digits
  | names =>
    let n := c.toNat % 128
    if n = 127 then ofString "del"
    else if n < 33 then ofString (byteNames.getD n "")
    else [Char.ofNat n]
  | number base size isSigned =>
    let n := bytes.reverse.foldl (fun n c => n * 256 + c.toNat) 0
    if base = 10 then
      let bound := twoTo (8 * size - 1)
      showInt (if isSigned && bound ≤ n then (n : Int) - 2 * bound else n)
    else
      let digits := Nat.toDigits base n
      List.replicate (k.width - digits.length) '0' ++ digits

end Kind

/-- A text in pieces of a size; the last one may be filled up with zeros. -/
def pieces (size : Nat) (fills : Bool) : Nat → Text → List Text
  | 0, _ => []
  | fuel + 1, s =>
    if s.isEmpty then []
    else
      let front := s.take size
      (front ++ (if fills then List.replicate (size - front.length) '\x00' else []))
        :: pieces size fills fuel (s.drop size)

/-- The items of a line, which together have a width; what they do not fill is put between them. -/
def items (k : Kind) (perLine lineWidth : Nat) (bytes : Text) : Text :=
  let fields := perLine / k.size
  let pad := lineWidth - (k.width + 1) * fields
  let found := pieces k.size true (bytes.length + 1) bytes
  (found.zipIdx).flatMap fun (b, i) =>
    let before := pad * (fields - i) / fields
    let after := pad * (fields - i - 1) / fields
    padLeft (k.width + 1 + (before - after)) (k.show' b)

def offset (base : Char) (n : Nat) : Text :=
  let inBase (b width : Nat) : Text :=
    let digits := Nat.toDigits b n
    List.replicate (width - digits.length) '0' ++ digits
  match base with
  | 'd' => inBase 10 7
  | 'x' => inBase 16 6
  | 'n' => []
  | _ => inBase 8 7

def lines (styles : List Style) (base : Char) (perLine : Nat) (all : Bool) (first : Nat)
    (bytes : Text) : Text :=
  let lineWidth := styles.foldl (fun n s => max n ((s.kind.width + 1) * (perLine / s.kind.size))) 0
  let shown (at' : Nat) (line : Text) : Text :=
    (styles.zipIdx).flatMap fun (s, i) =>
      let lead := if i = 0 then offset base at' else (offset base 0).map fun _ => ' '
      let body := items s.kind perLine lineWidth line
      let text := if s.hasText then
          padRight lineWidth body ++ ofString "  >"
            ++ (line.map fun c => if ' ' ≤ c && c ≤ '~' then c else '.') ++ ['<']
        else body
      lead ++ text ++ ['\n']
  let (_, _, _, found) := (pieces perLine false (bytes.length + 1) bytes).foldl
    (fun ((at' : Nat), (last : Option Text), (starred : Bool), (found : List Text)) line =>
      if !all && last == some line && line.length = perLine then
        (at' + line.length, last, true, if starred then found else ['*', '\n'] :: found)
      else (at' + line.length, some line, false, shown at' line :: found)) (first, none, false, [])
  let final := if base == 'n' then [] else offset base (first + bytes.length) ++ ['\n']
  found.reverse.flatten ++ final

def stylesOf (whole : Text) : Nat → Text → Except Text (List Style)
  | 0, _ => .ok []
  | _ + 1, [] => .ok []
  | fuel + 1, c :: r => do
    let digits := r.takeWhile Char.isDigit
    let rest := r.drop digits.length
    let (size, rest) : Nat × Text :=
      if !digits.isEmpty then (natOf digits, rest)
      else
        match rest with
        | 'C' :: r => (1, r)
        | 'S' :: r => (2, r)
        | 'I' :: r => (4, r)
        | 'L' :: r => (8, r)
        | r => (4, r)
    let (kind, rest) ← match c with
      | 'a' => pure (Kind.names, r)
      | 'c' => pure (Kind.characters, r)
      | 'd' => pure (Kind.number 10 size true, rest)
      | 'u' => pure (Kind.number 10 size false, rest)
      | 'o' => pure (Kind.number 8 size false, rest)
      | 'x' => pure (Kind.number 16 size false, rest)
      | c =>
        throw (ofString "invalid character '" ++ c :: ofString "' in type string " ++ quote whole)
    if !([1, 2, 4, 8].contains kind.size) then
      throw (ofString "invalid type string " ++ quote whole
        ++ ofString (";\nthis system doesn't provide a ") ++ showNat kind.size
        ++ ofString "-byte integral type")
    let (hasText, rest) : Bool × Text := match rest with
      | 'z' :: r => (true, r)
      | r => (false, r)
    return ⟨kind, hasText⟩ :: (← stylesOf whole fuel rest)

def stylesIn (o : List Given) : Except Text (List Style) := do
  let found ← o.mapM fun g =>
    match g.1 with
    | 't' => stylesOf g.2 (g.2.length + 1) g.2
    | 'a' => .ok [⟨.names, false⟩]
    | 'b' => .ok [⟨.number 8 1 false, false⟩]
    | 'c' => .ok [⟨.characters, false⟩]
    | 'd' => .ok [⟨.number 10 2 false, false⟩]
    | 'i' => .ok [⟨.number 10 4 true, false⟩]
    | 'l' => .ok [⟨.number 10 8 true, false⟩]
    | 'o' => .ok [⟨.number 8 2 false, false⟩]
    | 's' => .ok [⟨.number 10 2 true, false⟩]
    | 'x' => .ok [⟨.number 16 2 false, false⟩]
    | _ => .ok []
  let styles := found.flatten
  return if styles.isEmpty then [⟨.number 8 2 false, false⟩] else styles

end Dump

open Dump in
def od : Utility := fun words =>
  withOptions
    { letters := "A:aBbcDdeFfHhIij:LlN:OoS:st:vw::Xx"
      names := [("address-radix", 'A', .needed), ("format", 't', .needed),
        ("skip-bytes", 'j', .needed), ("read-bytes", 'N', .needed),
        ("output-duplicates", 'v', .none), ("width", 'w', .possible)] } 1 words
    fun o names => do
      let base := ((value? o 'A').getD []).headD 'o'
      if !(['d', 'o', 'x', 'n'].contains base) then
        refuse 1 (ofString "invalid output address radix '" ++ base
          :: ofString "'; it must be one character from [doxn]")
      else
        match stylesIn o with
        | .error text => refuse 1 text
        | .ok styles =>
          let number (c : Char) : Option Nat := (value? o c).bind amount?
          let (status, text) ← (if names.isEmpty then [['-']] else names).foldlM
            (fun (status, text) name => do
              match ← content name with
              | .ok more => return (status, text ++ more)
              | .error fault =>
                complainOf [] (shown name) fault
                return (1, text)) (0, ([] : Text))
          let skip := (number 'j').getD 0
          let rest := text.drop skip
          let rest := match number 'N' with
            | some n => rest.take n
            | none => rest
          let perLine := match value? o 'w' with
            | some [] => 32
            | some w => (natural? w).getD 16
            | none => 16
          let opened := status = 0 || !text.isEmpty || 1 < names.length
          let files := (← get).files
          if opened || names.any fun n => (files.look true (toBytes n)).isOk then
            Action.print (Dump.lines styles base perLine (has o 'v') skip rest)
          return status
where
  /-- A number in decimal, octal or hexadecimal. -/
  amount? (w : Text) : Option Nat :=
    match integer? none w with
    | some (n, []) => if n < 0 then none else some n.toNat
    | _ => none

end HalBench.Shell.Utility
