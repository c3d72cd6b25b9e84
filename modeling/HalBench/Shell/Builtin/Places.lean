import HalBench.Shell.Lookup
/-!
# Commands about places

The current directory, which has the name under which it was entered, and the rights that new files
do not get.
-/

namespace HalBench.Shell.Builtin

/-- The name of a directory that a path leads to from one of a name: names of the directory itself
are left out, and those of the one above take the name before them away. -/
def nameFrom (base path : Text) : Text :=
  let absolute := path.head? == some '/'
  let double := match path with
    | '/' :: '/' :: c :: _ => c != '/'
    | ['/', '/'] => true
    | _ => false
  let before := if absolute then [] else (cutAt '/' base).filter (!·.isEmpty)
  let double := if absolute then double else ['/', '/'].isPrefixOf base
  let names := (cutAt '/' path).foldl (fun (names : List Text) n =>
    if n.isEmpty || n == ['.'] then names
    else if n == ['.', '.'] then names.dropLast
    else names ++ [n]) before
  (if double then ['/', '/'] else ['/']) ++ joinWith ['/'] names

def enter (physical : Bool) (path : Text) : Action Bool := do
  let s ← get
  let name := nameFrom s.directoryName path
  match s.files.locate true (toBytes (if physical then path else name)) with
  | .ok (.present names .directory) =>
    let s := { s with files := { s.files with current := names } }
    let name := if physical then s.directory else name
    let old := s.directoryName
    set { s with directoryName := name }
    Action.assign "OLDPWD" old
    Action.assign "PWD" name
    modify fun s =>
      let mark (s : State) (v : String) : State :=
        s.bind v ((s.binding? v).map fun b => { b with isExported := true })
      mark (mark s "OLDPWD") "PWD"
    return true
  | _ => return false

def isDotted (path : Text) : Bool :=
  match path with
  | ['.'] => true
  | ['.', '.'] => true
  | '.' :: '/' :: _ => true
  | '.' :: '.' :: '/' :: _ => true
  | _ => false

def cd (words : List Text) : Action Nat := do
  let (flags, words) ← readOptions "LP" words
  let physical := (flags.getLast?.map (·.1)) == some 'P'
  let s ← get
  let (target, shows) : Text × Bool := match words with
    | [] => ((s.value? "HOME").getD [], false)
    | ['-'] :: _ => ((s.value? "OLDPWD").getD [], true)
    | word :: _ => (word, false)
  let candidates : List (Text × Bool) :=
    if target.head? == some '/' || isDotted target then []
    else
      let name := if target.isEmpty then ['.'] else target
      (cutAt ':' ((s.value? "CDPATH").getD [])).map fun dir =>
        if dir.isEmpty then (name, false) else (dir ++ '/' :: name, true)
  let isDirectory (path : Text) : Bool :=
    match s.files.look true (toBytes path) with
    | .ok .directory => true
    | _ => false
  let (path, found) := (candidates.find? fun c => isDirectory c.1).getD (target, false)
  if ← enter physical path then
    if shows || found then Action.print ((← get).directoryName ++ ['\n'])
    return 0
  else Action.fail (ofString "can't cd to " ++ target)

def pwd (words : List Text) : Action Nat := do
  let (flags, _) ← readOptions "LP" words
  let s ← get
  Action.print ((if (flags.getLast?.map (·.1)) == some 'P' then s.directory else s.directoryName)
    ++ ['\n'])
  return 0

/-- The rights of one kind of user that letters name, given the rights of all. -/
def rightsOf (rights : Nat) (letters : List Char) : Nat :=
  letters.foldl (fun n c => n ||| match c with
    | 'r' => 4
    | 'w' => 2
    | 'x' => 1
    | 'X' => 1
    | 'u' => rights / 64 % 8
    | 'g' => rights / 8 % 8
    | 'o' => rights % 8
    | _ => 0) 0

def changeRights (who : List Char) (op : Char) (bits rights : Nat) : Nat :=
  let one (letter : Char) (unit : Nat) (n : Nat) : Nat :=
    if !(who.isEmpty || who.contains letter || who.contains 'a') then n
    else
      let old := n / unit % 8
      let new := match op with
        | '+' => old ||| bits
        | '-' => old - (old &&& bits)
        | _ => bits
      n - old * unit + new * unit
  one 'o' 1 (one 'g' 8 (one 'u' 64 rights))

/-- Rights as a list of changes leaves them; none if it is no such list. -/
def changedRights? : Nat → List Char → Text → Nat → Option Nat
  | 0, _, _, rights => some rights
  | _ + 1, _, [], rights => some rights
  | fuel + 1, who, c :: r, rights =>
    if c == ',' then changedRights? fuel [] r rights
    else if ['u', 'g', 'o', 'a'].contains c then changedRights? fuel (c :: who) r rights
    else if ['+', '-', '='].contains c then
      let letters := r.takeWhile fun d => ['r', 'w', 'x', 'X', 's', 't', 'u', 'g', 'o'].contains d
      changedRights? fuel who (r.drop letters.length)
        (changeRights who c (rightsOf rights letters) rights)
    else none

def showRights (rights : Nat) : Text :=
  let one (letter : Char) (n : Nat) : Text :=
    letter :: '=' :: (if n / 4 % 2 = 1 then ['r'] else []) ++ (if n / 2 % 2 = 1 then ['w'] else [])
      ++ (if n % 2 = 1 then ['x'] else [])
  joinWith [','] [one 'u' (rights / 64), one 'g' (rights / 8), one 'o' rights]

def umask (words : List Text) : Action Nat := do
  let (flags, words) ← readOptions "S" words
  let s ← get
  match words with
  | [] =>
    if flags.isEmpty then
      let digits := Nat.toDigits 8 s.mask
      Action.print (List.replicate (4 - digits.length) '0' ++ digits ++ ['\n'])
    else Action.print (showRights (511 - s.mask) ++ ['\n'])
    return 0
  | word :: _ =>
    if (word.head?.map Char.isDigit).getD false then
      if word.any fun c => 8 ≤ digitValue c then Action.fail (ofString "Illegal number: " ++ word)
      set { s with mask := (digitsIn 8 word).1 % 512 }
      return 0
    else
      match changedRights? (word.length + 1) [] word (511 - s.mask) with
      | some rights =>
        set { s with mask := 511 - rights }
        return 0
      | none => Action.fail (ofString "Illegal mode: " ++ word)

end HalBench.Shell.Builtin
