import HalBench.Shell.State
/-!
# Opening files

A redirection lets a descriptor lead to a file, a device, another descriptor or a text.
-/

namespace HalBench.Shell

def openFault (making : Bool) (fault : SystemFault) : String :=
  if fault = .noSuchFile || fault = .notADirectory then
    if making then "Directory nonexistent" else "No such file"
  else fault.description

namespace Opening

/-- The channel of a device; a descriptor of the process leads where it leads already. -/
def device (s : State) : Files.Device → Except SystemFault (Nat × State)
  | .null => .ok (s.newChannel .null)
  | .full => .ok (s.newChannel .full)
  | .zero => .ok (s.newChannel (.supply (List.replicate 65536 '\x00') 0))
  | .terminal => .error .noSuchDevice
  | .descriptor n =>
    match s.descriptors.lookup n with
    | some c => .ok (c, s)
    | none => .error .noSuchFile

def toRead (s : State) (path : Text) : Except SystemFault (Nat × State) := do
  match ← s.files.locate true (toBytes path) with
  | .present names (.file ..) => return s.newChannel (.file names 0 true false false)
  | .present _ .directory => return s.newChannel .directory
  | .present _ (.device d) => device s d
  | .present _ (.program name) => return s.newChannel (.supply name.toList 0)
  | .present _ .socket => throw .noSuchDevice
  | .present _ (.link _) => throw .tooManyLinks
  | .absent .. => throw .noSuchFile

/-- Opens a file for writing, and for reading if asked for; it is made if it is not there, unless
it must be. What it holds is kept or not. -/
def toWrite (s : State) (path : Text) (reads keeps appends : Bool) :
    Except SystemFault (Nat × State) := do
  let (names, node) ← s.files.openWrite (toBytes path)
  match node with
  | some (.device d) => device s d
  | node =>
    let files := if keeps && node.isSome then s.files else s.files.fill (names, node) []
    return { s with files }.newChannel (.file names 0 reads true appends)

/-- Whether a file is there that must not be overwritten, or a link that leads nowhere. -/
def isKept (s : State) (path : Text) : Bool :=
  match s.files.look true (toBytes path), s.files.look false (toBytes path) with
  | .ok (.file ..), _ => true
  | .ok (.program _), _ => true
  | .error _, .ok (.link _) => true
  | _, _ => false

def channel (s : State) (kind : RedirectionKind) (path : Text) :
    Except Text (Nat × State) :=
  let fault (making : Bool) (f : SystemFault) : Text :=
    ofString (if making then "cannot create " else "cannot open ") ++ path
      ++ ofString (": " ++ openFault making f)
  match kind with
  | .input => (toRead s path).mapError (fault false)
  | .inputOutput => (toWrite s path true true false).mapError (fault true)
  | .append => (toWrite s path false true true).mapError (fault true)
  | .output =>
    if s.has .noclobber then
      if isKept s path then .error (fault true .fileExists)
      else (toWrite s path false false false).mapError fun f => fault (f != .isADirectory) f
    else (toWrite s path false false false).mapError (fault true)
  | _ => (toWrite s path false false false).mapError (fault true)

def descriptorOf (word : Text) : Action (Option Nat) := do
  match word with
  | ['-'] => return none
  | [c] => if c.isDigit then return some (c.toNat - 48) else Action.fail (ofString fault)
  | _ => Action.fail (ofString fault)
where
  /-- What is said of a word that names no descriptor. -/
  fault : String := "Syntax error: Bad fd number"

end Opening

/-- What a redirection with an expanded target does; a document is expanded only then. -/
inductive Opened where
  | file (descriptor : Nat) (kind : RedirectionKind) (path : Text)
  | copy (descriptor : Nat) (source : Option Nat)
  | document (descriptor : Nat) (content : Word)

namespace Opened

def descriptor : Opened → Nat
  | file d .. => d
  | copy d _ => d
  | document d _ => d

def carryOut (expand : Word → Action Text) (o : Opened) : Action Unit := do
  let s ← get
  match o with
  | file d kind path =>
    match Opening.channel s kind path with
    | .ok (n, s) => set (s.point d n)
    | .error reason => Action.fail reason
  | copy d none => set (s.close d)
  | copy d (some source) =>
    if source != d then
      match s.descriptors.lookup source with
      | some n => set (s.point d n)
      | none => Action.fail (showNat source ++ ofString ": Bad file descriptor")
  | document d content => do
    let text ← expand content
    modify fun s => s.connect d (.supply text 0)

end Opened

end HalBench.Shell
