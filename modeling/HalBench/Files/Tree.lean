import HalBench.Files.Path
import HalBench.Stream.Source
/-!
# Trees of files

Files, directories, links, devices and programs under absolute names. `Tree.locate` resolves a path
as the operating system does: name by name, following symbolic links up to a bound.
-/

namespace HalBench.Files

/-- What stands behind a device: one takes everything and gives nothing, one never has room, one
gives zeros, one is a terminal at which nobody sits, and one is a descriptor of the process that
opens it. -/
inductive Device where
  | null
  | full
  | zero
  | terminal
  | descriptor (n : Nat)
  deriving DecidableEq, Repr

inductive Node where
  | file (content : Bytes) (executable : Bool)
  | directory
  | link (target : Path)
  | socket
  | device (d : Device)
  | program (name : String)
  deriving DecidableEq, Repr

instance : Inhabited Node := ⟨.directory⟩

/-- Nodes under absolute names, and the directory from which relative paths start. A new file can
take `room` bytes, if that is bounded, and handing it to the disk may fail. -/
structure Tree where
  nodes : List (List Bytes × Node) := []
  current : List Bytes := []
  room : Option Nat := none
  syncFault : Option SystemFault := none
  deriving Repr, Inhabited

/-- Where a path leads: to a node, or to a free name in a directory. -/
inductive Place where
  | present (names : List Bytes) (node : Node)
  | absent (directory : List Bytes) (name : Bytes)
  deriving DecidableEq, Repr

def here : Bytes := [46]

def above : Bytes := [46, 46]

def maxLinks : Nat := 40

def maxName : Nat := 255

def maxPath : Nat := 4096

/-- Why a path is resolved: for the node behind it, for the name itself, which may be a link, or
to write into a file, which is made if it is not there and has no slash after its name. -/
inductive Purpose where
  | node
  | name
  | write
  deriving DecidableEq, Repr

namespace Path

def hasTrailingSlash (p : Path) : Bool := p.getLast? == some slash

/-- The names to walk along; a trailing slash leaves an empty name, which asks for a directory. -/
def steps (p : Path) : List Bytes :=
  names p ++ (if hasTrailingSlash p then [[]] else [])

/-- A path without the slashes and the names of the directory itself at its end. -/
def trimEnd (p : Path) : Path :=
  go p.reverse
where
  /-- Works on the reversed path. -/
  go : Bytes → Bytes
    | 47 :: b :: r => go (b :: r)
    | 46 :: 47 :: r => go (47 :: r)
    | reversed => reversed.reverse

/-- The directory part of a path; none for an empty path and for the root. -/
def parent? (p : Path) : Option Path :=
  let q := trimEnd p
  if q = [] ∨ q = [slash] then none
  else
    let left := (q.reverse.dropWhile (· != slash)).reverse
    some (trimEnd left)

end Path

namespace Tree

def node? (t : Tree) (names : List Bytes) : Option Node :=
  if names = [] then some .directory else t.nodes.lookup names

def put (t : Tree) (names : List Bytes) (node : Node) : Tree :=
  { t with nodes := (names, node) :: t.nodes.filter fun n => n.1 != names }

def erase (t : Tree) (names : List Bytes) : Tree :=
  { t with nodes := t.nodes.filter fun n => n.1 != names }

def walk (t : Tree) (purpose : Purpose) (links : Nat) (dir : List Bytes) :
    List Bytes → Except SystemFault Place
  | [] => .ok (.present dir .directory)
  | name :: rest =>
    if name = here ∨ name = [] then walk t purpose links dir rest
    else if name = above then walk t purpose links dir.dropLast rest
    else if purpose = .write ∧ rest = [[]] then .error .isADirectory
    else if maxName < name.length then .error .nameTooLong
    else
      let names := dir ++ [name]
      match t.node? names with
      | none => if rest = [] ∨ rest = [[]] then .ok (.absent dir name) else .error .noSuchFile
      | some .directory => walk t purpose links names rest
      | some (.link target) =>
        if rest = [] ∧ purpose = .name then .ok (.present names (.link target))
        else
          match links with
          | 0 => .error .tooManyLinks
          | links + 1 =>
            walk t purpose links (if target.isAbsolute then [] else dir)
              (target.steps ++ rest)
      | some node =>
        if rest = [] then .ok (.present names node) else .error .notADirectory
  termination_by pending => (links, pending.length)

def start (t : Tree) (p : Path) : List Bytes := if p.isAbsolute then [] else t.current

def locateFor (t : Tree) (purpose : Purpose) (p : Path) : Except SystemFault Place :=
  if p.contains 0 then .error .nulInPath
  else if p = [] then .error .noSuchFile
  else if maxPath ≤ p.length then .error .nameTooLong
  else t.walk purpose maxLinks (t.start p) p.steps

def locate (t : Tree) (follow : Bool) (p : Path) : Except SystemFault Place :=
  t.locateFor (if follow then .node else .name) p

def look (t : Tree) (follow : Bool) (p : Path) : Except SystemFault Node := do
  match ← t.locate follow p with
  | .present _ node => .ok node
  | .absent .. => .error .noSuchFile

def isFile (t : Tree) (p : Path) : Bool :=
  match t.look true p with
  | .ok (.file ..) => true
  | _ => false

def children (t : Tree) (dir : List Bytes) : List Bytes :=
  t.nodes.filterMap fun (names, _) =>
    match names.getLast? with
    | some name => if names = dir ++ [name] then some name else none
    | none => none

def list (t : Tree) (p : Path) : Except SystemFault (List Bytes) := do
  match ← t.locate true p with
  | .present names .directory => .ok (t.children names)
  | .present .. => .error .notADirectory
  | .absent .. => .error .noSuchFile

/-- Opens a path for reading. A directory can be opened but not read. -/
def openRead (t : Tree) (p : Path) : Except SystemFault Source := do
  match ← t.look true p with
  | .file content _ => .ok (.ofBytes content)
  | .directory => .ok ⟨[], some .isADirectory⟩
  | .device .terminal => .error .noSuchDevice
  | .device _ => .ok (.ofBytes [])
  | .program name => .ok (.ofBytes (Utf8.bytes name))
  | .socket => .error .noSuchDevice
  | .link _ => .error .tooManyLinks

def read (t : Tree) (p : Path) : Except SystemFault Bytes := do
  let s ← t.openRead p
  match s.fault with
  | some f => .error f
  | none => .ok s.remaining

def openWrite (t : Tree) (p : Path) : Except SystemFault (List Bytes × Option Node) := do
  match ← t.locateFor .write p with
  | .present names (.file content executable) => .ok (names, some (.file content executable))
  | .present _ (.device .terminal) => .error .noSuchDevice
  | .present names (.device d) => .ok (names, some (.device d))
  | .present _ .directory => .error .isADirectory
  | .present _ .socket => .error .noSuchDevice
  | .present _ (.program _) => .error .textBusy
  | .present _ (.link _) => .error .tooManyLinks
  | .absent dir name => .ok (dir ++ [name], none)

def fill (t : Tree) (target : List Bytes × Option Node) (content : Bytes) : Tree :=
  match target.2 with
  | some (.device _) => t
  | some (.file _ executable) => t.put target.1 (.file content executable)
  | _ => t.put target.1 (.file content false)

def write (t : Tree) (p : Path) (content : Bytes) : Except SystemFault Tree := do
  let target ← t.openWrite p
  return t.fill target content

def append (t : Tree) (p : Path) (more : Bytes) : Except SystemFault Tree := do
  let target ← t.openWrite p
  match target.2 with
  | some (.file content _) => return t.fill target (content ++ more)
  | _ => return t.fill target more

def remove (t : Tree) (p : Path) : Except SystemFault Tree := do
  match ← t.locate false p with
  | .present _ .directory => .error .isADirectory
  | .present names _ => .ok (t.erase names)
  | .absent .. => .error .noSuchFile

def freeName (t : Tree) (p : Path) : Except SystemFault (List Bytes) := do
  match ← t.locate false p with
  | .present .. => .error .fileExists
  | .absent dir name => .ok (dir ++ [name])

def makeLink (t : Tree) (target p : Path) : Except SystemFault Tree := do
  let names ← t.freeName p
  return t.put names (.link target)

def makeDirectory (t : Tree) (p : Path) : Except SystemFault Tree := do
  let names ← t.freeName p
  return t.put names .directory

/-- The names under which a file can be put in the place of a path. -/
def replaceable (t : Tree) (p : Path) : Except SystemFault (List Bytes) := do
  if p.contains 0 then .error .invalidArgument
  else if p = [] then .error .noSuchFile
  else if maxPath ≤ p.length then .error .nameTooLong
  else
    let names := p.names
    let last := (names.getLast?).getD here
    match ← t.walk .node maxLinks (t.start p) (names.dropLast) with
    | .present dir .directory =>
      if maxName < last.length then .error .nameTooLong
      else if last = here ∨ last = above then .error .busy
      else if p.hasTrailingSlash then .error .notADirectory
      else if t.node? (dir ++ [last]) = some .directory then .error .isADirectory
      else .ok (dir ++ [last])
    | .present .. => .error .notADirectory
    | .absent .. => .error .noSuchFile

def freshName (t : Tree) (dir : List Bytes) : Bytes :=
  let stem := Utf8.bytes ".tmp"
  let candidates := (List.range (t.nodes.length + 1)).map fun n =>
    stem ++ Utf8.bytes (toString n)
  (candidates.find? fun name => (t.node? (dir ++ [name])).isNone).getD stem

end Tree

end HalBench.Files
