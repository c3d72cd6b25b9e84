import HalBench.Shell.Utility.Paths
import HalBench.Shell.Utility.Version
/-!
# Listings of directories

A program that prints the names in directories.
-/

namespace HalBench.Shell.Utility

namespace Listing

/-- How names are laid out: one a line, in columns filled downwards or across, or in one text with
commas. -/
inductive Shape where
  | lines
  | down
  | across
  | commas
  deriving DecidableEq, Repr

structure Style where
  all : Bool := false
  almostAll : Bool := false
  ignoresBackups : Bool := false
  classifies : Bool := false
  marksDirectories : Bool := false
  quotes : Bool := false
  reversed : Bool := false
  recursive : Bool := false
  unsorted : Bool := false
  bySize : Bool := false
  byVersion : Bool := false
  byEnding : Bool := false
  shape : Shape := .lines
  lineEnd : Char := '\n'

structure Entry where
  name : Text
  node : Files.Node

def Entry.size (e : Entry) : Nat :=
  match e.node with
  | .file content _ => content.length
  | .directory => 4096
  | .link target => target.length
  | _ => 0

def ending (name : Text) : Text :=
  let last := name.reverse.takeWhile (· != '.')
  if last.length < name.length then '.' :: last.reverse else []

def Style.sort (k : Style) (es : List Entry) : List Entry :=
  if k.unsorted then es
  else
    let byName (a b : Entry) : Ordering :=
      if a.name == b.name then .eq else if textLe a.name b.name then .lt else .gt
    let order (a b : Entry) : Ordering :=
      if k.bySize then (compare b.size a.size).then (byName a b)
      else if k.byVersion then (Version.order a.name b.name).then (byName a b)
      else if k.byEnding then
        let x := ending a.name
        let y := ending b.name
        (if x == y then Ordering.eq else if textLe x y then .lt else .gt).then (byName a b)
      else byName a b
    let sorted := es.mergeSort fun a b => order a b != .gt
    if k.reversed then sorted.reverse else sorted

def Style.name (k : Style) (e : Entry) : Text :=
  let name := if k.quotes then '"' :: (e.name.flatMap fun c =>
      if c == '"' || c == '\\' then ['\\', c] else if c < ' ' then escapeOf c else [c]) ++ ['"']
    else e.name
  let mark : Text := match e.node with
    | .directory => if k.classifies || k.marksDirectories then ['/'] else []
    | .link _ => if k.classifies then ['@'] else []
    | .socket => if k.classifies then ['='] else []
    | .file _ true => if k.classifies then ['*'] else []
    | .program _ => if k.classifies then ['*'] else []
    | _ => []
  name ++ mark

def lineWidth : Nat := 80

def withCommas (names : List Text) : Text :=
  let (_, parts) := names.foldl (fun ((column : Nat), (parts : List Text)) n =>
    if parts.isEmpty then (n.length, [n])
    else if column + 2 + n.length < lineWidth then
      (column + 2 + n.length, n :: [',', ' '] :: parts)
    else (n.length, n :: [',', '\n'] :: parts)) (0, [])
  parts.reverse.flatten ++ ['\n']

def widths (across : Bool) (columns rows : Nat) (names : List Text) : List Nat :=
  (List.range columns).map fun c =>
    ((names.zipIdx).filter fun (_, i) => (if across then i % columns else i / rows) = c).foldl
      (fun w (n, _) => max w (n.length + (if c + 1 = columns then 0 else 2))) 0

def inColumns (across : Bool) (names : List Text) : Text :=
  let count := names.length
  let rowsFor (columns : Nat) : Nat := (count + columns - 1) / columns
  let fits (columns : Nat) : Bool :=
    let rows := rowsFor columns
    (across || (count + rows - 1) / rows = columns)
      && (widths across columns rows names).foldl (· + ·) 0 < lineWidth
  let candidates := ((List.range (min count 27)).map (· + 1)).reverse
  let columns := (candidates.find? fits).getD 1
  let rows := rowsFor columns
  let ws := widths across columns rows names
  ((List.range rows).map fun r =>
    let cells := (List.range columns).filterMap fun c =>
      (names[if across then r * columns + c else c * rows + r]?).map fun n => (c, n)
    let last := (cells.getLast?.map (·.1)).getD 0
    let row := cells.flatMap fun (c, n) => if c = last then n else padRight (ws.getD c 0) n
    row ++ ['\n']).flatten

def Style.show (k : Style) (es : List Entry) : Text :=
  let names := (k.sort es).map k.name
  if names.isEmpty then []
  else
    match k.shape with
    | .lines => names.flatMap (· ++ [k.lineEnd])
    | .commas => withCommas names
    | .down => inColumns false names
    | .across => inColumns true names

def Style.entries (k : Style) (s : State) (path : Text) : List Entry :=
  let names := ((s.files.list (toBytes path)).toOption.getD []).map ofBytes
  let shown := names.filter fun n =>
    (k.all || k.almostAll || n.head? != some '.') && !(k.ignoresBackups && n.getLast? == some '~')
  let found := shown.map fun n => ⟨n, (nodeAt? s false (below path n)).getD .directory⟩
  (if k.all then [⟨['.'], .directory⟩, ⟨['.', '.'], .directory⟩] else []) ++ found

/-- A directory with what is in it, and those below it if asked for; `fuel` bounds the depth. -/
def Style.directory (k : Style) (s : State) (headed : Bool) : Nat → Bool → Text → List Text
  | 0, _, _ => []
  | fuel + 1, isFirst, path =>
    let es := k.entries s path
    let head := if headed then (if isFirst then [] else ['\n']) ++ path ++ [':', '\n'] else []
    let inner := if k.recursive then
        (k.sort es).flatMap fun e =>
          if e.node == .directory && e.name != ['.'] && e.name != ['.', '.'] then
            k.directory s headed fuel false (below path e.name)
          else []
      else []
    (head ++ k.show es) :: inner

def known : Known :=
  { letters := "aAbBcCdDfFgGhHiI:klLmnNopqQrRsStT:uUvw:xXZ1"
    names := [("all", 'a', .none), ("almost-all", 'A', .none), ("escape", 'b', .none),
      ("ignore-backups", 'B', .none), ("color", 'K', .possible), ("directory", 'd', .none),
      ("classify", 'F', .possible), ("file-type", 'y', .none), ("full-time", 'l', .none),
      ("group-directories-first", 'j', .none), ("no-group", 'G', .none),
      ("human-readable", 'h', .none), ("dereference", 'L', .none),
      ("indicator-style", 'e', .needed), ("inode", 'i', .none), ("ignore", 'I', .needed),
      ("literal", 'N', .none),
      ("quote-name", 'Q', .none), ("reverse", 'r', .none), ("recursive", 'R', .none),
      ("size", 's', .none), ("sort", 'O', .needed), ("width", 'w', .needed),
      ("zero", 'z', .none)] }

def styleOf (o : List Given) : Style :=
  let lastOf (letters : String) : Option Char :=
    ((o.map (·.1)).filter letters.toList.contains).getLast?
  let shape := lastOf "1Cxmlgno"
  let sort := lastOf "SUtvXf"
  { all := has o 'a' || has o 'f', almostAll := has o 'A', ignoresBackups := has o 'B'
    classifies := has o 'F', marksDirectories := has o 'p', quotes := has o 'Q'
    reversed := has o 'r', recursive := has o 'R'
    unsorted := sort == some 'U' || sort == some 'f', bySize := sort == some 'S'
    byVersion := sort == some 'v', byEnding := sort == some 'X'
    lineEnd := if has o 'z' then '\x00' else '\n'
    shape := match shape with
      | some 'C' => .down
      | some 'x' => .across
      | some 'm' => .commas
      | _ => .lines }

end Listing

open Listing in
def ls : Utility := fun words =>
  withOptions known 2 words fun o operands => do
    let s ← get
    let k := styleOf o
    let operands := if operands.isEmpty then [['.']] else operands
    let follows := !(has o 'd' || has o 'F' || has o 'l') || has o 'L' || has o 'H'
    let look (path : Text) : Except SystemFault Files.Node :=
      match if follows then s.files.look true (toBytes path) else .error .noSuchFile with
      | .ok node => .ok node
      | .error _ => s.files.look false (toBytes path)
    let found ← operands.filterMapM fun path => do
      match look path with
      | .ok node => return some (⟨path, node⟩ : Entry)
      | .error fault =>
        complainOf (ofString "cannot access ") (inQuotes path) fault
        return none
    let isListed (e : Entry) : Bool := e.node == .directory && !has o 'd'
    let (dirs, others) := (k.sort found).partition isListed
    Action.print (k.show others)
    let headed := k.recursive || 1 < operands.length
    let texts := (dirs.zipIdx).flatMap fun (e, i) =>
      k.directory s headed 64 (i = 0 && others.isEmpty) e.name
    Action.print texts.flatten
    return if found.length = operands.length then 0 else 2

end HalBench.Shell.Utility
