import HalBench.Files.Tree
import HalBench.Trace.Cleanup
import HalBench.Trace.Reader
import HalBench.Trace.Writer
/-!
# Traces in files

A trace is replaced through a new file in the same directory, which takes the place of the old
one when it is complete. When something fails on the way, the new file is removed.
-/

namespace HalBench.Trace

open Files

def openPath (files : Tree) (path : Path) : Except Error Reader :=
  match files.openRead path with
  | .error fault => .error (.notOpened path fault)
  | .ok source => .ok { source }

def loadPath (files : Tree) (path : Path) : Except Error (List Record) := do
  (← openPath files path).all

def servicesOfPath (files : Tree) (path : Path) : Except Error (List String) := do
  services (← openPath files path)

def sinkOf (files : Tree) : Sink :=
  { limit := files.room.map fun n => (n, .fails .injected) }

def sinkInto (files : Tree) (target : List Bytes × Option Node) : Sink :=
  match target.2 with
  | some (.device .full) => { limit := some (0, .fails .noSpace) }
  | _ => sinkOf files

def savePath (files : Tree) (path : Path) (records : List Record) :
    Except Error Unit × Tree :=
  match files.openWrite path with
  | .error fault => (.error (.notOpened path fault), files)
  | .ok target =>
    let (result, w) := ({ sink := sinkInto files target } : Writer).appendAll records
    let result := result.bind fun () => w.finish
    (result, files.fill target w.sink.written)

def directoryOf (path : Path) : Path :=
  match path.parent? with
  | none => here
  | some dir => if dir = [] then here else dir

def temporaryLength : Nat := 10

/-- Makes an empty file with a new name in a directory. -/
def makeTemporary (files : Tree) (dir : Path) : Except SystemFault (List Bytes × Tree) := do
  if maxPath ≤ dir.length + 1 + temporaryLength then throw .nameTooLong
  match ← files.locate true dir with
  | .present names .directory =>
    let temporary := names ++ [files.freshName names]
    .ok (temporary, files.put temporary (.file [] false))
  | .present .. => .error .notADirectory
  | .absent .. => .error .noSuchFile

def persist (files : Tree) (temporary : List Bytes) (path : Path) : Except SystemFault Tree := do
  let names ← files.replaceable path
  match files.node? temporary with
  | some node => .ok ((files.erase temporary).put names node)
  | none => .error .noSuchFile

def fillAndPersist (files : Tree) (temporary : List Bytes) (path : Path)
    (records : List Record) : Except Error Tree := do
  let (result, w) := ({ sink := sinkOf files } : Writer).appendAll records
  let _ ← result
  let _ ← w.finish
  match files.syncFault with
  | some fault => .error (.io fault)
  | none =>
    let filled := files.put temporary (.file w.sink.written false)
    (persist filled temporary path).mapError (.notReplaced path)

def replacePath (files : Tree) (path : Path) (records : List Record) :
    Except Error Unit × Tree :=
  match makeTemporary files (directoryOf path) with
  | .error fault => (.error (.io fault), files)
  | .ok (temporary, working) =>
    match fillAndPersist working temporary path records with
    | .error e => (.error e, working.erase temporary)
    | .ok after => (.ok (), after)

/-- Cleans a trace in its file, which is replaced only when something is removed. -/
def cleanPath (files : Tree) (path : Path) : Except Error CleanupTally × Tree :=
  match loadPath files path with
  | .error e => (.error e, files)
  | .ok records =>
    let (kept, report) := cleanup records
    if report.removed = 0 then (.ok report, files)
    else
      match replacePath files path kept with
      | (.error e, files) => (.error e, files)
      | (.ok (), files) => (.ok report, files)

end HalBench.Trace
