import HalBench.Driver.Remote
import HalBench.Driver.Scripted
import HalBench.Driver.Table
import HalBench.Session.Host
import HalBench.Shell.Run
/-!
# A machine

A machine has files and runs scripts. Sockets among its files lead to one peer; the requests that
reach it are kept in their order. Drivers are scripts that are started and say when they are
ready. The machine's clock stands still outside of scripts.
-/

namespace HalBench

open Files Driver

structure Machine where
  files : Tree
  peer : Peer := fun _ => ⟨[], false⟩
  requests : List Bytes := []
  complaints : Bytes := []

inductive Attached where
  | scripted (driver : Scripted)
  | remote (driver : Remote)

namespace Machine

def processId : UInt32 := 0

def maxSocketPath : Nat := 108

/-- Takes note of the requests that a remote driver sent meanwhile. -/
def note (m : Machine) (before after : Remote) : Machine :=
  { m with requests := m.requests ++ after.connection.sent.drop before.connection.sent.length }

def connect (m : Machine) (path : Path) : Except SystemFault Connection :=
  if path.contains 0 then .error .nulInSocketPath
  else if maxSocketPath ≤ path.length then .error .socketPathTooLong
  else if path = [] then .error .invalidArgument
  else
    match m.files.look true path with
    | .ok .socket => .ok { peer := m.peer }
    | .ok _ => .error .connectionRefused
    | .error fault => .error fault

def attach (m : Machine) (path : Path) (service : String) : Except LaunchFailure Remote :=
  match m.connect path with
  | .ok connection => .ok { service, connection }
  | .error fault => .error (.notConnected fault)

def environment : List (String × Shell.Text) :=
  [("HOME", Shell.ofString "/root"), ("PATH", Shell.usualPath)]

def process (files : Tree) : Shell.State :=
  { files
    bindings := environment.map fun (n, v) => (n, { value := some v, isExported := true }) }

/-- The program that a binary is, called with words, or why it cannot be started. -/
def image (files : Tree) (binary : Path) (words : List Bytes) : Except SystemFault Shell.Image := do
  if (binary :: words).any fun a => a.contains 0 then throw .nulInArgument
  else
    let name := Shell.ofBytes binary
    let words := words.map Shell.ofBytes
    if binary.contains Path.slash then
      Shell.Image.ofPath files Shell.Image.maxDepth name name words
    else Shell.Image.find (process files) (name :: words)

def startTime : Nat := 1

def runDriver (files : Tree) (i : Shell.Image) (limit : Nat) : Shell.Ending × Shell.State :=
  Shell.run i { process files with clock := startTime, limit := some limit }

def output (chunks : List Shell.Chunk) : Output :=
  (chunks.reverse.mergeSort fun a b => decide (a.time ≤ b.time)).flatMap fun c =>
    (Shell.toBytes c.text).map fun b => (c.time, b)

def printed (chunks : List Shell.Chunk) : Bytes := (output chunks).map (·.2)

/-- The times at which a driver says that it is ready. The last line may end with the output. -/
def readyTimes (ending : Shell.Ending) (s : Shell.State) : List Nat :=
  let finish := if ending = .stopped then none else some (max s.clock s.heldUntil)
  (watch (lines finish [] (output s.printed))).notified

def afterRun (m : Machine) (s : Shell.State) : Machine :=
  { m with
    files := { s.files with current := m.files.current }
    complaints := m.complaints ++ printed s.complained }

/-- Starts a driver and connects to it when it is ready. What is left of an older socket is
removed before. -/
def launch (order : LaunchOrder) (m : Machine) : Except LaunchFailure Remote × Machine :=
  if !m.files.isFile order.binary then (.error (.missingBinary order.binary), m)
  else
    let m := { m with files := ((m.files.remove order.socketPath).toOption).getD m.files }
    match image m.files order.binary order.arguments with
    | .error fault => (.error (.notSpawned fault), m)
    | .ok i =>
      let (ending, s) := runDriver m.files i order.readyTimeout
      match readyAt order.readyTimeout (readyTimes ending s) with
      | none => (.error (.notReady order.serviceName order.readyTimeout), m.afterRun s)
      | some time =>
        let m := m.afterRun (runDriver m.files i time).2
        match m.connect order.socketPath with
        | .error fault => (.error (.notConnected fault), m)
        | .ok connection =>
          (.ok { service := order.serviceName, connection, socketPath := some order.socketPath }, m)

/-- Lets a driver go; the socket of one that was launched is removed. -/
def release (d : Attached) (m : Machine) : Machine :=
  match d with
  | .scripted _ => m
  | .remote r =>
    match r.socketPath with
    | none => m
    | some path => { m with files := ((m.files.remove path).toOption).getD m.files }

def exitCode : Shell.Ending → Int32
  | .exited status => Int32.ofNat status
  | _ => -1

def shell (script : String) : Shell.Image :=
  ⟨"sh", Shell.ofString "sh", [Shell.ofString "-c", Shell.ofString script]⟩

def command (text : String) (m : Machine) : (Bytes × Bytes × Int32) × Machine :=
  if (Utf8.bytes text).contains 0 then
    (([], Utf8.bytes SystemFault.nulInArgument.message, -1), m)
  else
    let (ending, s) := Shell.run (shell text) (process m.files)
    ((printed s.printed, printed s.complained, exitCode ending),
      { m with files := { s.files with current := m.files.current } })

def commands : List String → Machine → Session.CommandOutput × Machine
  | [], m => ({}, m)
  | text :: rest, m =>
    let ((printed, complained, code), m) := m.command text
    let (output, m) := commands rest m
    (⟨Utf8.stringLossy printed :: output.printed, Utf8.stringLossy complained :: output.complained,
      code :: output.exitCodes⟩, m)

instance : Model Attached Machine where
  call d m w :=
    match d with
    | .scripted s => (s.answer m, d, w)
    | .remote r =>
      let (answer, r') := r.call m
      (answer, .remote r', w.note r r')
  verify d expected actual :=
    match d with
    | .scripted s => s.verdict.getD (agree expected actual)
    | .remote _ => agree expected actual
  functions d w :=
    match d with
    | .scripted s => (s.functions, d, w)
    | .remote r =>
      let (names, r') := r.functions
      (names, .remote r', w.note r r')

instance : Session.Host Attached Machine where
  launch order m :=
    let (r, m) := launch order m
    (r.map .remote, m)
  release := release
  listing dir m := m.files.listing dir
  shell texts m := commands texts m
  clock m := (0, m)
  processId _ := processId
  hostName _ := ""

end Machine

end HalBench
