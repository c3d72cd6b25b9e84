import HalBench.Duration
import HalBench.Files.Path
import HalBench.Notifier
import HalBench.Stream.Fault
import HalBench.Text.Blank
/-!
# Launching drivers

A launched driver prints a line when it is ready. Its output is read line by line to the end, or
to a line that is not text; every line that says nothing but the word counts as a notification.
-/

namespace HalBench.Driver

open Files

structure LaunchOrder where
  binary : Path
  socketPath : Path
  serviceName : String
  specDir : Path
  readyTimeout : Duration
  deriving DecidableEq, Repr

namespace LaunchOrder

def arguments (s : LaunchOrder) : List Bytes :=
  [Utf8.bytes "--socket", s.socketPath, Utf8.bytes "--service", Utf8.bytes s.serviceName,
    Utf8.bytes "--spec-dir", s.specDir]

end LaunchOrder

inductive LaunchFailure where
  | missingBinary (path : Path)
  | notSpawned (fault : SystemFault)
  | notReady (service : String) (timeout : Duration)
  | notConnected (fault : SystemFault)
  deriving DecidableEq, Repr

def LaunchFailure.message : LaunchFailure → String
  | missingBinary path => "Driver binary not found: " ++ path.display
  | notSpawned fault => "Failed to spawn driver: " ++ fault.message
  | notReady service timeout =>
    "Driver for " ++ service ++ " not ready after " ++ timeout.display
  | notConnected fault => "Failed to connect to driver socket: " ++ fault.message

def readyLine : List Char := ['r', 'e', 'a', 'd', 'y']

/-- Output with the times at which it was printed. -/
abbrev Output := List (Nat × UInt8)

/-- The lines of some output with the times at which they were complete; a last line without a
newline is complete at the end. -/
def lines (ending : Option Nat) (read : Bytes) : Output → List (Nat × Bytes)
  | [] =>
    match ending, read with
    | some time, b :: r => [(time, b :: r)]
    | _, _ => []
  | (time, b) :: r =>
    if b = 10 then (time, read) :: lines ending [] r else lines ending (read ++ [b]) r

def isReadyLine (line : List Char) : Bool := Text.trim line == readyLine

/-- What comes of watching lines: the times of the notifications, and the lines that nobody reads
if one before them is not text. -/
structure Watch where
  notified : List Nat
  unread : Option (List (Nat × Bytes))
  deriving DecidableEq, Repr

def Watch.notify (time : Nat) (w : Watch) : Watch := { w with notified := time :: w.notified }

/-- Reads lines and counts those that say nothing but the word. A line that is not text ends the
reading. -/
def watch : List (Nat × Bytes) → Watch
  | [] => ⟨[], none⟩
  | (time, line) :: r =>
    match Utf8.decode? line with
    | none => ⟨[], some r⟩
    | some text =>
      if isReadyLine text then (watch r).notify time else watch r

/-- When a driver was found ready: the time of its first notification, if that is not after the
timeout. -/
def readyAt (timeout : Duration) (times : List Nat) : Option Nat :=
  match ({} : Notifier).wait (some timeout) times with
  | some ⟨true, _, _⟩ => times.head?
  | _ => none

end HalBench.Driver
