import HalBench.Tool.Options
import HalBench.Tool.Outcome
import HalBench.Trace.File
/-!
# Replaying with fresh drivers

A driver is launched for each interface that a trace tells of, and then the calls of the trace are
made again. All drivers are let go at the end.
-/

namespace HalBench.Tool

open Trace

/-- The path of the socket of the driver that is launched after others. -/
def replaySocket (settings : Settings) (count : Nat) (processId : UInt32) : Files.Path :=
  settings.socketDir.join <| Utf8.bytes <|
    "hal_trace_" ++ toString count ++ "_" ++ toString processId.toNat ++ ".sock"

/-- The service instance that is named for an interface, or the default one. -/
def instanceFor (o : ReplayChoice) (name : String) : String :=
  (o.instances.get? name).getD Service.Key.defaultInstance

def replayLaunch (o : ReplayChoice) (settings : Settings) (count : Nat) (processId : UInt32)
    (name : String) : Driver.LaunchOrder :=
  ⟨o.driver, replaySocket settings count processId, instanceFor o name, o.specs,
    settings.readyTimeout⟩

section Launching

variable {δ ω : Type} [Driver.Model δ ω] [Session.Host δ ω]

/-- Launches a driver for each interface; names that are not those of interfaces are passed over.
The first driver that does not start ends it. -/
def launchAll (o : ReplayChoice) (settings : Settings) :
    List String → Driver.Table δ → ω →
      Option (Service.Key × Driver.LaunchFailure) × Driver.Table δ × ω
  | [], t, w => (none, t, w)
  | name :: rest, t, w =>
    match Service.Key.ofQualified? name (instanceFor o name) with
    | none => launchAll o settings rest t w
    | some key =>
      match Session.Host.launch
          (replayLaunch o settings t.size (Session.Host.processId δ w) name) w with
      | (.error e, w) => (some (key, e), t, w)
      | (.ok driver, w) => launchAll o settings rest (t.register key .hidl driver).2 w

def releaseAll (t : Driver.Table δ) (w : ω) : ω :=
  t.entries.foldl (fun w e => Session.Host.release e.driver w) w

end Launching

def mismatchLine (m : Mismatch) : String :=
  "  pair " ++ toString m.pair ++ ": " ++ m.service.display ++ " " ++ m.function
    ++ " expected " ++ m.expected.toText ++ " got " ++ m.actual.toText

def reportLines (r : ReplaySummary) : List String :=
  ("replayed " ++ toString r.replayed ++ " pair(s), skipped " ++ toString r.skipped
    ++ ", default fallbacks " ++ toString r.fallbacks ++ ", mismatches "
    ++ toString r.mismatches.length)
  :: r.mismatches.map mismatchLine

def replayPath (instances : Index String) (path : Files.Path) (t : Driver.Table Attached)
    (m : Machine) : Except ReplayFailure ReplaySummary × Driver.Table Attached × Machine :=
  match openPath m.files path with
  | .error e => (.error (.trace e), t, m)
  | .ok reader => Trace.replay instances reader (t, m)

def replayTrace (o : ReplayChoice) (settings : Settings) (path : Files.Path) (m : Machine) :
    Outcome × Machine :=
  match servicesOfPath m.files path with
  | .error e => (.failing 1 ["Failed to scan trace: " ++ e.message], m)
  | .ok names =>
    match launchAll o settings names ({} : Driver.Table Attached) m with
    | (some (key, e), t, m) =>
      (.failing 1 ["Failed to launch driver for " ++ key.display ++ ": " ++ e.message],
        releaseAll t m)
    | (none, t, m) =>
      let (result, t, m) := replayPath o.instances path t m
      let outcome : Outcome := match result with
        | .ok report => .printing (reportLines report)
        | .error e => .failing 1 ["Replay failed: " ++ e.message]
      (outcome, releaseAll t m)

end HalBench.Tool
