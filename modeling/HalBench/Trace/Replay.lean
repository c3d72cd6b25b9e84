import HalBench.Driver.Id
import HalBench.Service.Key
import HalBench.Trace.Reader
/-!
# Replaying traces

The records of a trace are taken two by two. When the second is the exit that the first is the
entry of, the call is made again and its result is compared with the recorded one. A result that
differs is reported and does not end the replay.
-/

namespace HalBench.Trace

open Service

/-- Where calls are made: it finds the driver of a key, calls it, and compares results. -/
class Registry (ρ : Type) where
  resolve : Key → ρ → Option Driver.Id × ρ
  invoke : Driver.Id → Message → ρ → String × ρ
  verify : Driver.Id → Message → Message → ρ → Bool × ρ

structure Mismatch where
  pair : Nat
  service : Key
  function : String
  expected : Message
  actual : Message
  deriving Inhabited

structure ReplaySummary where
  replayed : Nat := 0
  skipped : Nat := 0
  fallbacks : Nat := 0
  mismatches : List Mismatch := []
  deriving Inhabited

inductive ReplayFailure where
  | trace (error : Error)
  | unresolved (key : Key) (pair : Nat)
  | invocation (key : Key) (function output : String) (pair : Nat)
  | result (function : String) (pair : Nat) (fault : Json.Fault)
  deriving DecidableEq, Repr

def ReplayFailure.message : ReplayFailure → String
  | trace error => error.message
  | unresolved key pair => "No driver for " ++ key.display ++ " (pair " ++ toString pair ++ ")"
  | invocation key function output pair =>
    "Call " ++ function ++ " on " ++ key.display ++ " returned "
      ++ String.ofList (Text.quote output.toList) ++ " (pair " ++ toString pair ++ ")"
  | result function pair fault =>
    "Unparseable result for " ++ function ++ " (pair " ++ toString pair ++ "): " ++ fault.message

def Mismatch.toTree (m : Mismatch) : Json.Tree :=
  .object [("pair", .count m.pair), ("service", Key.codec.toTree m.service),
    ("function", .text m.function), ("expected", Message.codec.toTree m.expected),
    ("actual", Message.codec.toTree m.actual)]

namespace ReplaySummary

def isClean (r : ReplaySummary) : Bool := r.mismatches.isEmpty

def toTree (r : ReplaySummary) : Json.Tree :=
  .object [("pairs_replayed", .count r.replayed), ("pairs_skipped", .count r.skipped),
    ("default_fallbacks", .count r.fallbacks),
    ("mismatches", .array (r.mismatches.map Mismatch.toTree))]

end ReplaySummary

/-- Whether the second record is the exit that the first is the entry of. -/
def isPair (call result : Record) : Bool := call.event.matchingExit == some result.event

/-- The key of the service that a record tells of; its instance is the one named for the
interface, or the default one. -/
def targetOf (instances : Index String) (record : Record) : Key :=
  ⟨record.package, record.versionText, record.interface,
    (instances.get? record.qualifiedName).getD Key.defaultInstance⟩

variable {ρ : Type} [Registry ρ]

def repeatCall (instances : Index String) (pair : Nat) (call expected : Record)
    (registry : ρ) : Except ReplayFailure (Option Mismatch) × ρ :=
  let key := targetOf instances call
  let function := call.message.name
  match Registry.resolve key registry with
  | (none, registry) => (.error (.unresolved key pair), registry)
  | (some id, registry) =>
    let (output, registry) := Registry.invoke id call.message registry
    match Answer.classify output with
    | .nothing => (.error (.invocation key function output pair), registry)
    | .failure => (.error (.invocation key function output pair), registry)
    | .text body =>
      match Message.ofText body with
      | .error fault => (.error (.result function pair fault), registry)
      | .ok actual =>
        let (agrees, registry) := Registry.verify id expected.message actual registry
        (.ok (if agrees then none else some ⟨pair, key, function, expected.message, actual⟩),
          registry)

def ReplaySummary.addPair (report : ReplaySummary) (isFallback : Bool)
    (mismatch : Option Mismatch) : ReplaySummary :=
  { report with
    replayed := report.replayed + 1
    fallbacks := report.fallbacks + (if isFallback then 1 else 0)
    mismatches := report.mismatches ++ mismatch.toList }

/-- Replays the pairs from one on. A pair takes bytes of the trace, so `fuel` above their number
is never used up. -/
def replayLoop (instances : Index String) :
    Nat → Nat → Reader → ReplaySummary → ρ → Except ReplayFailure ReplaySummary × ρ
  | 0, _, _, report, registry => (.ok report, registry)
  | fuel + 1, pair, reader, report, registry =>
    match reader.readPair with
    | (.error e, _) => (.error (.trace e), registry)
    | (.ok none, _) => (.ok report, registry)
    | (.ok (some (.dangling _)), _) => (.ok report, registry)
    | (.ok (some (.complete call expected)), reader) =>
      if isPair call expected then
        match repeatCall instances pair call expected registry with
        | (.error e, registry) => (.error e, registry)
        | (.ok mismatch, registry) =>
          let isFallback := (instances.get? call.qualifiedName).isNone
          replayLoop instances fuel (pair + 1) reader (report.addPair isFallback mismatch) registry
      else
        replayLoop instances fuel (pair + 1) reader
          { report with skipped := report.skipped + 1 } registry

def replay (instances : Index String) (reader : Reader) (registry : ρ) :
    Except ReplayFailure ReplaySummary × ρ :=
  replayLoop instances (reader.source.remaining.length + 1) 0 reader {} registry

end HalBench.Trace
