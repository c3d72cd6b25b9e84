import HalBench.Driver.Table
import HalBench.Session.Command
import HalBench.Session.Host
import HalBench.Settings
/-!
# Carrying out commands

The state of a session is its table of drivers and its measurement window. A command is answered
with one response; only the exit command ends the session.
-/

namespace HalBench.Session

def agentVersion : String := "0.3.0"

structure Config where
  drivers : Installation
  socketDir : Files.Path
  readyTimeout : Duration
  deriving Inhabited

inductive Flow where
  | goOn
  | leave
  deriving DecidableEq, Repr

structure State (δ : Type) where
  config : Config
  drivers : Driver.Table δ := {}
  measurement : Measurement.Window := {}

namespace State

variable {δ ω : Type} [Driver.Model δ ω] [Host δ ω]

def isSafe (c : Char) : Bool := c.isAlphanum || c == '-' || c == '_'

def safeName (service : String) : String :=
  String.ofList (service.toList.map fun c => if isSafe c then c else '_')

def socketPath (config : Config) (service : String) (processId : UInt32) : Files.Path :=
  config.socketDir.join <| Utf8.bytes <|
    "hal_driver_" ++ safeName service ++ "_" ++ toString processId.toNat ++ ".sock"

def unknownDriver (id : Driver.Id) : Response :=
  .failure ("unknown driver id " ++ id.display)

def capability (δ : Type) {ω : Type} [Host δ ω] (w : ω) : Response :=
  .answer (.capability ⟨agentVersion, Host.processId δ w, Host.hostName δ w, Command.names⟩)

/-- The interfaces of some directories; the first that cannot be listed is a failure. -/
def catalogOf (δ : Type) {ω : Type} [Host δ ω] (w : ω) :
    List Files.Path → Catalog → Except Catalog.Error Catalog
  | [], c => .ok c
  | dir :: r, c => do
    let c ← c.add dir (Host.listing δ dir w)
    catalogOf δ w r c

/-- The interfaces of the given directories, or of the configured one. -/
def listServices (h : State δ) (paths : List String) (w : ω) : Response :=
  let dirs := if paths.isEmpty then [h.config.drivers.specs] else paths.map Files.Path.ofString
  match catalogOf δ w dirs {} with
  | .error e => .failure e.message
  | .ok c => .answer (.services c.names)

def checkService (h : State δ) (name : String) : Response :=
  match h.drivers.lookup name with
  | some _ => .success
  | none => .failure ("service " ++ name ++ " not launched")

def launchOrder (h : State δ) (l : Launch) (processId : UInt32) : Driver.LaunchOrder where
  binary := (l.driverPath.map Files.Path.ofString).getD (h.config.drivers.binaryFor l.bitness)
  socketPath := socketPath h.config l.serviceName processId
  serviceName := l.serviceName
  specDir := h.config.drivers.specs
  readyTimeout := h.config.readyTimeout

/-- Launches a driver, or binds the service name to the driver that the key already has. -/
def launch (h : State δ) (l : Launch) (w : ω) : Response × State δ × ω :=
  match h.drivers.resolve l.key with
  | some id => (.answer (.driver id), { h with drivers := (h.drivers.bind l.serviceName id).2 }, w)
  | none =>
    match Host.launch (h.launchOrder l (Host.processId δ w)) w with
    | (.error e, w) => (.failure e.message, h, w)
    | (.ok driver, w) =>
      let (id, drivers) := h.drivers.registerNamed l.serviceName l.key l.category driver
      (.answer (.driver id), { h with drivers }, w)

/-- The functions of a driver: those that it tells of, or those of its specification. -/
def listFunctions (h : State δ) (id : Driver.Id) (w : ω) : Response × State δ × ω :=
  match h.drivers.key? id with
  | none => (unknownDriver id, h, w)
  | some key =>
    let (names, drivers, w) := h.drivers.functions id w
    let h := { h with drivers }
    if names.isEmpty then
      let specs := h.config.drivers.specs
      let spec := match Catalog.add {} specs (Host.listing δ specs w) with
        | .ok c => c.find? key.package key.version key.interface
        | .error _ => none
      (.answer (.functions ((spec.map (·.functions)).getD [])), h, w)
    else (.answer (.functions names), h, w)

def call (h : State δ) (id : Driver.Id) (m : Service.Message) (w : ω) :
    Response × State δ × ω :=
  match h.drivers.key? id with
  | none => (unknownDriver id, h, w)
  | some _ =>
    let (started, w) := Host.clock δ w
    let (text, drivers, w) := h.drivers.invoke id m w
    let (ended, w) := Host.clock δ w
    let measurement := h.measurement.record m.name (ended - started)
    let response : Response :=
      if text = Service.Answer.failureWord then
        .failure ("driver " ++ id.display ++ " failed to execute " ++ m.name)
      else .answer (.result text)
    (response, { h with drivers, measurement }, w)

/-- Runs shell commands, of which there must be one. -/
def shell (h : State δ) (commands : List String) (w : ω) : Response × State δ × ω :=
  if commands.isEmpty then (.failure "no shell command given", h, w)
  else
    let (output, w) := Host.shell δ commands w
    (.answer (.shell output), h, w)

def carryOut (h : State δ) (w : ω) : Command → (Response × Flow) × State δ × ω
  | .capability => ((capability δ w, .goOn), h, w)
  | .listServices paths => ((h.listServices paths w, .goOn), h, w)
  | .checkService name => ((h.checkService name, .goOn), h, w)
  | .launch l =>
    let (r, h, w) := h.launch l w
    ((r, .goOn), h, w)
  | .listFunctions id =>
    let (r, h, w) := h.listFunctions id w
    ((r, .goOn), h, w)
  | .call id m =>
    let (r, h, w) := h.call id m w
    ((r, .goOn), h, w)
  | .shell commands =>
    let (r, h, w) := h.shell commands w
    ((r, .goOn), h, w)
  | .startMeasurement =>
    let (now, w) := Host.clock δ w
    ((.success, .goOn), { h with measurement := .start now }, w)
  | .stopMeasurement =>
    let (now, w) := Host.clock δ w
    let (snapshot, measurement) := h.measurement.stop now
    ((.answer (.measurements snapshot), .goOn), { h with measurement }, w)
  | .exit => ((.success, .leave), h, w)

def release (h : State δ) (w : ω) : ω :=
  h.drivers.entries.foldl (fun w e => Host.release e.driver w) w

end State

end HalBench.Session
