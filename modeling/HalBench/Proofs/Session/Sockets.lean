import HalBench.Proofs.Driver.Watching
import HalBench.Proofs.Files.Unlinking
import HalBench.Proofs.Number.Digits
import HalBench.Proofs.Session.Launches
import HalBench.Proofs.Text.Utf8
import Mathlib.Data.List.Forall2

/-! The sockets of a session's drivers. Each is a file in the directory for sockets, whatever the
name of its service, but characters that do not stand in the name of a socket are all replaced by
the same one. Services whose names differ only there have the same socket, and the launch of one
removes the socket of the other. -/

namespace HalBench

namespace Session

open Driver Files

/-! ### Names of sockets -/

section Names

variable {config : Config} {service service' : String} {processId : UInt32} {c d : Char}

/-- Whether a character looks like any other such character in the name of a socket. -/
def isBlurred (c : Char) : Bool := !State.isSafe c || c == '_'

/-- Names that are the same up to blurred characters. -/
def Alike (service service' : String) : Prop :=
  List.Forall₂ (fun c d => c = d ∨ isBlurred c = true ∧ isBlurred d = true)
    service.toList service'.toList

def safeChar (c : Char) : Char := if State.isSafe c then c else '_'

theorem isSafe_underscore : State.isSafe '_' = true := by decide

theorem isSafe_safeChar (c : Char) : State.isSafe (safeChar c) = true := by
  unfold safeChar
  split
  · assumption
  · exact isSafe_underscore

theorem safeChar_eq_underscore : safeChar c = '_' ↔ isBlurred c = true := by
  unfold safeChar isBlurred
  cases State.isSafe c <;> simp

theorem safeChar_eq_iff :
    safeChar c = safeChar d ↔ c = d ∨ isBlurred c = true ∧ isBlurred d = true := by
  rw [← safeChar_eq_underscore, ← safeChar_eq_underscore]
  constructor
  · intro same
    by_cases blurred : safeChar c = '_'
    · exact .inr ⟨blurred, same ▸ blurred⟩
    · have clear {e : Char} (h : safeChar e ≠ '_') : safeChar e = e :=
        if_pos (Classical.not_not.mp fun notSafe => h (if_neg notSafe))
      have blurred' : safeChar d ≠ '_' := same ▸ blurred
      exact .inl (by rw [← clear blurred, same, clear blurred'])
  · rintro (rfl | ⟨first, second⟩)
    · rfl
    · rw [first, second]

theorem safeName_eq_iff :
    State.safeName service = State.safeName service' ↔ Alike service service' := by
  show String.ofList (service.toList.map safeChar) =
    String.ofList (service'.toList.map safeChar) ↔ _
  rw [String.ofList_inj, ← List.forall₂_eq_eq_eq, List.forall₂_map_left_iff,
    List.forall₂_map_right_iff, Alike]
  simp only [safeChar_eq_iff]

def socketName (service : String) (processId : UInt32) : String :=
  "hal_driver_" ++ State.safeName service ++ "_" ++ toString processId.toNat ++ ".sock"

theorem socketPath_eq : State.socketPath config service processId =
    config.socketDir.join (Utf8.bytes (socketName service processId)) := rfl

theorem toList_socketName : (socketName service processId).toList =
    "hal_driver_".toList ++ (service.toList.map safeChar ++
      ('_' :: (Nat.toDigits 10 processId.toNat ++ ".sock".toList))) := by
  simp only [socketName, State.safeName, String.toList_append, List.append_assoc,
    Digits.toList_toString, String.toList_ofList]
  rfl

theorem not_mem_socketName (notSafe : State.isSafe c = false) (other : c ≠ '.') :
    c ∉ (socketName service processId).toList := by
  have fixed (text : List Char) (safe : text.all (fun d => State.isSafe d || d == '.') = true) :
      c ∉ text := by
    intro member
    have here := List.all_eq_true.mp safe c member
    rw [notSafe, Bool.false_or, beq_iff_eq] at here
    exact other here
  have digit : c.isDigit = false := Bool.eq_false_iff.mpr fun digit => by
    simp [State.isSafe, Char.isAlphanum, digit] at notSafe
  simp only [toList_socketName, List.mem_append, List.mem_cons, not_or]
  refine ⟨fixed _ (by decide), fixed _ ?_, ?_, Digits.not_mem_toDigits digit _, fixed _ (by decide)⟩
  · refine List.all_eq_true.mpr fun d member => ?_
    obtain ⟨e, -, rfl⟩ := List.mem_map.mp member
    rw [isSafe_safeChar, Bool.true_or]
  · rintro rfl
    rw [isSafe_underscore] at notSafe
    cases notSafe

theorem head?_socketName :
    (Utf8.bytes (socketName service processId)).head? = some 104 := by
  rw [Utf8.bytes, toList_socketName]
  rfl

theorem socketName_ne {name : Bytes} (other : name.head? ≠ some 104) :
    Utf8.bytes (socketName service processId) ≠ name := by
  rintro rfl
  exact other head?_socketName

theorem singleName_socketName : SingleName (Utf8.bytes (socketName service processId)) where
  noSlash h := not_mem_socketName (c := '/') (by decide) (by decide)
    (Utf8.mem_of_mem_encode (by decide) h)
  noNul h := not_mem_socketName (c := '\x00') (by decide) (by decide)
    (Utf8.mem_of_mem_encode (by decide) h)
  notEmpty := socketName_ne (by decide)
  notHere := socketName_ne (by decide)
  notAbove := socketName_ne (by decide)

theorem socketName_eq_iff :
    socketName service processId = socketName service' processId ↔ Alike service service' := by
  rw [← safeName_eq_iff, socketName, socketName, ← String.toList_inj]
  simp only [String.toList_append, List.append_cancel_left_eq, List.append_cancel_right_eq,
    String.toList_inj]

theorem names_socketPath : (State.socketPath config service processId).names =
    config.socketDir.names ++ [Utf8.bytes (socketName service processId)] :=
  Path.names_join config.socketDir singleName_socketName

theorem socketPath_eq_iff :
    State.socketPath config service processId = State.socketPath config service' processId ↔
      Alike service service' := by
  rw [← @socketName_eq_iff service service' processId]
  refine ⟨fun same => ?_, fun same => by rw [socketPath_eq, same, socketPath_eq]⟩
  have names := congrArg Path.names same
  rw [names_socketPath, names_socketPath] at names
  exact Utf8.bytes_injective (List.singleton_inj.mp (List.append_cancel_left names))

instance (service service' : String) : Decidable (Alike service service') :=
  decidable_of_iff _ safeName_eq_iff

theorem node?_unlinked_socket {t : Tree} {names : List Bytes} {node : Node}
    (h : t.locate false (State.socketPath config service processId) = .ok (.present names node)) :
    (t.unlinked (State.socketPath config service' processId)).node? names =
      if Alike service service' ∧ node ≠ .directory then none else some node := by
  have bytes : Utf8.bytes (socketName service processId) =
      Utf8.bytes (socketName service' processId) ↔ Alike service service' :=
    ⟨fun same => socketName_eq_iff.mp (Utf8.bytes_injective same),
      fun alike => congrArg Utf8.bytes (socketName_eq_iff.mpr alike)⟩
  simp only [← bytes]
  exact Tree.node?_unlinked config.socketDir singleName_socketName singleName_socketName h

end Names

/-! ### Drivers and their sockets -/

section Drivers

variable {δ ω : Type} [Host δ ω] {socket : δ → Option Path} {h : State δ} {w : ω}

/-- What a command has the host launch. -/
def State.order? (h : State δ) (w : ω) : Command → Option LaunchOrder
  | .launch l =>
    if (h.drivers.resolve l.key).isNone then some (h.launchOrder l (Host.processId δ w)) else none
  | _ => none

theorem socketPath_order? {o : LaunchOrder} {c : Command} (ordered : h.order? w c = some o) :
    o.socketPath = State.socketPath h.config o.serviceName (Host.processId δ w) := by
  cases c with
  | launch l =>
    obtain ⟨-, rfl⟩ := Option.ite_some_none_eq_some.mp ordered
    simp only [State.launchOrder]
  | _ => cases ordered

variable [Model δ ω]

def State.orders : State δ → ω → List Command → List LaunchOrder
  | _, _, [] => []
  | h, w, c :: rest =>
    let (_, h', w') := h.carryOut w c
    (h.order? w c).toList ++ h'.orders w' rest

theorem orders_cons (h : State δ) (w : ω) (c : Command) (rest : List Command) :
    h.orders w (c :: rest) = (h.order? w c).toList ++
      (h.carryOut w c).2.1.orders (h.carryOut w c).2.2 rest := rfl

/-- Which socket a driver has, on a host that is one process: a driver that was launched has the
socket of its order, and no call takes it from the driver. -/
structure KeepSockets (socket : δ → Option Path) : Prop where
  launched : ∀ {order : LaunchOrder} {w w' : ω} {d : δ}, Host.launch order w = (.ok d, w') →
    socket d = some order.socketPath
  called : ∀ (d : δ) (m : Service.Message) (w : ω), socket (Model.call d m w).2.1 = socket d
  told : ∀ (d : δ) (w : ω), socket (Model.functions d w).2.1 = socket d
  process : ∀ w w' : ω, Host.processId δ w = Host.processId δ w'

/-- The sockets of a table, in the order of the numbers of its drivers. -/
def socketsOf (socket : δ → Option Path) (t : Table δ) : List (Option Path) :=
  t.entries.map fun e => socket e.driver

/-- Some of what the host launches, in its order, are the drivers that are new in a table. -/
def Starts (socket : δ → Option Path) (orders : List LaunchOrder) (t t' : Table δ) : Prop :=
  ∃ started : List LaunchOrder, started.Sublist orders ∧
    socketsOf socket t' = socketsOf socket t ++ started.map fun o => some o.socketPath

section Starts

variable {t t' t'' : Table δ} {orders more : List LaunchOrder}

theorem Starts.none (same : socketsOf socket t' = socketsOf socket t) :
    Starts socket orders t t' :=
  ⟨[], List.nil_sublist _, by rw [same, List.map_nil, List.append_nil]⟩

theorem Starts.trans (first : Starts socket orders t t') (later : Starts socket more t' t'') :
    Starts socket (orders ++ more) t t'' := by
  obtain ⟨started, among, sockets⟩ := first
  obtain ⟨started', among', sockets'⟩ := later
  refine ⟨started ++ started', among.append among', ?_⟩
  rw [sockets', sockets, List.map_append, List.append_assoc]

end Starts

theorem socketsOf_setEntry {t : Table δ} {id : Id} {e : Entry δ} {d : δ}
    (here : t.entry? id = some e) (same : socket d = socket e.driver) :
    socketsOf socket (t.setEntry id { e with driver := d }) = socketsOf socket t := by
  obtain ⟨inside, rfl⟩ := List.getElem?_eq_some_iff.mp here
  rw [socketsOf, Table.setEntry, List.map_set, same]
  refine List.ext_getElem? fun i => ?_
  rw [List.getElem?_set, List.length_map, if_pos inside]
  split
  · rename_i there
    rw [← there, socketsOf, List.getElem?_map, List.getElem?_eq_getElem inside]
    rfl
  · rfl

namespace KeepSockets

variable (keeps : KeepSockets socket)
include keeps

theorem invoke {t : Table δ} (id : Id) (m : Service.Message) (w : ω) :
    socketsOf socket (t.invoke id m w).2.1 = socketsOf socket t := by
  cases here : t.entry? id with
  | none => rw [Table.invoke, here]
  | some e =>
    rw [Table.invoke_known here]
    exact socketsOf_setEntry here (keeps.called ..)

theorem functions {t : Table δ} (id : Id) (w : ω) :
    socketsOf socket (t.functions id w).2.1 = socketsOf socket t := by
  unfold Table.functions
  cases here : t.entry? id with
  | none => rfl
  | some e => exact socketsOf_setEntry here (keeps.told ..)

/-- A launch adds the socket of what the host launches, unless that fails. -/
theorem launch (h : State δ) (l : Launch) (w : ω) :
    Starts socket (h.order? w (.launch l)).toList h.drivers (h.launch l w).2.1.drivers := by
  rcases launch_cases h l w with ⟨id, -, known⟩ | ⟨reason, w', failed⟩ |
    ⟨unknown, driver, w', result, new⟩
  · rw [known]
    exact .none (by rw [socketsOf, Table.entries_bind, socketsOf])
  · rw [failed]
    exact .none rfl
  · rw [new]
    refine ⟨(h.order? w (.launch l)).toList, List.Sublist.refl _, ?_⟩
    simp only [State.order?, unknown, Option.isNone_none, if_true, Option.toList_some,
      List.map_cons, List.map_nil, ← keeps.launched result]
    rw [Table.registerNamed_eq, socketsOf, Table.entries_bind, Table.entries_register_new unknown,
      List.map_append]
    rfl

theorem carryOut (h : State δ) (w : ω) (c : Command) :
    Starts socket (h.order? w c).toList h.drivers (h.carryOut w c).2.1.drivers := by
  cases c with
  | launch l => exact keeps.launch h l w
  | call id m =>
    refine .none ?_
    simp only [State.carryOut, State.call]
    split
    · rfl
    · exact keeps.invoke id m _
  | listFunctions id =>
    refine .none ?_
    simp only [State.carryOut, State.listFunctions]
    split
    · rfl
    · split <;> exact keeps.functions id w
  | shell commands =>
    refine .none ?_
    simp only [State.carryOut, State.shell]
    split <;> rfl
  | _ => exact .none rfl

theorem carryOutAll (h : State δ) (w : ω) (commands : List Command) :
    Starts socket (h.orders w commands) h.drivers (h.carryOutAll w commands).2.1.drivers := by
  induction commands generalizing h w with
  | nil => exact .none rfl
  | cons c rest ih => exact (keeps.carryOut h w c).trans (ih _ _)

end KeepSockets

theorem carryOut_config (h : State δ) (w : ω) (c : Command) :
    (h.carryOut w c).2.1.config = h.config := by
  cases c with
  | launch l =>
    simp only [State.carryOut]
    rcases launch_cases h l w with ⟨id, -, known⟩ | ⟨reason, w', failed⟩ | ⟨-, driver, w', -, new⟩
    · rw [known]
    · rw [failed]
    · rw [new]
  | call id m =>
    simp only [State.carryOut, State.call]
    split <;> rfl
  | listFunctions id =>
    simp only [State.carryOut, State.listFunctions]
    split
    · rfl
    · split <;> rfl
  | shell commands =>
    simp only [State.carryOut, State.shell]
    split <;> rfl
  | _ => rfl

theorem KeepSockets.mem_orders (keeps : KeepSockets socket) {o : LaunchOrder}
    {commands : List Command} (member : o ∈ h.orders w commands) :
    o.socketPath = State.socketPath h.config o.serviceName (Host.processId δ w) := by
  induction commands generalizing h w with
  | nil => exact absurd member List.not_mem_nil
  | cons c rest ih =>
    rw [orders_cons] at member
    rcases List.mem_append.mp member with now | later
    · exact socketPath_order? (Option.mem_toList.mp now)
    · rw [ih later, carryOut_config, keeps.process]

/-- The sockets of launched drivers are files of the directory for sockets, each with a single name
there. Two of them are the same exactly if the names of their services are alike. The drivers of the
table are drivers that the host was to launch, each with the socket that it was launched with. When
one is launched, the socket of another is removed exactly if the names of their services are alike,
and stays as it is if not. -/
theorem sockets_of_launches (keeps : KeepSockets socket) (config : Config) (w : ω)
    (commands : List Command) :
    let start : State δ := { config }
    let orders := start.orders w commands
    (∀ o ∈ orders, ∃ name, SingleName name ∧ o.socketPath = config.socketDir.join name ∧
      o.socketPath.names = config.socketDir.names ++ [name]) ∧
    (∀ o ∈ orders, ∀ o' ∈ orders,
      o.socketPath = o'.socketPath ↔ Alike o.serviceName o'.serviceName) ∧
    (∃ started : List LaunchOrder, started.Sublist orders ∧
      socketsOf socket (start.carryOutAll w commands).2.1.drivers =
        started.map fun o => some o.socketPath) ∧
    ∀ o ∈ orders, ∀ o' ∈ orders, ∀ (m : Machine) names node,
      m.files.locate false o.socketPath = .ok (.present names node) →
        (filesFor m o').node? names =
          if Alike o.serviceName o'.serviceName ∧ node ≠ .directory then none else some node := by
  intro start orders
  have path {o : LaunchOrder} (member : o ∈ orders) :
      o.socketPath = State.socketPath config o.serviceName (Host.processId δ w) :=
    keeps.mem_orders (h := start) member
  refine ⟨fun o member => ?_, fun o member o' member' => ?_, keeps.carryOutAll start w commands,
    fun o member o' member' m names node found => ?_⟩
  · rw [path member]
    exact ⟨_, singleName_socketName, socketPath_eq, names_socketPath⟩
  · rw [path member, path member']
    exact socketPath_eq_iff
  · rw [path member] at found
    rw [← node?_unlinked_socket found, ← path member']
    rfl

end Drivers

/-! ### Machines, and a host whose drivers listen -/

def machineSocket : Attached → Option Path
  | .scripted _ => none
  | .remote r => r.socketPath

theorem launch_socketPath {order : LaunchOrder} {m m' : Machine} {r : Remote}
    (h : Machine.launch order m = (.ok r, m')) : r.socketPath = some order.socketPath := by
  rw [Machine.launch] at h
  split at h
  · cases h
  · simp only at h
    split at h
    · cases h
    · split at h
      · cases h
      · split at h
        · cases h
        · cases h
          rfl

theorem keepSockets_machine : KeepSockets machineSocket where
  launched {order m m' d} h := by
    have unfolded : ((Machine.launch order m).1.map Attached.remote, (Machine.launch order m).2) =
        (.ok d, m') := h
    rcases result : Machine.launch order m with ⟨e | r, m''⟩
    · rw [result] at unfolded
      cases unfolded
    · rw [result] at unfolded
      cases unfolded
      exact launch_socketPath result
  called d m w := by cases d <;> rfl
  told d w := by cases d <;> rfl
  process _ _ := rfl

structure Listener where
  socketPath : Path

def withSocket (t : Tree) (p : Path) : Tree :=
  match t.freeName p with
  | .ok names => t.put names .socket
  | .error _ => t

instance : Model Listener Tree where
  call d _ w := (.ok none, d, w)

/-- A host whose drivers all start, each making its socket in the place of an older one. -/
instance listening : Host Listener Tree where
  launch order w :=
    (.ok ⟨order.socketPath⟩, withSocket (w.unlinked order.socketPath) order.socketPath)
  release d w := w.unlinked d.socketPath
  listing _ _ := .error .noSuchFile
  shell _ w := ({}, w)
  clock w := (0, w)
  processId _ := 7
  hostName _ := ""

theorem host_launch_listener (order : LaunchOrder) (w : Tree) :
    Host.launch (δ := Listener) order w =
      (.ok ⟨order.socketPath⟩, withSocket (w.unlinked order.socketPath) order.socketPath) := rfl

theorem processId_listener (w : Tree) : Host.processId Listener w = 7 := rfl

theorem launch_listening {h : State Listener} {l : Launch}
    (new : h.drivers.resolve l.key = none) (w : Tree) :
    (h.launch l w).2.2 = withSocket (w.unlinked (h.launchOrder l 7).socketPath)
      (h.launchOrder l 7).socketPath := by
  rw [State.launch, new]
  simp only [host_launch_listener, processId_listener]

def listenerSocket (d : Listener) : Option Path := some d.socketPath

theorem keepSockets_listener : KeepSockets listenerSocket where
  launched h := by
    cases h
    rfl
  called _ _ _ := rfl
  told _ _ := rfl
  process _ _ := rfl

def socketDirectory : Path := [47, 115]

def inDirectory : State Listener :=
  { config := { (default : Config) with socketDir := socketDirectory } }

def emptyDirectory : Tree where
  nodes := [([[115]], .directory)]

section Directory

variable {t : Tree} {name : Bytes} (single : SingleName name) (short : name.length ≤ maxName)
include single short

theorem locate_socketDirectory (inner : t.node? [[115]] = some .directory) :
    t.locate false (socketDirectory.join name) =
      t.walk .name maxLinks [[115]] [name] := by
  have path : socketDirectory.join name = Path.slash :: 115 :: Path.slash :: name := by
    simp [Path.join, Path.isAbsolute_of_noSlash single.noSlash, socketDirectory, Path.slash]
  have noNul : ¬ (socketDirectory.join name).contains 0 = true := by
    rw [path]
    simpa [Path.slash] using single.noNul
  have fits : ¬ maxPath ≤ (socketDirectory.join name).length := by
    rw [path]
    simp only [List.length_cons, maxPath, maxName] at short ⊢
    omega
  have steps : (socketDirectory.join name).steps = [[115], name] :=
    Path.steps_join socketDirectory single
  have start : t.start (socketDirectory.join name) = [] := by
    rw [path]
    rfl
  rw [Tree.locate, if_neg Bool.false_ne_true, Tree.locateFor, if_neg noNul, if_neg (by simp [path]),
    if_neg fits, steps, start]
  exact Tree.walk_name_down (by decide) inner

theorem locate_withSocket :
    (withSocket (emptyDirectory.unlinked (socketDirectory.join name))
      (socketDirectory.join name)).locate false (socketDirectory.join name) =
        .ok (.present [[115], name] .socket) := by
  have proper : Tree.Proper name := single.proper short
  have free : emptyDirectory.node? ([[115]] ++ [name]) = none := by
    simp [Tree.node?, emptyDirectory]
  have absent : emptyDirectory.locate false (socketDirectory.join name) =
      .ok (.absent [[115]] name) :=
    (locate_socketDirectory single short rfl).trans (Tree.walk_name_free proper free)
  have unlinked : emptyDirectory.unlinked (socketDirectory.join name) = emptyDirectory := by
    rw [Tree.unlinked, Tree.remove, absent]
    rfl
  have made : withSocket emptyDirectory (socketDirectory.join name) =
      emptyDirectory.put ([[115]] ++ [name]) .socket := by
    rw [withSocket, Tree.freeName, absent]
    rfl
  rw [unlinked, made, locate_socketDirectory single short]
  · exact Tree.walk_name_found proper (by rw [Tree.node?_put (by simp), if_pos rfl])
  · rw [Tree.node?_put (by simp), if_neg (by simp)]
    rfl

end Directory

def launchOf (service : String) : Launch :=
  { serviceName := service, key := ⟨service, "1.0", "IFoo", "default"⟩ }

def orderOf (service : String) : LaunchOrder := inDirectory.launchOrder (launchOf service) 7

theorem socketPath_orderOf (service : String) :
    (orderOf service).socketPath = State.socketPath inDirectory.config service 7 := by
  simp only [orderOf, launchOf, State.launchOrder]

def filesAfter (service : String) : Tree :=
  (inDirectory.carryOutAll emptyDirectory [.launch (launchOf service)]).2.2

theorem locate_filesAfter (service : String)
    (short : (Utf8.bytes (socketName service 7)).length ≤ maxName) :
    (filesAfter service).locate false (orderOf service).socketPath =
      .ok (.present [[115], Utf8.bytes (socketName service 7)] .socket) := by
  have files : filesAfter service = withSocket
      (emptyDirectory.unlinked (orderOf service).socketPath) (orderOf service).socketPath := by
    have new : inDirectory.drivers.resolve (launchOf service).key = none := rfl
    simp only [filesAfter, State.carryOutAll, State.carryOut, orderOf]
    rw [launch_listening new]
  have path : (orderOf service).socketPath =
      socketDirectory.join (Utf8.bytes (socketName service 7)) :=
    (socketPath_orderOf service).trans socketPath_eq
  rw [files, path]
  exact locate_withSocket singleName_socketName short

/-- Two drivers with their sockets; the first one's stays when the second is launched. -/
theorem sockets_of_launches_apart :
    let commands := [Command.launch (launchOf "camera"), .launch (launchOf "radio")]
    let names := [[115], Utf8.bytes (socketName "camera" 7)]
    KeepSockets listenerSocket ∧
      inDirectory.orders emptyDirectory commands = [orderOf "camera", orderOf "radio"] ∧
      (orderOf "camera").socketPath ≠ (orderOf "radio").socketPath ∧
      socketsOf listenerSocket (inDirectory.carryOutAll emptyDirectory commands).2.1.drivers =
        [some (orderOf "camera").socketPath, some (orderOf "radio").socketPath] ∧
      (filesAfter "camera").locate false (orderOf "camera").socketPath =
        .ok (.present names .socket) ∧
      (filesFor { files := filesAfter "camera" } (orderOf "radio")).node? names = some .socket := by
  intro commands names
  have orders : inDirectory.orders emptyDirectory commands = [orderOf "camera", orderOf "radio"] :=
    rfl
  have first : orderOf "camera" ∈ inDirectory.orders emptyDirectory commands := by
    rw [orders]
    exact List.mem_cons_self
  have second : orderOf "radio" ∈ inDirectory.orders emptyDirectory commands := by
    rw [orders]
    exact List.mem_cons_of_mem _ List.mem_cons_self
  have apart : ¬ Alike (orderOf "camera").serviceName (orderOf "radio").serviceName := by decide
  obtain ⟨-, same, -, left⟩ :=
    sockets_of_launches keepSockets_listener inDirectory.config emptyDirectory commands
  have located := locate_filesAfter "camera" (by decide)
  refine ⟨keepSockets_listener, orders, fun e => apart ((same _ first _ second).mp e), rfl,
    located, ?_⟩
  rw [left _ first _ second _ names .socket located, if_neg fun h => apart h.1]

/-- Two services of different names whose drivers have one socket. When the second driver is
launched, the first one is in the table, and its socket is removed. -/
theorem sockets_of_launches_shared :
    let commands := [Command.launch (launchOf "a.b"), .launch (launchOf "a/b")]
    let names := [[115], Utf8.bytes (socketName "a.b" 7)]
    "a.b" ≠ "a/b" ∧
      inDirectory.orders emptyDirectory commands = [orderOf "a.b", orderOf "a/b"] ∧
      (orderOf "a.b").socketPath = (orderOf "a/b").socketPath ∧
      socketsOf listenerSocket (inDirectory.carryOutAll emptyDirectory commands).2.1.drivers =
        [some (orderOf "a.b").socketPath, some (orderOf "a/b").socketPath] ∧
      (filesAfter "a.b").locate false (orderOf "a.b").socketPath =
        .ok (.present names .socket) ∧
      (filesFor { files := filesAfter "a.b" } (orderOf "a/b")).node? names = none := by
  intro commands names
  have alike : Alike "a.b" "a/b" := by decide
  have same : (orderOf "a.b").socketPath = (orderOf "a/b").socketPath := by
    rw [socketPath_orderOf, socketPath_orderOf]
    exact socketPath_eq_iff.mpr alike
  have located := locate_filesAfter "a.b" (by decide)
  refine ⟨by decide, rfl, same, rfl, located, ?_⟩
  rw [socketPath_orderOf] at located
  show ((filesAfter "a.b").unlinked (orderOf "a/b").socketPath).node? names = none
  rw [socketPath_orderOf, node?_unlinked_socket located, if_pos ⟨alike, nofun⟩]

end Session

end HalBench
