import HalBench.Proofs.Driver.Table
import HalBench.Proofs.Number.Digits
import HalBench.Proofs.Service.Name
import HalBench.Tool.Replay

/-! The drivers of a replay are launched one after another, each with its own key and its own
socket. The number in the name of a socket is the number of drivers before it, and as no two names
give the same key, every launch adds one. -/

namespace HalBench.Tool

open Driver Service

section Sockets

variable {settings : Settings} {p q : UInt32}

theorem join_relative {dir path path' : Files.Path} (relative : path.isAbsolute = false)
    (relative' : path'.isAbsolute = false) (h : dir.join path = dir.join path') : path = path' := by
  simp only [Files.Path.join, relative, relative', Bool.false_or] at h
  split at h
  · exact h
  · split at h
    · exact List.append_cancel_left h
    · exact (List.cons.inj (List.append_cancel_left h)).2

def socketName (count : Nat) (processId : UInt32) : String :=
  "hal_trace_" ++ toString count ++ "_" ++ toString processId.toNat ++ ".sock"

theorem toList_socketName (count : Nat) (processId : UInt32) :
    (socketName count processId).toList =
      "hal_trace_".toList ++ (Nat.toDigits 10 count ++
        (['_'] ++ ((toString processId.toNat).toList ++ ".sock".toList))) := by
  show ("hal_trace_" ++ toString count ++ "_" ++ toString processId.toNat ++ ".sock").toList = _
  simp only [String.toList_append, List.append_assoc, Digits.toList_toString count]
  rfl

theorem socketName_count {m n : Nat} (h : socketName m p = socketName n q) : m = n := by
  have noMark (n : Nat) : '_' ∉ Nat.toDigits 10 n := Digits.not_mem_toDigits (by decide) n
  have lists := congrArg String.toList h
  rw [toList_socketName, toList_socketName] at lists
  have cut := congrArg (Text.cut ['_']) (List.append_cancel_left lists)
  rw [Text.cut_append (noMark m), Text.cut_append (noMark n)] at cut
  exact Digits.toDigits_injective (Prod.mk.inj (Option.some.inj cut)).1

/-- Sockets of drivers that were launched after different numbers of others are different. -/
theorem replaySocket_count {m n : Nat} (h : replaySocket settings m p = replaySocket settings n q) :
    m = n := by
  have relative (count : Nat) (processId : UInt32) :
      Files.Path.isAbsolute (Utf8.bytes (socketName count processId)) = false := by
    rw [Utf8.bytes, toList_socketName]
    rfl
  exact socketName_count (Utf8.bytes_injective (join_relative (relative _ _) (relative _ _) h))

end Sockets

section Launching

variable {δ ω : Type} [Session.Host δ ω] {o : ReplayChoice} {settings : Settings}
  {names : List String} {orders : List LaunchOrder} {t t' : Table δ} {w w' : ω}

theorem socketPath_replayLaunch (count : Nat) (processId : UInt32) (name : String) :
    (replayLaunch o settings count processId name).socketPath =
      replaySocket settings count processId := by
  rw [replayLaunch]

def keyFor (o : ReplayChoice) (name : String) : Option Key :=
  Key.ofQualified? name (instanceFor o name)

/-- Drivers are launched for names in their order, and all of them start. The names of no interface
are passed over. -/
inductive Launches (o : ReplayChoice) (settings : Settings) :
    List String → Table δ → ω → List LaunchOrder → Table δ → ω → Prop where
  | done (t : Table δ) (w : ω) : Launches o settings [] t w [] t w
  | passed {name : String} {rest : List String} {t t' : Table δ} {w w' : ω}
      {orders : List LaunchOrder} (noInterface : keyFor o name = none)
      (further : Launches o settings rest t w orders t' w') :
      Launches o settings (name :: rest) t w orders t' w'
  | launched {name : String} {rest : List String} {t t' : Table δ} {w v w' : ω} {key : Key}
      {order : LaunchOrder} {driver : δ} {orders : List LaunchOrder}
      (parsed : keyFor o name = some key)
      (ordered : order = replayLaunch o settings t.size (Session.Host.processId δ w) name)
      (started : Session.Host.launch order w = (.ok driver, v))
      (further : Launches o settings rest (t.register key .hidl driver).2 v orders t' w') :
      Launches o settings (name :: rest) t w (order :: orders) t' w'

/-- A table before launches for names: its keys are found, and none of them is for one of the
names. -/
structure Awaits (names : List String) (t : Table δ) : Prop where
  distinct : names.Nodup
  known : ∀ key, (t.resolve key).isSome ↔ key ∈ t.entries.map (·.key)
  fresh : ∀ key ∈ t.entries.map (·.key), key.qualifiedName ∉ names

namespace Awaits

variable {name : String} {rest : List String} {key : Key}

theorem tail (h : Awaits (name :: rest) t) : Awaits rest t where
  distinct := (List.nodup_cons.mp h.distinct).2
  known := h.known
  fresh key member := fun inRest => h.fresh key member (List.mem_cons_of_mem _ inRest)

theorem new (h : Awaits (name :: rest) t) (parsed : keyFor o name = some key) :
    t.resolve key = none := by
  rw [← Option.not_isSome_iff_eq_none, h.known]
  intro member
  apply h.fresh key member
  rw [(Key.qualifiedName_of_ofQualified? parsed).1]
  exact List.mem_cons_self

theorem keys_register (h : Awaits (name :: rest) t) (parsed : keyFor o name = some key)
    (driver : δ) : (t.register key .hidl driver).2.entries.map (·.key) =
      t.entries.map (·.key) ++ [key] := by
  rw [Table.entries_register_new (h.new parsed), List.map_append]
  rfl

theorem size_register (h : Awaits (name :: rest) t) (parsed : keyFor o name = some key)
    (driver : δ) : (t.register key .hidl driver).2.size = t.size + 1 := by
  rw [Table.size, Table.entries_register_new (h.new parsed), List.length_append]
  rfl

theorem register (h : Awaits (name :: rest) t) (parsed : keyFor o name = some key) (driver : δ) :
    Awaits rest (t.register key .hidl driver).2 where
  distinct := h.tail.distinct
  known key' := by
    rw [h.keys_register parsed, List.mem_append, List.mem_singleton, Table.resolve_register]
    by_cases same : key' = key
    · simp [same]
    · simp [same, h.known]
  fresh key' member := by
    rw [h.keys_register parsed, List.mem_append, List.mem_singleton] at member
    rcases member with old | rfl
    · exact h.tail.fresh key' old
    · rw [(Key.qualifiedName_of_ofQualified? parsed).1]
      exact (List.nodup_cons.mp h.distinct).1

end Awaits

namespace Launches

/-- The keys of the names are registered, in the order of the names and after those before. -/
theorem keys_eq (run : Launches o settings names t w orders t' w') (h : Awaits names t) :
    t'.entries.map (·.key) = t.entries.map (·.key) ++ names.filterMap (keyFor o) ∧
      ∀ key, (t'.resolve key).isSome ↔ key ∈ t'.entries.map (·.key) := by
  induction run with
  | done => exact ⟨(List.append_nil _).symm, h.known⟩
  | passed noInterface _ ih =>
    obtain ⟨keys, known⟩ := ih h.tail
    rw [List.filterMap_cons_none noInterface]
    exact ⟨keys, known⟩
  | launched parsed _ _ _ ih =>
    obtain ⟨keys, known⟩ := ih (h.register parsed _)
    rw [List.filterMap_cons_some parsed]
    refine ⟨?_, known⟩
    rw [keys, h.keys_register parsed, List.append_assoc]
    rfl

theorem sockets (run : Launches o settings names t w orders t' w') (h : Awaits names t) :
    (∀ order ∈ orders, ∃ count processId, t.size ≤ count ∧
      order.socketPath = replaySocket settings count processId) ∧
      (orders.map (·.socketPath)).Nodup := by
  induction run with
  | done => exact ⟨nofun, List.nodup_nil⟩
  | passed _ _ ih => exact ih h.tail
  | launched parsed ordered _ _ ih =>
    obtain ⟨later, distinct⟩ := ih (h.register parsed _)
    rw [h.size_register parsed] at later
    subst ordered
    refine ⟨List.forall_mem_cons.mpr ⟨⟨_, _, Nat.le_refl _, socketPath_replayLaunch _ _ _⟩,
      fun order member => ?_⟩, ?_⟩
    · obtain ⟨count, processId, less, path⟩ := later order member
      exact ⟨count, processId, Nat.le_of_succ_le less, path⟩
    · refine List.nodup_cons.mpr ⟨fun member => ?_, distinct⟩
      -- The numbers of later sockets are greater.
      obtain ⟨order, member, same⟩ := List.mem_map.mp member
      obtain ⟨count, processId, less, path⟩ := later order member
      simp only [path, socketPath_replayLaunch] at same
      have count_eq := replaySocket_count same
      omega

end Launches

end Launching

end HalBench.Tool
