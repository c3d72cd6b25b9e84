import HalBench.Driver.Scripted
import HalBench.Proofs.Driver.Table
import HalBench.Session.State

/-! What a session knows of its drivers is told by the answers to its launches: which keys have a
driver, the number of each, and which service names have been launched. No other command and no
launch that fails makes a difference. -/

namespace HalBench.Session

open Driver Service

variable {δ ω : Type}

def launched? : Command × Response → Option Key
  | (.launch l, r) => if r.isSuccess then some l.key else none
  | _ => none

/-- The keys that were launched, in the order of their first launches. -/
def launchedKeys (log : List (Command × Response)) : List Key :=
  (log.filterMap launched?).eraseDups

def Returned (log : List (Command × Response)) (key : Key) (id : Id) : Prop :=
  ∃ l, (Command.launch l, Response.answer (.driver id)) ∈ log ∧ l.key = key

/-- Whether a launch under a service name was answered with success. -/
def LaunchedAs (log : List (Command × Response)) (service : String) : Prop :=
  ∃ l r, (Command.launch l, r) ∈ log ∧ l.serviceName = service ∧ r.isSuccess = true

/-! ### Logs that grow -/

section Logs

variable {log : List (Command × Response)} {c : Command} {r : Response}

theorem launchedKeys_concat (log : List (Command × Response)) (event : Command × Response) :
    launchedKeys (log ++ [event]) =
      match launched? event with
      | some key =>
        if key ∈ launchedKeys log then launchedKeys log else launchedKeys log ++ [key]
      | none => launchedKeys log := by
  rw [launchedKeys, Table.eraseDups_filterMap_concat]
  cases launched? event <;> rfl

theorem launchedKeys_success (log : List (Command × Response)) (l : Launch) (payload : Payload) :
    launchedKeys (log ++ [(.launch l, .answer payload)]) =
      if l.key ∈ launchedKeys log then launchedKeys log else launchedKeys log ++ [l.key] :=
  launchedKeys_concat log _

theorem length_launchedKeys_append {log more : List (Command × Response)} :
    (launchedKeys log).length ≤ (launchedKeys (log ++ more)).length :=
  Table.length_eraseDups_filterMap_append launched? log more

theorem mem_concat {event : Command × Response} :
    event ∈ log ++ [(c, r)] ↔ event ∈ log ∨ event = (c, r) := by
  rw [List.mem_append, List.mem_singleton]

theorem returned_concat {key : Key} {id : Id} :
    Returned (log ++ [(c, r)]) key id ↔
      Returned log key id ∨ ∃ l, c = .launch l ∧ r = .answer (.driver id) ∧ l.key = key := by
  simp only [Returned, mem_concat, or_and_right, exists_or, Prod.mk.injEq, and_assoc, eq_comm]

theorem launchedAs_concat {service : String} :
    LaunchedAs (log ++ [(c, r)]) service ↔
      LaunchedAs log service ∨
        ∃ l, c = .launch l ∧ l.serviceName = service ∧ r.isSuccess = true := by
  simp only [LaunchedAs, mem_concat, or_and_right, exists_or, Prod.mk.injEq, and_assoc]
  refine or_congr_right ⟨?_, ?_⟩
  · rintro ⟨l, r', launch, rfl, named⟩
    exact ⟨l, launch.symm, named⟩
  · rintro ⟨l, launch, named⟩
    exact ⟨l, r, launch.symm, rfl, named⟩

/-- What the launches of a session tell about its table. -/
structure Launched (log : List (Command × Response)) (t : Table δ) : Prop where
  numbered : t.Numbered (launchedKeys log)
  answered : ∀ l r, (Command.launch l, r) ∈ log → r.isSuccess = true →
    ∃ id, r = .answer (.driver id)
  returned : ∀ key id, Returned log key id ↔ t.resolve key = some id
  named : ∀ service, LaunchedAs log service ↔ (t.lookup service).isSome

theorem launched_nothing : Launched [] ({} : Table δ) where
  numbered := Table.numbered_empty
  answered _ _ member := nomatch member
  returned _ _ := iff_of_false (fun ⟨_, member, _⟩ => nomatch member) nofun
  named _ := iff_of_false (fun ⟨_, _, member, _⟩ => nomatch member) nofun

namespace Launched

variable {t t' : Table δ} {l : Launch} {id : Id}

theorem quiet (h : Launched log t) (same : t.SameNumbers t')
    (failed : ∀ l, c = .launch l → r.isSuccess = false) : Launched (log ++ [(c, r)]) t' where
  numbered := by
    have none : launched? (c, r) = none := by
      cases c with
      | launch l => simp [launched?, failed l rfl]
      | _ => rfl
    rw [launchedKeys_concat, none]
    exact h.numbered.of_sameNumbers same
  answered l r' member success := by
    rcases mem_concat.mp member with earlier | now
    · exact h.answered l r' earlier success
    · obtain ⟨launch, rfl⟩ := Prod.mk.inj now
      rw [failed l launch.symm] at success
      cases success
  returned key id := by
    rw [returned_concat, h.returned, same.resolve_eq]
    refine ⟨fun now => now.resolve_right ?_, .inl⟩
    rintro ⟨l, launch, rfl, -⟩
    cases failed l launch
  named service := by
    rw [launchedAs_concat, h.named, same.lookup_eq]
    refine ⟨fun now => now.resolve_right ?_, .inl⟩
    rintro ⟨l, launch, -, success⟩
    rw [failed l launch] at success
    cases success

/-- A launch that returns the number of its key, and after which its service name is bound. -/
theorem success (h : Launched log t)
    (numbered : t'.Numbered (launchedKeys (log ++ [(.launch l, .answer (.driver id))])))
    (resolve : ∀ key, t'.resolve key = if key = l.key then some id else t.resolve key)
    (known : ∀ id', t.resolve l.key = some id' → id' = id)
    (lookup : ∀ service,
      (t'.lookup service).isSome ↔ service = l.serviceName ∨ (t.lookup service).isSome) :
    Launched (log ++ [(.launch l, .answer (.driver id))]) t' where
  numbered := numbered
  answered l' r' member success := by
    rcases mem_concat.mp member with earlier | now
    · exact h.answered l' r' earlier success
    · exact ⟨id, (Prod.mk.inj now).2⟩
  returned key id' := by
    rw [returned_concat, h.returned, resolve]
    by_cases same : key = l.key
    · subst same
      rw [if_pos rfl]
      constructor
      · rintro (old | ⟨l', -, response, -⟩)
        · rw [known id' old]
        · cases response
          rfl
      · rintro ⟨⟩
        exact .inr ⟨l, rfl, rfl, rfl⟩
    · rw [if_neg same]
      refine or_iff_left ?_
      rintro ⟨l', launch, -, rfl⟩
      cases launch
      exact same rfl
  named service := by
    rw [launchedAs_concat, h.named, lookup, or_comm]
    refine or_congr_left ⟨?_, ?_⟩
    · rintro ⟨l', launch, rfl, -⟩
      cases launch
      rfl
    · rintro rfl
      exact ⟨l, rfl, rfl, rfl⟩

theorem again (h : Launched log t) (known : t.resolve l.key = some id) :
    Launched (log ++ [(.launch l, .answer (.driver id))]) (t.bind l.serviceName id).2 := by
  have member : l.key ∈ launchedKeys log :=
    h.numbered.resolve_isSome.mp (Option.isSome_of_eq_some known)
  refine h.success ?_ ?_ ?_ ?_
  · rw [launchedKeys_success, if_pos member]
    exact h.numbered.bind
  · intro key
    rw [Table.resolve_bind]
    split
    · rename_i same
      rw [same, known]
    · rfl
  · intro id' known'
    exact Option.some.inj (known'.symm.trans known)
  · intro service
    rw [Table.lookup_bind, Table.bind_known _ (h.numbered.lt_size known)]
    by_cases same : service = l.serviceName <;> simp [same]

theorem new (h : Launched log t) (new : t.resolve l.key = none) {driver : δ}
    (room : t.size < UInt32.size) :
    Launched
      (log ++ [(.launch l,
        .answer (.driver (t.registerNamed l.serviceName l.key l.category driver).1))])
      (t.registerNamed l.serviceName l.key l.category driver).2 := by
  have registered : (t.register l.key l.category driver).2.Numbered _ :=
    h.numbered.register (.inr room)
  rw [Table.registerNamed_eq]
  refine h.success ?_ ?_ ?_ ?_
  · rw [launchedKeys_success]
    exact registered.bind
  · intro key
    rw [Table.resolve_bind, Table.resolve_register]
  · intro id known
    rw [new] at known
    cases known
  · intro service
    rw [Table.lookup_bind, h.numbered.bind_register (.inr room), Table.lookup_register]
    by_cases same : service = l.serviceName <;> simp [same]

end Launched

end Logs

/-! ### Carrying out commands -/

section Commands

variable [Host δ ω] {h : State δ} {w : ω} {l : Launch} {c : Command} {id : Id}

/-- A launch finds the driver of its key, or launches none, or launches the driver of a new key that
the host answers its order with. -/
theorem launch_cases (h : State δ) (l : Launch) (w : ω) :
    (∃ id, h.drivers.resolve l.key = some id ∧
      h.launch l w = (.answer (.driver id),
        { h with drivers := (h.drivers.bind l.serviceName id).2 }, w)) ∨
    (∃ reason w', h.launch l w = (.failure reason, h, w')) ∨
    (h.drivers.resolve l.key = none ∧ ∃ driver w',
      Host.launch (h.launchOrder l (Host.processId δ w)) w = (.ok driver, w') ∧
      h.launch l w =
        (.answer (.driver (h.drivers.registerNamed l.serviceName l.key l.category driver).1),
          { h with
            drivers := (h.drivers.registerNamed l.serviceName l.key l.category driver).2 }, w')) := by
  rw [State.launch]
  cases known : h.drivers.resolve l.key with
  | some id => exact .inl ⟨id, rfl, rfl⟩
  | none =>
    simp only
    rcases Host.launch (h.launchOrder l (Host.processId δ w)) w with ⟨e | driver, w'⟩
    · exact .inr (.inl ⟨e.message, w', rfl⟩)
    · exact .inr (.inr ⟨trivial, driver, w', rfl, rfl⟩)

theorem launch_known (known : h.drivers.resolve l.key = some id) :
    h.launch l w =
      (.answer (.driver id), { h with drivers := (h.drivers.bind l.serviceName id).2 }, w) := by
  rw [State.launch, known]

theorem launch_new (new : h.drivers.resolve l.key = none)
    (success : (h.launch l w).1.isSuccess = true) :
    (h.launch l w).1 = .answer (.driver (UInt32.ofNat h.drivers.size)) := by
  rcases launch_cases h l w with ⟨id, known, -⟩ | ⟨reason, w', failed⟩ |
    ⟨-, driver, w', -, launched⟩
  · rw [new] at known
    cases known
  · rw [failed] at success
    cases success
  · rw [launched, Table.registerNamed_eq, Table.register_new new]

variable [Model δ ω]

/-- Commands with their responses, each carried out in the state that the one before it left. -/
def State.carryOutAll : State δ → ω → List Command → List (Command × Response) × State δ × ω
  | h, w, [] => ([], h, w)
  | h, w, c :: rest =>
    let ((response, _), h, w) := h.carryOut w c
    let (log, h, w) := h.carryOutAll w rest
    ((c, response) :: log, h, w)

theorem launch_failed (failed : (h.carryOut w (.launch l)).1.1.isSuccess = false) :
    h.drivers.SameNumbers (h.carryOut w (.launch l)).2.1.drivers := by
  simp only [State.carryOut] at failed ⊢
  rcases launch_cases h l w with ⟨id, -, known⟩ | ⟨reason, w', refused⟩ | ⟨-, driver, w', -, new⟩
  · rw [known] at failed
    cases failed
  · rw [refused]
    exact .refl
  · rw [new] at failed
    cases failed

theorem call_sameNumbers (h : State δ) (id : Id) (m : Message) (w : ω) :
    h.drivers.SameNumbers (h.call id m w).2.1.drivers := by
  rw [State.call]
  cases h.drivers.key? id with
  | none => exact .refl
  | some key => exact Table.invoke_sameNumbers

theorem listFunctions_sameNumbers (h : State δ) (id : Id) (w : ω) :
    h.drivers.SameNumbers (h.listFunctions id w).2.1.drivers := by
  rw [State.listFunctions]
  cases h.drivers.key? id with
  | none => exact .refl
  | some key =>
    have same : h.drivers.SameNumbers (h.drivers.functions id w).2.1 :=
      Table.functions_sameNumbers
    simp only
    split <;> exact same

/-- Commands that launch nothing leave the keys, their numbers and the service names. -/
theorem carryOut_sameNumbers (other : ∀ l, c ≠ .launch l) :
    h.drivers.SameNumbers (h.carryOut w c).2.1.drivers := by
  cases c with
  | launch l => exact absurd rfl (other l)
  | call id m => exact call_sameNumbers h id m w
  | listFunctions id => exact listFunctions_sameNumbers h id w
  | shell commands =>
    simp only [State.carryOut, State.shell]
    split <;> exact .refl
  | _ => exact .refl

theorem Launched.carryOut {log : List (Command × Response)} (launched : Launched log h.drivers)
    (c : Command) (w : ω)
    (fits : (launchedKeys (log ++ [(c, (h.carryOut w c).1.1)])).length ≤ UInt32.size) :
    Launched (log ++ [(c, (h.carryOut w c).1.1)]) (h.carryOut w c).2.1.drivers := by
  by_cases launch : ∃ l, c = .launch l
  · obtain ⟨l, rfl⟩ := launch
    simp only [State.carryOut] at fits ⊢
    rcases launch_cases h l w with ⟨id, known, again⟩ | ⟨reason, w', failed⟩ |
      ⟨unknown, driver, w', -, new⟩
    · rw [again]
      exact launched.again known
    · rw [failed]
      exact launched.quiet .refl fun _ _ => rfl
    · rw [new] at fits ⊢
      rw [launchedKeys_success] at fits
      have room := (launched.numbered.room fits).resolve_left
        (launched.numbered.resolve_eq_none.mp unknown)
      exact launched.new unknown room
  · have other : ∀ l, c ≠ .launch l := fun l same => launch ⟨l, same⟩
    exact launched.quiet (carryOut_sameNumbers other) fun l same => absurd same (other l)

theorem Launched.carryOutAll {log : List (Command × Response)} (launched : Launched log h.drivers)
    (w : ω) (commands : List Command)
    (fits : (launchedKeys (log ++ (h.carryOutAll w commands).1)).length ≤ UInt32.size) :
    Launched (log ++ (h.carryOutAll w commands).1) (h.carryOutAll w commands).2.1.drivers := by
  induction commands generalizing log h w with
  | nil => simpa [State.carryOutAll] using launched
  | cons c rest ih =>
    simp only [State.carryOutAll] at fits ⊢
    rw [List.append_cons] at fits ⊢
    exact ih (launched.carryOut c w (Nat.le_trans length_launchedKeys_append fits)) _ fits

theorem unknownDriver_ne (id : Id) (text : String) :
    State.unknownDriver id ≠ .failure ("driver " ++ text) := by
  intro same
  have texts := congrArg (fun r => (r.reason.getD "").toList.head?) same
  simp [State.unknownDriver, Response.failure, String.toList_append] at texts

theorem call_unknown (h : State δ) (id : Id) (m : Message) (w : ω) :
    (h.call id m w).1 = State.unknownDriver id ↔ h.drivers.key? id = none := by
  rw [State.call]
  cases h.drivers.key? id with
  | none => exact iff_of_true rfl rfl
  | some key =>
    refine iff_of_false ?_ nofun
    simp only
    split
    · rw [String.append_assoc, String.append_assoc]
      exact (unknownDriver_ne id _).symm
    · exact nofun

theorem listFunctions_unknown (h : State δ) (id : Id) (w : ω) :
    (h.listFunctions id w).1 = State.unknownDriver id ↔ h.drivers.key? id = none := by
  rw [State.listFunctions]
  cases h.drivers.key? id with
  | none => exact iff_of_true rfl rfl
  | some key =>
    refine iff_of_false ?_ nofun
    simp only
    split <;> exact nofun

theorem Launched.returned_iff {log : List (Command × Response)} (launched : Launched log h.drivers) :
    (∃ key, Returned log key id) ↔ h.drivers.key? id ≠ none := by
  simp only [launched.returned, launched.numbered.resolve_eq_key?, Option.ne_none_iff_exists']

/-- In a session that starts without drivers, after any commands and with any outcomes of their
launches, the next command `c` is answered by what the launches have returned. A service name
passes the check when a launch under it has succeeded. Every launch that succeeds returns a number,
and launches return equal numbers exactly for equal keys. A key that was launched before keeps its
number, and nothing is started for it; a new key gets the number of keys launched before. Calls are
refused exactly for numbers that no launch returned. Only a launch that succeeds changes the keys,
their numbers or the service names. -/
theorem carryOut_after_launches (config : Config) (w : ω) (before : List Command) (c : Command) :
    let start : State δ := { config }
    let log := (start.carryOutAll w before).1
    let h := (start.carryOutAll w before).2.1
    let w' := (start.carryOutAll w before).2.2
    let response := (h.carryOut w' c).1.1
    let h' := (h.carryOut w' c).2.1
    let log' := log ++ [(c, response)]
    (launchedKeys log').length ≤ UInt32.size →
    (∀ service, c = .checkService service → (response.isSuccess = true ↔ LaunchedAs log service)) ∧
    (∀ l r, (.launch l, r) ∈ log' → r.isSuccess = true → ∃ id, r = .answer (.driver id)) ∧
    (∀ l l' id id', (.launch l, .answer (.driver id)) ∈ log' →
      (.launch l', .answer (.driver id')) ∈ log' → (id = id' ↔ l.key = l'.key)) ∧
    (∀ l id, c = .launch l → Returned log l.key id →
      response = .answer (.driver id) ∧ h'.drivers.entries = h.drivers.entries ∧
      h'.drivers.numbers = h.drivers.numbers ∧ (h.carryOut w' c).2.2 = w') ∧
    (∀ l, c = .launch l → l.key ∉ launchedKeys log → response.isSuccess = true →
      ∃ id, response = .answer (.driver id) ∧ id.toNat = (launchedKeys log).length) ∧
    (∀ id m, c = .call id m ∨ c = .listFunctions id →
      (response = State.unknownDriver id ↔ ¬ ∃ key, Returned log key id)) ∧
    ((∀ l, c = .launch l → response.isSuccess = false) →
      h.drivers.SameNumbers h'.drivers) := by
  intro start log h w' response h' log' fits
  have launched : Launched log h.drivers := by
    have fits' := Nat.le_trans length_launchedKeys_append fits
    simpa using launched_nothing.carryOutAll (h := start) w before (by simpa using fits')
  have next : Launched log' h'.drivers := launched.carryOut c w' fits
  refine ⟨?_, next.answered, ?_, ?_, ?_, ?_, ?_⟩
  · rintro service rfl
    rw [launched.named]
    show (h.checkService service).isSuccess = true ↔ _
    rw [State.checkService]
    cases h.drivers.lookup service <;> simp [Response.isSuccess, Response.success, Response.failure]
  · intro l l' id id' first second
    have known := (next.returned l.key id).mp ⟨l, first, rfl⟩
    have known' := (next.returned l'.key id').mp ⟨l', second, rfl⟩
    constructor
    · rintro rfl
      rw [next.numbered.resolve_eq_key?] at known known'
      exact Option.some.inj (known.symm.trans known')
    · intro same
      rw [same] at known
      exact Option.some.inj (known.symm.trans known')
  · rintro l id rfl returned
    have known := (launched.returned l.key id).mp returned
    simp only [response, h', State.carryOut, launch_known known, Table.entries_bind,
      Table.numbers_bind, and_self]
  · rintro l rfl new success
    have unknown : h.drivers.resolve l.key = none := launched.numbered.resolve_eq_none.mpr new
    have returns : response = .answer (.driver (UInt32.ofNat h.drivers.size)) :=
      launch_new unknown success
    have room : h.drivers.size < UInt32.size := by
      refine (launched.numbered.room ?_).resolve_left new
      rwa [← launchedKeys_success, ← returns]
    exact ⟨_, returns, by rw [Table.toNat_ofNat_size room, launched.numbered.size_eq]⟩
  · rintro id m (rfl | rfl)
    · rw [launched.returned_iff, ne_eq, Classical.not_not]
      exact call_unknown h id m w'
    · rw [launched.returned_iff, ne_eq, Classical.not_not]
      exact listFunctions_unknown h id w'
  · intro failed
    by_cases launch : ∃ l, c = .launch l
    · obtain ⟨l, rfl⟩ := launch
      exact launch_failed (failed l rfl)
    · exact carryOut_sameNumbers fun l same => launch ⟨l, same⟩

end Commands

instance oneAbsent : Host Scripted Unit where
  launch order w := (if order.serviceName = "absent" then .error (.missingBinary []) else .ok {}, w)
  release _ w := w
  listing _ _ := .error .noSuchFile
  shell _ w := ({}, w)
  clock w := (0, w)
  processId _ := 0
  hostName _ := ""

/-- A launch, one that fails, and one of the same key under another name. -/
theorem carryOut_after_launches_again :
    let camera : Key := ⟨"hal", "1.0", "ICamera", "default"⟩
    let radio : Key := ⟨"hal", "1.0", "IRadio", "default"⟩
    let start : State Scripted := { config := default }
    let before : List Command :=
      [.launch { serviceName := "camera", key := camera },
        .launch { serviceName := "absent", key := radio }]
    let log := (start.carryOutAll () before).1
    let h := (start.carryOutAll () before).2.1
    let again : Launch := { serviceName := "second", key := camera }
    let response := (h.carryOut () (.launch again)).1.1
    (launchedKeys (log ++ [(.launch again, response)])).length ≤ UInt32.size ∧
      Returned log camera 0 ∧ response = .answer (.driver 0) ∧
      (h.carryOut () (.launch again)).2.1.drivers.entries = h.drivers.entries := by
  intro camera radio start before log h again response
  have keys : launchedKeys (log ++ [(.launch again, response)]) = [camera] := by decide
  have fits : (launchedKeys (log ++ [(.launch again, response)])).length ≤ UInt32.size := by
    rw [keys]
    decide
  obtain ⟨-, -, -, known, -, -, -⟩ :=
    carryOut_after_launches default () before (.launch again) fits
  have returned : Returned log camera 0 :=
    ⟨{ serviceName := "camera", key := camera }, List.mem_cons_self, rfl⟩
  obtain ⟨answered, entries, -, -⟩ := known again 0 rfl returned
  exact ⟨fits, returned, answered, entries⟩

end HalBench.Session
