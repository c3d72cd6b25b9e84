import HalBench.Notifier
import Mathlib.Logic.Function.Basic

/-! Threads that share a notifier. The count is behind a lock, and a thread is followed from one
instruction to the next: other threads come between any two of them, and a sleeper may be woken at
any moment, whether or not there is a notification, or by the clock after its deadline. That a
thread is alone while it has the lock, and that there is a notification where it takes one away
without looking, is not part of the rules: it is kept by every step. So no notification is lost
below the greatest count, none is taken away twice, and a wait gives up only where there is none. A
wait that is alone with the notifications, as `Notifier.wait` has it, is one of these orders. -/

namespace HalBench.Notifier

/-- Takes a notification away without looking whether there is one; the count is a word. -/
def decrement (n : Notifier) : Notifier := ⟨if n.pending = 0 then most else n.pending - 1⟩

theorem take?_eq (n : Notifier) : n.take? = if n.pending = 0 then none else some n.decrement := by
  obtain ⟨_ | k⟩ := n <;> rfl

inductive Call where
  | notify
  | wait (deadline : Option Nat)
  | count
  deriving DecidableEq, Repr

inductive Point where
  | outside
  | adding
  | counting
  /-- A wait looks whether there is a notification. -/
  | testing (deadline : Option Nat)
  | asleep (deadline : Option Nat)
  /-- A sleeper asks for the lock again, and knows whether its deadline woke it. -/
  | woken (deadline : Option Nat) (late : Bool)
  /-- A wait looks once more, after its deadline. -/
  | deciding (deadline : Option Nat)
  | taking (deadline : Option Nat)
  deriving DecidableEq, Repr

def Call.start : Call → Point
  | notify => .adding
  | wait deadline => .testing deadline
  | count => .counting

def Point.hasLock : Point → Bool
  | outside | asleep _ | woken .. => false
  | adding | counting | testing _ | deciding _ | taking _ => true

/-- The end of a call, with the count that a notification found or that was asked for. -/
inductive Event (τ : Type) where
  | notified (thread : τ) (before : Nat)
  | counted (thread : τ) (count : Nat)
  | succeeded (thread : τ)
  | gaveUp (thread : τ) (deadline : Option Nat)
  deriving DecidableEq, Repr

inductive Move (τ : Type) where
  | begins (thread : τ) (call : Call)
  | goesOn (thread : τ)
  /-- A sleeper is woken, by a notification or for no reason. -/
  | wakes (thread : τ)
  | timesOut (thread : τ)
  | passes (duration : Nat)
  deriving DecidableEq, Repr

/-- A notifier, the thread that has its lock, how far all threads are, and the time. -/
structure Shared (τ : Type) where
  notifier : Notifier := {}
  owner : Option τ := none
  point : τ → Point := fun _ => .outside
  clock : Nat := 0

namespace Shared

variable {τ : Type} [DecidableEq τ]

def goTo (s : Shared τ) (t : τ) (p : Point) : Shared τ :=
  { s with point := Function.update s.point t p }

def lock (s : Shared τ) (t : τ) (p : Point) : Shared τ := { s.goTo t p with owner := some t }

def unlock (s : Shared τ) (t : τ) (p : Point) (n : Notifier) : Shared τ :=
  { s.goTo t p with owner := none, notifier := n }

/-- The next instruction of a thread. Nothing happens where it has none, or waits for the lock. -/
def goOn (s : Shared τ) (t : τ) : Shared τ × Option (Event τ) :=
  match s.point t with
  | .outside | .asleep _ => (s, none)
  | .adding => (s.unlock t .outside s.notifier.notify, some (.notified t s.notifier.pending))
  | .counting => (s.unlock t .outside s.notifier, some (.counted t s.notifier.pending))
  | .testing deadline =>
    if s.notifier.pending = 0 then (s.unlock t (.asleep deadline) s.notifier, none)
    else (s.goTo t (.taking deadline), none)
  | .woken deadline late =>
    if s.owner = none then (s.lock t (if late then .deciding deadline else .testing deadline), none)
    else (s, none)
  | .deciding deadline =>
    if s.notifier.pending = 0 then
      (s.unlock t .outside s.notifier, some (.gaveUp t deadline))
    else (s.goTo t (.taking deadline), none)
  | .taking _ => (s.unlock t .outside s.notifier.decrement, some (.succeeded t))

/-- What a move makes of the threads, and the call that it ends. A move that is not possible makes
no difference. -/
def step (s : Shared τ) : Move τ → Shared τ × Option (Event τ)
  | .begins t call =>
    if s.owner = none ∧ s.point t = .outside then (s.lock t call.start, none) else (s, none)
  | .goesOn t => s.goOn t
  | .wakes t =>
    match s.point t with
    | .asleep deadline => (s.goTo t (.woken deadline false), none)
    | _ => (s, none)
  | .timesOut t =>
    match s.point t with
    | .asleep (some time) =>
      if time ≤ s.clock then (s.goTo t (.woken (some time) true), none) else (s, none)
    | _ => (s, none)
  | .passes duration => ({ s with clock := s.clock + duration }, none)

def run (s : Shared τ) : List (Move τ) → Shared τ × List (Event τ)
  | [] => (s, [])
  | move :: rest =>
    let (s, event) := s.step move
    let (s, events) := s.run rest
    (s, event.toList ++ events)

/-! ### What every step keeps -/

/-- What a thread may rely on where it is. -/
def Sure (n : Notifier) (clock : Nat) : Point → Prop
  | .taking _ => 0 < n.pending
  | .woken deadline true | .deciding deadline => ∃ time, deadline = some time ∧ time ≤ clock
  | _ => True

/-- One thread at most is where the lock is needed, and every thread is right in what it relies
on. -/
structure Sound (s : Shared τ) : Prop where
  owner_iff : ∀ t, s.owner = some t ↔ (s.point t).hasLock = true
  sure : ∀ t, Sure s.notifier s.clock (s.point t)

variable {s : Shared τ} {t u : τ} {p : Point} {n n' : Notifier} {clock clock' : Nat}

theorem Sure.later (h : Sure n clock p) (later : clock ≤ clock') : Sure n clock' p := by
  cases p with
  | woken deadline late =>
    cases late with
    | false => trivial
    | true =>
      obtain ⟨time, rfl, passed⟩ := h
      exact ⟨time, rfl, Nat.le_trans passed later⟩
  | deciding deadline =>
    obtain ⟨time, rfl, passed⟩ := h
    exact ⟨time, rfl, Nat.le_trans passed later⟩
  | taking deadline => exact h
  | _ => trivial

/-- Without the lock nothing is relied on that another thread may change. -/
theorem Sure.of_not_hasLock (h : Sure n clock p) (without : p.hasLock = false) :
    Sure n' clock p := by
  cases p with
  | taking deadline => cases without
  | woken deadline late =>
    cases late with
    | false => trivial
    | true => exact h
  | _ => exact h

namespace Sound

omit [DecidableEq τ] in
theorem start : Sound ({} : Shared τ) where
  owner_iff _ := iff_of_false nofun nofun
  sure _ := trivial

variable (h : Sound s)
include h

omit [DecidableEq τ] in
theorem alone (ht : (s.point t).hasLock = true) (hu : (s.point u).hasLock = true) : t = u := by
  have first := (h.owner_iff t).mpr ht
  rw [(h.owner_iff u).mpr hu] at first
  exact (Option.some.inj first).symm

theorem goTo (same : p.hasLock = (s.point t).hasLock) (sure : Sure s.notifier s.clock p) :
    Sound (s.goTo t p) where
  owner_iff u := by
    by_cases this : u = t
    · subst this
      simp only [Shared.goTo, Function.update_self, same]
      exact h.owner_iff u
    · simp only [Shared.goTo, Function.update_of_ne this]
      exact h.owner_iff u
  sure u := by
    by_cases this : u = t
    · subst this
      simpa only [Shared.goTo, Function.update_self] using sure
    · simpa only [Shared.goTo, Function.update_of_ne this] using h.sure u

theorem lock (free : s.owner = none) (has : p.hasLock = true)
    (sure : Sure s.notifier s.clock p) : Sound (s.lock t p) where
  owner_iff u := by
    by_cases this : u = t
    · subst this
      simp only [Shared.lock, Shared.goTo, Function.update_self, has]
    · have without := (h.owner_iff u).not.mp (by rw [free]; exact nofun)
      simp only [Shared.lock, Shared.goTo, Function.update_of_ne this]
      exact iff_of_false (fun mine => this (Option.some.inj mine).symm) without
  sure u := by
    by_cases this : u = t
    · subst this
      simpa only [Shared.lock, Shared.goTo, Function.update_self] using sure
    · simpa only [Shared.lock, Shared.goTo, Function.update_of_ne this] using h.sure u

theorem unlock (has : (s.point t).hasLock = true) (without : p.hasLock = false)
    (sure : Sure n s.clock p) : Sound (s.unlock t p n) where
  owner_iff u := by
    by_cases this : u = t
    · subst this
      simp only [Shared.unlock, Shared.goTo, Function.update_self, without]
      exact iff_of_false nofun nofun
    · simp only [Shared.unlock, Shared.goTo, Function.update_of_ne this]
      exact iff_of_false nofun fun hu => this (h.alone hu has)
  sure u := by
    by_cases this : u = t
    · subst this
      simpa only [Shared.unlock, Shared.goTo, Function.update_self] using sure
    · have other : (s.point u).hasLock = false :=
        Bool.eq_false_iff.mpr fun hu => this (h.alone hu has)
      simp only [Shared.unlock, Shared.goTo, Function.update_of_ne this]
      exact (h.sure u).of_not_hasLock other

theorem goOn (t : τ) : Sound (s.goOn t).1 := by
  have sure := h.sure t
  unfold Shared.goOn
  cases here : s.point t with
  | outside => exact h
  | asleep deadline => exact h
  | adding => exact h.unlock (by rw [here]; rfl) rfl trivial
  | counting => exact h.unlock (by rw [here]; rfl) rfl trivial
  | testing deadline =>
    simp only
    split
    · exact h.unlock (by rw [here]; rfl) rfl trivial
    · rename_i one
      exact h.goTo (by rw [here]; rfl) (Nat.pos_of_ne_zero one)
  | woken deadline late =>
    rw [here] at sure
    simp only
    split
    · rename_i free
      cases late with
      | false => exact h.lock free rfl trivial
      | true => exact h.lock free rfl sure
    · exact h
  | deciding deadline =>
    simp only
    split
    · exact h.unlock (by rw [here]; rfl) rfl trivial
    · rename_i one
      exact h.goTo (by rw [here]; rfl) (Nat.pos_of_ne_zero one)
  | taking deadline => exact h.unlock (by rw [here]; rfl) rfl trivial

theorem step (move : Move τ) : Sound (s.step move).1 := by
  cases move with
  | begins t call =>
    simp only [Shared.step]
    split
    · rename_i free
      cases call <;> exact h.lock free.1 rfl trivial
    · exact h
  | goesOn t => exact h.goOn t
  | wakes t =>
    simp only [Shared.step]
    split
    · rename_i here
      exact h.goTo (by rw [here]; rfl) trivial
    · exact h
  | timesOut t =>
    simp only [Shared.step]
    split
    · rename_i time here
      split
      · rename_i passed
        exact h.goTo (by rw [here]; rfl) ⟨time, rfl, passed⟩
      · exact h
    · exact h
  | passes duration =>
    exact ⟨h.owner_iff, fun t => (h.sure t).later (Nat.le_add_right _ _)⟩

theorem run (moves : List (Move τ)) : Sound (s.run moves).1 := by
  induction moves generalizing s with
  | nil => exact h
  | cons move rest ih => exact ih (h.step move)

end Sound

end Shared

/-! ### Counting -/

variable {τ : Type}

namespace Event

def isNotified : Event τ → Bool
  | notified .. => true
  | _ => false

def isKept : Event τ → Bool
  | notified _ before => before < most
  | _ => false

def isSucceeded : Event τ → Bool
  | succeeded _ => true
  | _ => false

end Event

/-- Notifications are all kept where none found the greatest count. -/
theorem countP_isKept_eq (events : List (Event τ)) :
    events.countP Event.isKept = events.countP Event.isNotified ↔
      ∀ t before, Event.notified t before ∈ events → before < most := by
  induction events with
  | nil => exact iff_of_true rfl nofun
  | cons event rest ih =>
    have fewer : rest.countP Event.isKept ≤ rest.countP Event.isNotified :=
      List.countP_mono_left fun event _ kept => by
        cases event with
        | notified t before => rfl
        | _ => exact kept
    cases event with
    | notified t before =>
      by_cases room : before < most
      · simp only [List.countP_cons, Event.isKept, Event.isNotified, room, decide_true, if_true,
          Nat.add_right_cancel_iff, ih, List.mem_cons, Event.notified.injEq]
        refine ⟨fun h t' before' mem => ?_, fun h t' before' mem => h t' before' (.inr mem)⟩
        obtain ⟨rfl, rfl⟩ | mem := mem
        · exact room
        · exact h t' before' mem
      · refine iff_of_false (fun same => ?_) fun h => room (h t before List.mem_cons_self)
        simp only [List.countP_cons, Event.isKept, Event.isNotified, room, decide_false,
          if_true] at same
        grind
    | _ =>
      simp only [List.countP_cons, Event.isKept, Event.isNotified, List.mem_cons, reduceCtorEq,
        false_or, ih, Bool.false_eq_true, if_false, Nat.add_zero]

namespace Shared

variable [DecidableEq τ] {s : Shared τ}

/-- What the end of a call says about the count before and after it, and about the time. -/
def Ends (s s' : Shared τ) : Option (Event τ) → Prop
  | none => s'.notifier = s.notifier
  | some (.notified _ before) =>
    before = s.notifier.pending ∧ s'.notifier = s.notifier.notify
  | some (.counted _ count) => count = s.notifier.pending ∧ s'.notifier = s.notifier
  | some (.succeeded _) => s.notifier.pending = s'.notifier.pending + 1
  | some (.gaveUp _ deadline) =>
    (∃ time, deadline = some time ∧ time ≤ s.clock) ∧ s.notifier.pending = 0 ∧
      s'.notifier = s.notifier

theorem Sound.goOn_ends (h : Sound s) (t : τ) : Ends s (s.goOn t).1 (s.goOn t).2 := by
  have sure := h.sure t
  unfold Shared.goOn
  cases here : s.point t with
  | outside => rfl
  | asleep deadline => rfl
  | adding => exact ⟨rfl, rfl⟩
  | counting => exact ⟨rfl, rfl⟩
  | testing deadline =>
    simp only
    split <;> rfl
  | woken deadline late =>
    simp only
    split <;> rfl
  | deciding deadline =>
    rw [here] at sure
    simp only
    split
    · rename_i empty
      exact ⟨sure, empty, rfl⟩
    · rfl
  | taking deadline =>
    rw [here] at sure
    have one : s.notifier.pending ≠ 0 := Nat.ne_of_gt sure
    simp only [Ends, decrement, if_neg one]
    exact (Nat.succ_pred one).symm

theorem Sound.ends (h : Sound s) (move : Move τ) : Ends s (s.step move).1 (s.step move).2 := by
  cases move with
  | goesOn t => exact h.goOn_ends t
  | begins t call =>
    simp only [Shared.step]
    split <;> rfl
  | wakes t =>
    simp only [Shared.step]
    split <;> rfl
  | timesOut t =>
    simp only [Shared.step]
    split
    · split <;> rfl
    · rfl
  | passes duration => rfl

variable {s' : Shared τ} {event : Option (Event τ)}

omit [DecidableEq τ] in
theorem Ends.pending (h : Ends s s' event) (fits : s.notifier.pending ≤ most) :
    s'.notifier.pending + event.toList.countP Event.isSucceeded =
      s.notifier.pending + event.toList.countP Event.isKept ∧ s'.notifier.pending ≤ most := by
  match event, h with
  | none, same => exact ⟨by rw [same]; rfl, by rwa [same]⟩
  | some (.notified _ _), ⟨rfl, added⟩ =>
    rw [added]
    by_cases room : s.notifier.pending < most
    · simp only [notify, Option.toList_some, List.countP_singleton, Event.isSucceeded,
        Event.isKept, room, decide_true, if_true, Bool.false_eq_true, if_false]
      omega
    · simp only [notify, Option.toList_some, List.countP_singleton, Event.isSucceeded,
        Event.isKept, room, decide_false, Bool.false_eq_true, if_false]
      omega
  | some (.counted _ _), ⟨_, same⟩ => exact ⟨by rw [same]; rfl, by rwa [same]⟩
  | some (.succeeded _), taken =>
    simp only [Ends] at taken
    simp only [Option.toList_some, List.countP_singleton, Event.isSucceeded, Event.isKept, if_true,
      Bool.false_eq_true, if_false]
    omega
  | some (.gaveUp _ _), ⟨_, _, same⟩ => exact ⟨by rw [same]; rfl, by rwa [same]⟩

theorem Sound.run_pending (h : Sound s) (fits : s.notifier.pending ≤ most)
    (moves : List (Move τ)) :
    (s.run moves).1.notifier.pending + (s.run moves).2.countP Event.isSucceeded =
        s.notifier.pending + (s.run moves).2.countP Event.isKept ∧
      (s.run moves).1.notifier.pending ≤ most := by
  induction moves generalizing s with
  | nil => exact ⟨rfl, fits⟩
  | cons move rest ih =>
    have first := (h.ends move).pending fits
    have later := ih (h.step move) first.2
    refine ⟨?_, later.2⟩
    simp only [Shared.run, List.countP_append]
    omega

end Shared

open Shared

/-- Whatever the threads did, the count is that of the notifications less that of the waits that
succeeded, as long as no notification found the greatest count; one that did is not counted. A
thread that is to take a notification away has the lock, and there is one. What may be next is a
call's end as `Ends` has it: a wait that gives up has a deadline, which has passed, finds no
notification and changes nothing. -/
theorem pending_add_succeeded [DecidableEq τ] (moves : List (Move τ)) :
    let s := (({} : Shared τ).run moves).1
    let events := (({} : Shared τ).run moves).2
    s.notifier.pending + events.countP Event.isSucceeded = events.countP Event.isKept ∧
      s.notifier.pending ≤ most ∧
      ((∀ t before, Event.notified t before ∈ events → before < most) ↔
        s.notifier.pending + events.countP Event.isSucceeded =
          events.countP Event.isNotified) ∧
      (∀ t deadline, s.point t = .taking deadline → 0 < s.notifier.pending) ∧
      (∀ t u, (s.point t).hasLock = true → (s.point u).hasLock = true → t = u) ∧
      ∀ move, Ends s (s.step move).1 (s.step move).2 := by
  intro s events
  have sound : Sound s := Sound.start.run moves
  have counts : s.notifier.pending + events.countP Event.isSucceeded =
      0 + events.countP Event.isKept ∧ s.notifier.pending ≤ most :=
    Sound.start.run_pending (Nat.zero_le most) moves
  rw [Nat.zero_add] at counts
  refine ⟨counts.1, counts.2, ?_, fun t deadline here => ?_, fun t u => sound.alone,
    fun move => sound.ends move⟩
  · rw [counts.1]
    exact (countP_isKept_eq events).symm
  · have sure := sound.sure t
    rwa [here] at sure

/-- The first thread sleeps past its deadline. Before it has the lock again the second one notifies:
its last look finds the notification, and it takes it. Then it waits once more, and gives up. -/
def raced : List (Move Bool) :=
  [.begins false (.wait (some 5)), .goesOn false, .passes 7, .timesOut false, .begins true .notify,
    .goesOn true, .goesOn false, .goesOn false, .goesOn false, .begins false (.wait (some 6)),
    .goesOn false, .timesOut false, .goesOn false, .goesOn false]

theorem pending_raced :
    (({} : Shared Bool).run raced).2 =
        [.notified true 0, .succeeded false, .gaveUp false (some 6)] ∧
      (({} : Shared Bool).run raced).1.notifier.pending + 1 = 1 ∧
      (({} : Shared Bool).run (raced.take 8)).1.point false = .taking (some 5) ∧
      0 < (({} : Shared Bool).run (raced.take 8)).1.notifier.pending := by
  have events : (({} : Shared Bool).run raced).2 =
      [.notified true 0, .succeeded false, .gaveUp false (some 6)] := by decide
  have taking : (({} : Shared Bool).run (raced.take 8)).1.point false = .taking (some 5) := by
    decide
  refine ⟨events, ?_, taking, (pending_add_succeeded _).2.2.2.1 _ _ taking⟩
  have few : ∀ t before, Event.notified t before ∈ (({} : Shared Bool).run raced).2 →
      before < most := by
    rw [events]
    intro t before mem
    obtain ⟨rfl, rfl⟩ : t = true ∧ before = 0 := by simpa using mem
    decide
  have counted := (pending_add_succeeded raced).2.2.1.mp few
  rwa [events] at counted

/-! ### A wait alone with the notifications -/

section Waits

variable [DecidableEq τ] {t u : τ} {n : Notifier} {deadline : Option Nat} {clock time : Nat}

def only (n : Notifier) (t : τ) (p : Point) (clock : Nat) : Shared τ where
  notifier := n
  owner := if p.hasLock then some t else none
  point := Function.update (fun _ => .outside) t p
  clock := clock

theorem run_append (s : Shared τ) (moves more : List (Move τ)) :
    s.run (moves ++ more) =
      (((s.run moves).1.run more).1, (s.run moves).2 ++ ((s.run moves).1.run more).2) := by
  induction moves generalizing s with
  | nil => rfl
  | cons move rest ih => simp only [List.cons_append, Shared.run, ih, List.append_assoc]

theorem only_run_begins (call : Call) :
    (only n t .outside clock).run [.begins t call] = (only n t call.start clock, []) := by
  cases call <;>
    simp [Shared.run, Shared.step, Shared.lock, Shared.goTo, only, Call.start, Point.hasLock]

theorem only_run_taking (one : n.pending ≠ 0) :
    (only n t (.testing deadline) clock).run [.goesOn t, .goesOn t] =
      (only n.decrement t .outside clock, [.succeeded t]) := by
  simp [Shared.run, Shared.step, Shared.goOn, Shared.unlock, Shared.goTo, only, Point.hasLock, one]

/-- A thread sleeps, is woken by another one's notification and has the lock again. -/
def naps (t u : τ) (duration : Nat) : List (Move τ) :=
  [.goesOn t, .passes duration, .begins u .notify, .goesOn u, .wakes t, .goesOn t]

theorem only_run_naps (other : u ≠ t) (empty : n.pending = 0) :
    (only n t (.testing deadline) clock).run (naps t u (time - clock)) =
      (only n.notify t (.testing deadline) (clock + (time - clock)), [.notified u 0]) := by
  have back : Function.update (Function.update (Function.update (fun _ => Point.outside) t
      (.asleep deadline)) u .adding) u .outside =
      Function.update (fun _ => .outside) t (.asleep deadline) := by
    rw [Function.update_idem, Function.update_eq_self_iff, Function.update_of_ne other]
  simp [naps, Shared.run, Shared.step, Shared.goOn, Shared.lock, Shared.unlock, Shared.goTo, only,
    Point.hasLock, Call.start, empty, Function.update_of_ne other, back]

theorem only_run_gaveUp (empty : n.pending = 0) :
    (only n t (.testing (some time)) clock).run
        [.goesOn t, .passes (time - clock), .timesOut t, .goesOn t, .goesOn t] =
      (only n t .outside (clock + (time - clock)), [.gaveUp t (some time)]) := by
  have passed : time ≤ clock + (time - clock) := by omega
  simp [Shared.run, Shared.step, Shared.goOn, Shared.lock, Shared.unlock, Shared.goTo, only,
    Point.hasLock, empty, passed]

variable {times : List Nat} {o : Outcome}

/-- The threads may come to a wait's outcome: another one makes the notifications that are no longer
to come, each where there is none. -/
def MayEnd (s : Shared τ) (t u : τ) (deadline : Option Nat) (times : List Nat) (o : Outcome) :
    Prop :=
  ∃ moves made clock,
    s.run moves = (only o.notifier t .outside clock, List.replicate made (.notified u 0) ++
      [if o.notified then .succeeded t else .gaveUp t deadline]) ∧
    made + o.coming.length = times.length

theorem mayEnd_testing (other : u ≠ t) (ends : n.wait deadline times = some o) :
    MayEnd (only n t (.testing deadline) clock) t u deadline times o := by
  induction times generalizing n clock with
  | nil =>
    simp only [wait, take?_eq] at ends
    by_cases empty : n.pending = 0
    · cases deadline with
      | none => simp [empty] at ends
      | some time =>
        simp only [empty, if_true, Option.some.injEq] at ends
        subst ends
        exact ⟨_, 0, _, only_run_gaveUp empty, rfl⟩
    · simp only [empty, if_false, Option.some.injEq] at ends
      subst ends
      exact ⟨_, 0, _, only_run_taking empty, rfl⟩
  | cons next later ih =>
    simp only [wait, take?_eq] at ends
    by_cases empty : n.pending = 0
    · simp only [empty, if_true] at ends
      split at ends
      · -- The notification comes in time, and the wait is where it was.
        have again : MayEnd (only n.notify t (.testing deadline) (clock + (next - clock))) t u
            deadline later o := ih ends
        obtain ⟨moves, made, clock', run, count⟩ := again
        refine ⟨naps t u (next - clock) ++ moves, made + 1, clock', ?_, ?_⟩
        · rw [run_append, only_run_naps other empty, run]
          rfl
        · rw [List.length_cons, ← count]
          omega
      · rename_i late
        cases deadline with
        | none => exact absurd rfl late
        | some time =>
          simp only [Option.some.injEq] at ends
          subst ends
          exact ⟨_, 0, _, only_run_gaveUp empty, Nat.zero_add _⟩
    · simp only [empty, if_false, Option.some.injEq] at ends
      subst ends
      exact ⟨_, 0, _, only_run_taking empty, Nat.zero_add _⟩

theorem mayEnd_wait (other : u ≠ t) (ends : n.wait deadline times = some o) :
    MayEnd (only n t .outside clock) t u deadline times o := by
  have tests : MayEnd (only n t (.testing deadline) clock) t u deadline times o :=
    mayEnd_testing other ends
  obtain ⟨moves, made, clock', run, count⟩ := tests
  refine ⟨[.begins t (.wait deadline)] ++ moves, made, clock', ?_, count⟩
  rw [run_append, only_run_begins, Call.start, run]
  rfl

end Waits

end HalBench.Notifier
