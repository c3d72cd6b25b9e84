import HalBench.Machine
import HalBench.Proofs.Files.Walk
import Mathlib.Data.List.TakeWhile

/-! What a launched driver prints. Its output is divided at the newlines, whatever stands between
them, and each line is judged by its own bytes: one that says that the driver is ready gives one
notification. A line that is not text is the end of the reading, so all that is said of a whole output
depends on there being no such line. -/

namespace HalBench.Driver

open Files

/-! ### Lines -/

structure Line where
  body : Output
  time : Nat

def Output.bytes (out : Output) : Bytes := out.map (·.2)

namespace Line

def output (l : Line) : Output := l.body ++ [(l.time, 10)]

def read (l : Line) : Nat × Bytes := (l.time, Output.bytes l.body)

end Line

/-- Some output is divided into lines with their newlines, and what comes after the last newline. -/
structure Divided (out : Output) (whole : List Line) (last : Output) : Prop where
  output_eq : out = whole.flatMap Line.output ++ last
  whole_bytes : ∀ l ∈ whole, (10 : UInt8) ∉ Output.bytes l.body
  last_bytes : (10 : UInt8) ∉ Output.bytes last

/-- What comes after the last newline is a line when the output ends, unless it is nothing. -/
def lastLine (ending : Option Nat) (last : Output) : Option (Nat × Bytes) :=
  if last = [] then none else ending.map fun time => (time, Output.bytes last)

section Lines

variable {ending : Option Nat} {out body rest last : Output} {whole : List Line} {pending : Bytes}

theorem exists_divided (out : Output) : ∃ whole last, Divided out whole last := by
  induction out with
  | nil => exact ⟨[], [], rfl, nofun, nofun⟩
  | cons head rest ih =>
    obtain ⟨time, b⟩ := head
    obtain ⟨whole, last, output_eq, whole_bytes, last_bytes⟩ := ih
    by_cases newline : b = 10
    · refine ⟨⟨[], time⟩ :: whole, last, ?_, List.forall_mem_cons.mpr ⟨nofun, whole_bytes⟩,
        last_bytes⟩
      rw [newline, output_eq]
      rfl
    · -- The byte belongs to the line after it, which may be the last one.
      have other (body : Output) (h : (10 : UInt8) ∉ Output.bytes body) :
          (10 : UInt8) ∉ Output.bytes ((time, b) :: body) :=
        List.not_mem_cons_of_ne_of_not_mem (Ne.symm newline) h
      cases whole with
      | nil => exact ⟨[], (time, b) :: last, by rw [output_eq]; rfl, nofun, other _ last_bytes⟩
      | cons l more =>
        have bytes := List.forall_mem_cons.mp whole_bytes
        refine ⟨⟨(time, b) :: l.body, l.time⟩ :: more, last, by rw [output_eq]; rfl,
          List.forall_mem_cons.mpr ⟨other _ bytes.1, bytes.2⟩, last_bytes⟩

theorem lines_append (h : (10 : UInt8) ∉ Output.bytes body) :
    lines ending pending (body ++ rest) = lines ending (pending ++ Output.bytes body) rest := by
  induction body generalizing pending with
  | nil => simp [Output.bytes]
  | cons head body ih =>
    obtain ⟨other, more⟩ := List.ne_and_not_mem_of_not_mem_cons h
    rw [List.cons_append, lines, if_neg (Ne.symm other), ih more, List.append_assoc]
    rfl

theorem lines_last (h : (10 : UInt8) ∉ Output.bytes last) :
    lines ending [] last = (lastLine ending last).toList := by
  have ends : lines ending [] (last ++ []) = lines ending ([] ++ Output.bytes last) [] :=
    lines_append h
  rw [List.append_nil, List.nil_append] at ends
  rw [ends]
  cases last with
  | nil => cases ending <;> rfl
  | cons head more => cases ending <;> rfl

theorem lines_divided (h : Divided out whole last) :
    lines ending [] out = whole.map Line.read ++ (lastLine ending last).toList := by
  obtain ⟨rfl, whole_bytes, last_bytes⟩ := h
  induction whole with
  | nil => exact lines_last last_bytes
  | cons l more ih =>
    obtain ⟨bytes, more_bytes⟩ := List.forall_mem_cons.mp whole_bytes
    rw [List.flatMap_cons, Line.output, List.append_assoc, List.append_assoc, lines_append bytes,
      List.cons_append, lines, if_pos rfl, List.nil_append, List.nil_append, ih more_bytes]
    rfl

/-- What was read of some output is what is read of a longer one at first. -/
theorem lines_prefix : lines none pending out <+: lines ending pending (out ++ rest) := by
  induction out generalizing pending with
  | nil => exact List.nil_prefix
  | cons head more ih =>
    simp only [List.cons_append, lines]
    split
    · exact List.cons_prefix_cons.mpr ⟨rfl, ih⟩
    · exact ih

end Lines

/-! ### Watching -/

def isText (line : Bytes) : Bool := (Utf8.decode? line).isSome

/-- Whether a line is text and says nothing but the word. -/
def saysReady (line : Bytes) : Bool := (Utf8.decode? line).any isReadyLine

def readyTimes (ls : List (Nat × Bytes)) : List Nat :=
  (ls.filter fun l => saysReady l.2).map (·.1)

def readable (ls : List (Nat × Bytes)) : List (Nat × Bytes) := ls.takeWhile fun l => isText l.2

section Watching

variable {ls : List (Nat × Bytes)} {time : Nat} {line : Bytes}

theorem watch_broken (broken : isText line = false) : watch ((time, line) :: ls) = ⟨[], some ls⟩ := by
  have undecoded : Utf8.decode? line = none := by simpa [isText] using broken
  rw [watch, undecoded]

theorem watch_text (text : isText line = true) :
    watch ((time, line) :: ls) = if saysReady line then (watch ls).notify time else watch ls := by
  obtain ⟨t, decoded⟩ := Option.isSome_iff_exists.mp text
  rw [watch, saysReady, decoded]
  rfl

/-- Each readable line is judged by its own bytes, and what comes after the first line that is not
text is left. -/
theorem watch_eq (ls : List (Nat × Bytes)) :
    watch ls = ⟨readyTimes (readable ls), (ls.dropWhile fun l => isText l.2).tail?⟩ := by
  induction ls with
  | nil => rfl
  | cons l more ih =>
    cases text : isText l.2 with
    | false =>
      rw [watch_broken text]
      simp only [readable, List.takeWhile_cons, List.dropWhile_cons, text]
      rfl
    | true =>
      rw [watch_text text, ih]
      simp only [readable, readyTimes, List.takeWhile_cons, List.dropWhile_cons, text, if_true,
        List.filter_cons]
      split <;> rfl

theorem unread_eq_none : (watch ls).unread = none ↔ ∀ l ∈ ls, isText l.2 := by
  rw [watch_eq, ← List.dropWhile_eq_nil_iff]
  cases ls.dropWhile fun l => isText l.2 <;> simp

theorem notified_of_text (text : ∀ l ∈ ls, isText l.2) : (watch ls).notified = readyTimes ls := by
  rw [watch_eq, readable, List.takeWhile_eq_self_iff.mpr text]

end Watching

theorem readyAt_eq (timeout : Duration) (times : List Nat) :
    readyAt timeout times = times.head?.filter (· ≤ timeout) := by
  cases times with
  | nil => rfl
  | cons time later =>
    rw [readyAt, Notifier.wait, List.head?_cons, Option.filter_some]
    by_cases early : time ≤ timeout
    · cases later <;> simp [Notifier.wait, Notifier.take?, Notifier.notify, Notifier.most, early]
    · simp [Notifier.take?, early]

/-! ### Launching -/

/-- Whether a launch did not fail for a driver that is not ready. -/
def FoundReady (r : Except LaunchFailure Remote) : Prop :=
  ∀ service timeout, r ≠ .error (.notReady service timeout)

/-- The files when a driver is started: what is left of an older socket is gone. -/
def filesFor (m : Machine) (order : LaunchOrder) : Tree :=
  ((m.files.remove order.socketPath).toOption).getD m.files

/-- When the output of a driver ends, if the driver does. -/
def finish (run : Shell.Ending × Shell.State) : Option Nat :=
  if run.1 = .stopped then none else some (max run.2.clock run.2.heldUntil)

/-- A launch starts a driver, and some output is what the driver prints until the timeout. -/
structure Prints (m : Machine) (order : LaunchOrder) (ending : Option Nat) (out : Output) : Prop where
  isFile : m.files.isFile order.binary = true
  runs : ∃ i, Machine.image (filesFor m order) order.binary order.arguments = .ok i ∧
    let run := Machine.runDriver (filesFor m order) i order.readyTimeout
    finish run = ending ∧ Machine.output run.2.printed = out

theorem foundReady_iff {m : Machine} {order : LaunchOrder} {ending : Option Nat} {out : Output}
    (h : Prints m order ending out) :
    FoundReady (m.launch order).1 ↔
      (readyAt order.readyTimeout (watch (lines ending [] out)).notified).isSome := by
  obtain ⟨isFile, i, image, rfl, rfl⟩ := h
  rcases ran : Machine.runDriver (filesFor m order) i order.readyTimeout with ⟨e, s⟩
  have times : (watch (lines (finish (e, s)) [] (Machine.output s.printed))).notified =
      Machine.readyTimes e s := rfl
  simp only [filesFor] at image ran
  rw [times, Machine.launch, isFile]
  simp only [Bool.not_true, Bool.false_eq_true, if_false, image, ran]
  cases readyAt order.readyTimeout (Machine.readyTimes e s) with
  | none => exact iff_of_false (fun found => found _ _ rfl) nofun
  | some time =>
    refine iff_of_true ?_ rfl
    simp only
    split <;> exact nofun

/-! ### A driver that prints its words -/

section Echo

variable {specDir : Path} {printed : Bytes}

def echoFiles : Tree where
  nodes := [([[114]], .file (Utf8.bytes "#!/e\n") true), ([[101]], .program "echo")]

def echoOrder (specDir : Path) : LaunchOrder :=
  ⟨[47, 114], [47, 115], "svc", specDir, 300 * Duration.millisecond⟩

def echoImage (specDir : Path) : Shell.Image :=
  ⟨"echo", ['/', 'e'], ['/', 'r'] :: (echoOrder specDir).arguments.map Shell.ofBytes⟩

theorem remove_socket : ((echoFiles.remove [47, 115]).toOption).getD echoFiles = echoFiles := by
  have walked : echoFiles.walk .name maxLinks [] [[115]] = .ok (.absent [] [115]) := by
    rw [Tree.walk]
    rfl
  have absent : echoFiles.locate false [47, 115] = .ok (.absent [] [115]) := walked
  rw [Tree.remove, absent]
  rfl

theorem look_script : echoFiles.look true [47, 114] = .ok (.file (Utf8.bytes "#!/e\n") true) :=
  Tree.look_of_leads rfl (by decide) (by decide)
    (.stop (show Tree.Proper [114] by decide) rfl (by simp) (by simp)) (Nat.zero_le _)

theorem look_program : echoFiles.look true [47, 101] = .ok (.program "echo") :=
  Tree.look_of_leads rfl (by decide) (by decide)
    (.stop (show Tree.Proper [101] by decide) rfl (by simp) (by simp)) (Nat.zero_le _)

theorem image_echo (noNul : 0 ∉ specDir) :
    Machine.image echoFiles [47, 114] (echoOrder specDir).arguments = .ok (echoImage specDir) := by
  have words : ¬ ([47, 114] :: (echoOrder specDir).arguments).any (fun a => a.contains 0) := by
    simp [echoOrder, LaunchOrder.arguments, noNul]
    decide
  rw [Machine.image, if_neg words]
  show Shell.Image.ofPath echoFiles 5 ['/', 'r'] _ _ = _
  rw [Shell.Image.ofPath, show Shell.toBytes ['/', 'r'] = [47, 114] from rfl, look_script]
  show Shell.Image.ofPath echoFiles 4 ['/', 'e'] _ _ = _
  rw [Shell.Image.ofPath, show Shell.toBytes ['/', 'e'] = [47, 101] from rfl, look_program]
  rfl

theorem output_once {chunks : List Shell.Chunk} {time : Nat}
    (once : chunks.map (fun c => (c.time, Shell.toBytes c.text)) = [(time, printed)]) :
    Machine.output chunks = printed.map (time, ·) := by
  obtain ⟨c, rfl, same⟩ := List.map_eq_singleton_iff.mp once
  obtain ⟨rfl, rfl⟩ := Prod.mk.inj same
  rw [Machine.output, List.reverse_singleton, List.mergeSort_singleton, List.flatMap_singleton]

theorem prints_echo (noNul : 0 ∉ specDir)
    (ran : let run := Machine.runDriver echoFiles (echoImage specDir) (300 * Duration.millisecond)
      finish run = some 1 ∧
        run.2.printed.map (fun c => (c.time, Shell.toBytes c.text)) = [(1, printed)]) :
    Prints { files := echoFiles } (echoOrder specDir) (some 1) (printed.map (1, ·)) where
  isFile := by
    show echoFiles.isFile [47, 114] = true
    rw [Tree.isFile, look_script]
  runs := by
    have files : filesFor { files := echoFiles } (echoOrder specDir) = echoFiles := remove_socket
    rw [files]
    exact ⟨_, image_echo noNul, ran.1, output_once ran.2⟩

end Echo

/-! ### Every output -/

/-- All output is divided at its newlines, and each line is read when it is complete. The
notifications are those of the readable lines, one for each line that says nothing but the word
between blanks, whatever the others say. Only a line that is not text ends the reading: without one,
all that was printed is read at every moment, and no line that says so is missed. A driver is found
ready exactly if the first readable line that says so is complete at the timeout. -/
theorem output_watched (ending : Option Nat) (out : Output) :
    let ls := lines ending [] out
    (∃ whole last, Divided out whole last ∧
      ls = whole.map Line.read ++ (lastLine ending last).toList) ∧
    (watch ls).notified = readyTimes (readable ls) ∧
    ((watch ls).unread = none ↔ ∀ l ∈ ls, isText l.2) ∧
    ((∀ l ∈ ls, isText l.2) → (watch ls).notified = readyTimes ls ∧
      ∀ earlier, earlier <+: out → (watch (lines none [] earlier)).unread = none) ∧
    ∀ m order, Prints m order ending out → (FoundReady (m.launch order).1 ↔
      ∃ l, (readable ls).find? (fun l => saysReady l.2) = some l ∧ l.1 ≤ order.readyTimeout) := by
  intro ls
  have notified : (watch ls).notified = readyTimes (readable ls) := by rw [watch_eq]
  refine ⟨?_, notified, unread_eq_none, fun text => ⟨notified_of_text text, ?_⟩,
    fun m order prints => ?_⟩
  · obtain ⟨whole, last, divided⟩ := exists_divided out
    exact ⟨whole, last, divided, lines_divided divided⟩
  · rintro earlier ⟨later, rfl⟩
    have first : lines none [] earlier <+: ls := lines_prefix
    exact unread_eq_none.mpr fun l member => text l (first.subset member)
  · rw [foundReady_iff prints, notified, readyAt_eq, readyTimes, List.head?_map, List.head?_filter]
    cases (readable ls).find? fun l => saysReady l.2 <;> simp

/-- Blanks around the word make no difference, nor do the lines before and after it. -/
theorem output_watched_blanks :
    let m : Machine := { files := echoFiles }
    let specDir := Utf8.bytes "\r\n ready\t\r\nmore"
    let printed := Utf8.bytes "/r --socket /s --service svc --spec-dir " ++ specDir ++ [10]
    let ls := lines (some 1) [] (printed.map (1, ·))
    Prints m (echoOrder specDir) (some 1) (printed.map (1, ·)) ∧ (∀ l ∈ ls, isText l.2) ∧
      watch ls = ⟨[1], none⟩ ∧ FoundReady (m.launch (echoOrder specDir)).1 := by
  intro m specDir printed ls
  have prints : Prints m (echoOrder specDir) (some 1) (printed.map (1, ·)) :=
    prints_echo (by decide +kernel) (by decide +kernel)
  have text : ∀ l ∈ ls, isText l.2 := by decide +kernel
  have times : readyTimes ls = [1] := by decide +kernel
  obtain ⟨-, -, ends, whole, found⟩ := output_watched (some 1) (printed.map (1, ·))
  have first : (readable ls).find? (fun l => saysReady l.2) = some (1, Utf8.bytes " ready\t\r") := by
    decide +kernel
  refine ⟨prints, text, ?_, (found m _ prints).mpr ⟨_, first, by decide⟩⟩
  have notified : (watch ls).notified = [1] := (whole text).1.trans times
  have unread : (watch ls).unread = none := ends.mpr text
  rw [← notified, ← unread]

/-- The line that says that a driver is ready comes after a line that is not text. It is not read,
and the driver is not found ready. -/
theorem output_unwatched :
    let m : Machine := { files := echoFiles }
    let specDir := 255 :: Utf8.bytes "\nready"
    let printed := Utf8.bytes "/r --socket /s --service svc --spec-dir " ++ specDir ++ [10]
    let ls := lines (some 1) [] (printed.map (1, ·))
    let line := (1, Utf8.bytes "ready")
    Prints m (echoOrder specDir) (some 1) (printed.map (1, ·)) ∧ line ∈ ls ∧ saysReady line.2 ∧
      watch ls = ⟨[], some [line]⟩ ∧ ¬ FoundReady (m.launch (echoOrder specDir)).1 := by
  intro m specDir printed ls line
  have prints : Prints m (echoOrder specDir) (some 1) (printed.map (1, ·)) :=
    prints_echo (by decide +kernel) (by decide +kernel)
  have watched : watch ls = ⟨[], some [line]⟩ := by decide +kernel
  refine ⟨prints, by decide +kernel, by decide +kernel, watched, ?_⟩
  rw [foundReady_iff prints, watched]
  exact nofun

end HalBench.Driver
