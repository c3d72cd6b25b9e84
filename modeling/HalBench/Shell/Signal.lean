/-!
# Signals

Signals by number, with the names by which scripts call them and the words that tell of a process
that one has ended.
-/

namespace HalBench.Shell

structure Signal where
  number : Nat
  name : String
  words : String
  deriving DecidableEq, Repr

namespace Signal

def all : List Signal :=
  [⟨1, "HUP", "Hangup"⟩, ⟨2, "INT", "Interrupt"⟩, ⟨3, "QUIT", "Quit"⟩,
    ⟨4, "ILL", "Illegal instruction"⟩, ⟨5, "TRAP", "Trace/breakpoint trap"⟩,
    ⟨6, "ABRT", "Aborted"⟩, ⟨7, "BUS", "Bus error"⟩, ⟨8, "FPE", "Floating point exception"⟩,
    ⟨9, "KILL", "Killed"⟩, ⟨10, "USR1", "User defined signal 1"⟩,
    ⟨11, "SEGV", "Segmentation fault"⟩, ⟨12, "USR2", "User defined signal 2"⟩,
    ⟨13, "PIPE", "Broken pipe"⟩, ⟨14, "ALRM", "Alarm clock"⟩, ⟨15, "TERM", "Terminated"⟩,
    ⟨16, "16", "Stack fault"⟩, ⟨17, "CHLD", "Child exited"⟩, ⟨18, "CONT", "Continued"⟩,
    ⟨19, "STOP", "Stopped (signal)"⟩, ⟨20, "TSTP", "Stopped"⟩,
    ⟨21, "TTIN", "Stopped (tty input)"⟩, ⟨22, "TTOU", "Stopped (tty output)"⟩,
    ⟨23, "URG", "Urgent I/O condition"⟩, ⟨24, "XCPU", "CPU time limit exceeded"⟩,
    ⟨25, "XFSZ", "File size limit exceeded"⟩, ⟨26, "VTALRM", "Virtual timer expired"⟩,
    ⟨27, "PROF", "Profiling timer expired"⟩, ⟨28, "WINCH", "Window changed"⟩,
    ⟨29, "IO", "I/O possible"⟩, ⟨30, "PWR", "Power failure"⟩, ⟨31, "SYS", "Bad system call"⟩]

def limit : Nat := 65

def nameOf (n : Nat) : String :=
  match all.find? fun s => s.number == n with
  | some s => s.name
  | none =>
    if n == 0 then "EXIT"
    else if n < 34 then toString n
    else if n == 34 then "RTMIN"
    else if n < 50 then "RTMIN+" ++ toString (n - 34)
    else if n == 64 then "RTMAX"
    else "RTMAX-" ++ toString (64 - n)

/-- The number of a signal that a word gives, by number or by name in any case, not below a least
one if by name. -/
def ofText? (least : Nat) (text : List Char) : Option Nat :=
  if !text.isEmpty && text.all Char.isDigit then
    let n := text.foldl (fun n c => n * 10 + (c.toNat - 48)) 0
    if n < limit then some n else none
  else
    ((List.range limit).drop least).find? fun n =>
      (nameOf n).toList.map Char.toUpper == text.map Char.toUpper

def ofNumber? (n : Nat) : Option Signal := all.find? fun s => s.number == n

def isDeadly (n : Nat) : Bool := !([0, 17, 18, 19, 20, 21, 22, 23, 28].contains n)

def isCertain (n : Nat) : Bool := n == 9 || n == 19

/-- What a shell says of a process that a signal has ended; nothing for an interrupt and for a
writer without a reader. -/
def obituary (n : Nat) : String :=
  if n == 2 || n == 13 then ""
  else
    match ofNumber? n with
    | some s => s.words ++ "\n"
    | none => "Unknown signal " ++ toString n ++ "\n"

end Signal

end HalBench.Shell
