import HalBench.Shell.Builtin.Names
import HalBench.Shell.Builtin.Places
import HalBench.Shell.Builtin.Processes
import HalBench.Shell.Builtin.Variables
import HalBench.Shell.Condition
import HalBench.Shell.Printing
/-!
# The commands of a shell

The commands that need nothing but their words, by their names: those that print, that tell whether
something holds, and that leave loops, functions and the shell itself.
-/

namespace HalBench.Shell.Builtin

/-- Leaves loops, or goes on with the next round of one; outside of loops nothing happens. -/
def leaveLoops (flow : Nat → Flow) (words : List Text) : Action Nat := do
  let n ← match words with
    | [] => pure 1
    | word :: _ =>
      let n ← numberOf word
      if n = 0 then Action.fail (ofString "Illegal number: " ++ word)
      pure n
  let depth := min n (← get).loops
  if depth != 0 then
    modify fun s => { s with status := 0 }
    throw (flow depth)
  return 0

/-- The status that a word gives, or else that of the last command; in an action for a signal it is
that of the command before the action. -/
def statusOf (words : List Text) : Action Unit := do
  match words with
  | [] => modify fun s => { s with status := s.savedStatus.getD s.status }
  | word :: _ =>
    let n ← numberOf word
    modify fun s => { s with status := n }

def exit (words : List Text) : Action Nat := do
  statusOf words
  throw .leave

def leaveFunction (words : List Text) : Action Nat := do
  statusOf words
  throw .leaveFunction

def test (words : List Text) : Action Nat := do
  match Condition.holds (← get).files words with
  | .ok b => return if b then 0 else 1
  | .error fault => Action.fail fault.message

def bracket (words : List Text) : Action Nat :=
  if words.getLast? == some [']'] then test words.dropLast
  else Action.fail (ofString "missing ]")

def echo (words : List Text) : Action Nat := do
  Action.print (Printing.echo words)
  return 0

def printf (words : List Text) : Action Nat := do
  let (_, words) ← readOptions "" words
  match words with
  | [] => Action.fail (ofString "usage: printf format [arg ...]")
  | form :: arguments =>
    let pass := Printing.format .double form arguments
    Action.print pass.output
    pass.complaints.forM Action.warn
    match pass.refusal with
    | some reason => Action.fail reason
    | none => return if pass.complaints.isEmpty then 0 else 1

def nothing (status : Nat) (_ : List Text) : Action Nat := return status

def table : List (String × (List Text → Action Nat)) :=
  [(":", nothing 0), ("true", nothing 0), ("false", nothing 1), ("echo", echo), ("printf", printf),
    ("test", test), ("[", bracket), ("break", leaveLoops .leaveLoop),
    ("continue", leaveLoops .nextRound), ("exit", exit), ("return", leaveFunction),
    ("export", exportTo), ("readonly", readonly), ("local", ofFunction), ("unset", unset),
    ("set", setAll), ("shift", shift), ("read", read), ("getopts", getopts), ("alias", aliases),
    ("unalias", unalias), ("hash", hash), ("type", type), ("command", command), ("cd", cd),
    ("chdir", cd), ("pwd", pwd), ("umask", umask), ("kill", kill), ("trap", trap), ("wait", wait),
    ("jobs", jobs), ("fg", moveJob), ("bg", moveJob), ("times", times), ("ulimit", ulimit)]

def ofName? (name : Text) : Option (List Text → Action Nat) := table.lookup (String.ofList name)

end HalBench.Shell.Builtin
