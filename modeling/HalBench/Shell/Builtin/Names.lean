import HalBench.Shell.Lookup
/-!
# Commands about names

Aliases, and what names mean.
-/

namespace HalBench.Shell.Builtin

def showAlias (name : String) (value : Text) : Action Unit :=
  Action.print (name.toList ++ '=' :: quoted value ++ ['\n'])

/-- The name and the value of a word that sets an alias; an equals sign at its start is none. -/
def aliasOf? (word : Text) : Option (Text × Text) :=
  match word with
  | [] => none
  | c :: r =>
    let name := r.takeWhile (· != '=')
    match r.drop name.length with
    | _ :: value => some (c :: name, value)
    | [] => none

def setAlias (name : String) (value : Text) (aliases : List (String × Text)) :
    List (String × Text) :=
  if (aliases.lookup name).isSome then
    aliases.map fun (n, v) => if n == name then (n, value) else (n, v)
  else aliases ++ [(name, value)]

def aliases (words : List Text) : Action Nat := do
  if words.isEmpty then
    (inRows 39 (← get).aliases).forM fun (name, value) => showAlias name value
    return 0
  words.foldlM (fun status word => do
    match aliasOf? word with
    | some (name, value) =>
      modify fun s => { s with aliases := setAlias (String.ofList name) value s.aliases }
      return status
    | none =>
      match (← get).aliases.lookup (String.ofList word) with
      | some value =>
        showAlias (String.ofList word) value
        return status
      | none =>
        Action.complain (ofString "alias: " ++ word ++ ofString " not found")
        return 1) 0

def unalias (words : List Text) : Action Nat := do
  let (flags, words) ← readOptions "a" words
  if !flags.isEmpty then
    modify fun s => { s with aliases := [] }
    return 0
  words.foldlM (fun status word => do
    let name := String.ofList word
    if ((← get).aliases.lookup name).isSome then
      modify fun s => { s with aliases := s.aliases.filter (·.1 != name) }
      return status
    else
      Action.complain (ofString "unalias: " ++ word ++ ofString " not found")
      return 1) 0

/-- Looks for programs and remembers them, shows what is remembered, or forgets it. -/
def hash (words : List Text) : Action Nat := do
  let (flags, words) ← readOptions "r" words
  if !flags.isEmpty then
    modify fun s => { s with found := [] }
    return 0
  if words.isEmpty then
    (inRows 31 (← get).found).forM fun (_, full) => Action.print (full ++ ['\n'])
    return 0
  words.foldlM (fun status word => do
    let s ← get
    let name := String.ofList word
    if word.contains '/' || isShellCommand word || (s.functions.lookup name).isSome then
      return status
    set { s with found := s.found.filter (·.1 != name) }
    match ← findProgram (searchPath s) word with
    | .ok _ => return status
    | .error fault =>
      Action.warn (word ++ ofString (": " ++ callFault fault))
      return 1) 0

def type (words : List Text) : Action Nat := do
  words.foldlM (fun status word => do
    let path := searchPath (← get)
    return max status (← describe true path word)) 0

/-- Tells what a name means; without one there is nothing to tell. -/
def command (words : List Text) : Action Nat := do
  let (flags, words) ← readOptions "pvV" words
  let s ← get
  let path := if (flags.lookup 'p').isSome then usualPath else searchPath s
  match (flags.filter fun f => f.1 != 'p').getLast?, words with
  | some (c, _), word :: _ => describe (c == 'V') path word
  | _, _ => return 0

end HalBench.Shell.Builtin
