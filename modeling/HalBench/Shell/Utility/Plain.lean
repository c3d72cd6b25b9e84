import HalBench.Shell.Builtin.Processes
import HalBench.Shell.Condition
import HalBench.Shell.Lookup
import HalBench.Shell.Printing
import HalBench.Shell.Utility.Paths
/-!
# Plain utilities

Programs that only leave a status, print words, wait, or tell something of the machine.
-/

namespace HalBench.Shell.Utility

def constant (status : Nat) : Utility := fun _ => return status

/-- The escapes that a program knows besides those of the shell, turned into theirs. -/
def withMoreEscapes : Nat → Text → Text
  | 0, _ => []
  | _ + 1, [] => []
  | fuel + 1, '\\' :: 'x' :: r =>
    let digits := (r.take 2).takeWhile fun c => digitValue c < 16
    if digits.isEmpty then '\\' :: 'x' :: withMoreEscapes fuel r
    else
      let c := Char.ofNat (digitsIn 16 digits).1
      (if c == '\\' then ['\\', '\\'] else [c]) ++ withMoreEscapes fuel (r.drop digits.length)
  | fuel + 1, '\\' :: c :: r =>
    if '1' ≤ c && c ≤ '7' then '\\' :: '\\' :: c :: withMoreEscapes fuel r
    else '\\' :: c :: withMoreEscapes fuel r
  | fuel + 1, c :: r => c :: withMoreEscapes fuel r

/-- Prints words. Letters in front say whether a line end is printed and escapes are replaced. -/
def echo : Utility := fun words => do
  let isFlags (w : Text) : Bool := match w with
    | '-' :: c :: r => (c :: r).all fun d => ['n', 'e', 'E'].contains d
    | _ => false
  let flags := words.takeWhile isFlags
  let letters := flags.flatMap (·.drop 1)
  let text := joinWith [' '] (words.drop flags.length)
  let escapes := (letters.filter (· != 'n')).getLast? == some 'e'
  let (text, cut) := if escapes then Printing.unescape (withMoreEscapes (text.length + 1) text)
    else (text, false)
  Action.print (text ++ (if letters.contains 'n' || cut then [] else ['\n']))
  return 0

/-- What a program tells of an argument of a format, given what a shell tells. -/
def programComplaint (text : Text) : Text :=
  let ending := (cutAt ':' text).getLast?.getD []
  let argument := text.take (text.length - (ending.length + 1))
  let reason := String.ofList ending
  if reason == " expected numeric value" then
    quote argument ++ ofString ": expected a numeric value"
  else if reason == " not completely converted" then
    quote argument ++ ofString ": value not completely converted"
  else quote argument ++ ':' :: ending

def printf : Utility := fun words => do
  match if words.head? == some ['-', '-'] then words.drop 1 else words with
  | [] => missingOperand 1
  | form :: arguments =>
    let pass := Printing.format .extended form arguments
    Action.print pass.output
    pass.complaints.forM fun text => complain (programComplaint text)
    match pass.refusal with
    | some reason =>
      let directive := (cutAt ':' reason).headD []
      refuse 1 (directive ++ ofString ": invalid conversion specification")
    | none => return if pass.complaints.isEmpty then 0 else 1

def test : Utility := fun words => do
  match Condition.holds (← get).files words with
  | .ok b => return if b then 0 else 1
  | .error (.unexpected w) => refuse 2 (ofString "extra argument " ++ quote w)
  | .error (.illegalNumber w) => refuse 2 (ofString "invalid integer " ++ quote w)
  | .error (.missing w) => refuse 2 (ofString "missing argument after " ++ quote w)
  | .error .unclosed => refuse 2 (ofString "')' expected")

def bracket : Utility := fun words =>
  if words.getLast? == some [']'] then test words.dropLast
  else refuse 2 (ofString "missing ']'")

/-- A span of time: a number of seconds, or of other units by a letter behind it. -/
def span? (text : Text) : Option Nat :=
  match Numeral.pointed? 10 (if text.head? == some '+' then text.drop 1 else text) with
  | none => if text == ofString "infinity" || text == ofString "inf" then some (tenTo 18) else none
  | some (n, places, rest) =>
    let unit : Option Nat := match rest with
      | [] => some 1
      | ['s'] => some 1
      | ['m'] => some 60
      | ['h'] => some 3600
      | ['d'] => some 86400
      | _ => none
    unit.map fun u => n * u * tenTo 9 / tenTo places

def sleep : Utility := fun words =>
  withOptions { letters := "", ordered := true } 1 words fun _ operands => do
    let bad := operands.filter fun w => (span? w).isNone
    if operands.isEmpty then missingOperand 1
    else if bad.isEmpty then
      Action.pass ((operands.filterMap span?).foldl (· + ·) 0)
      return 0
    else
      bad.forM fun w => complain (ofString "invalid time interval " ++ quote w)
      pointToHelp
      return 1

/-- The variables that programs get, in the order in which a shell hands them on. -/
def handedOn (s : State) : List (String × Text) := inRows 39 s.environment

def variableLine (v : String × Text) : Text := v.1.toList ++ '=' :: v.2 ++ ['\n']

def printenv : Utility := fun words =>
  withOptions { letters := "0", ordered := true, names := [("null", '0', .none)] } 2 words
    fun _ names => do
      let s ← get
      if names.isEmpty then
        Action.print ((handedOn s).flatMap variableLine)
        return 0
      else
        names.foldlM (fun status name => do
          match s.environment.lookup (String.ofList name) with
          | some value =>
            Action.print (value ++ ['\n'])
            return status
          | none => return 1) 0

def tells (text : String) : Utility := fun words =>
  withOptions { letters := "" } 1 words fun _ _ => do
    Action.print (ofString (text ++ "\n"))
    return 0

def id : Utility := fun words =>
  withOptions
    { letters := "agGnruzZ"
      names := [("user", 'u', .none), ("group", 'g', .none), ("groups", 'G', .none),
        ("name", 'n', .none), ("real", 'r', .none)] } 1 words fun o _ => do
    let one := has o 'u' || has o 'g' || has o 'G'
    Action.print (ofString (if one then (if has o 'n' then "root\n" else "0\n")
      else "uid=0(root) gid=0(root) groups=0(root)\n"))
    return 0

def uname : Utility := fun words =>
  withOptions
    { letters := "amnoprsvi"
      names := [("kernel-name", 's', .none), ("machine", 'm', .none),
        ("operating-system", 'o', .none)] } 1 words fun o operands => do
    match operands with
    | w :: _ => extraOperand w 1
    | [] =>
      let parts : List (Bool × String) :=
        [(o.isEmpty || has o 's' || has o 'a', "Linux"), (has o 'm' || has o 'a', "x86_64"),
          (has o 'p', "x86_64"), (has o 'i', "x86_64"), (has o 'o' || has o 'a', "GNU/Linux")]
      Action.print (joinWith [' '] ((parts.filter (·.1)).map fun p => ofString p.2) ++ ['\n'])
      return 0

def tty : Utility := fun words =>
  withOptions { letters := "s", names := [("silent", 's', .none), ("quiet", 's', .none)] } 2 words
    fun o _ => do
      if !has o 's' then Action.print (ofString "not a tty\n")
      return 1

def which : Utility := fun words => do
  let s ← get
  let (flags, names) := words.partition fun w => w.head? == some '-'
  let all := flags.any fun w => w.contains 'a'
  let path := (s.environment.lookup "PATH").getD []
  let runs (p : Text) : Bool := match nodeAt? s true p with
    | some (.program _) => true
    | some (.file _ executable) => executable
    | _ => false
  names.foldlM (fun status name => do
    let found := if name.contains '/' then (if runs name then [name] else [])
      else (directoriesOf path).filterMap fun dir =>
        let p := below dir name
        if runs p then some p else none
    let shown := if all then found else found.take 1
    Action.print (shown.flatMap (· ++ ['\n']))
    return if found.isEmpty then 1 else status) (if names.isEmpty then 1 else 0)

def kill : Utility := fun words => do
  let named (w : Text) : Option Nat := Signal.ofText? 0
    (if (ofString "SIG").isPrefixOf w then w.drop 3 else w)
  match words with
  | [] => refuse 1 (ofString "not enough arguments")
  | ['-', 'l'] :: w :: _ =>
    match named w with
    | some n =>
      Action.print ((if w.all Char.isDigit then (Signal.nameOf n).toList else showNat n) ++ ['\n'])
      return 0
    | none => refuse 1 (ofString "unknown signal name " ++ w)
  | words =>
    let (signal, pids) : Option Nat × List Text := match words with
      | ['-', 's'] :: w :: rest => (named w, rest)
      | ['-', '-'] :: rest => (some 15, rest)
      | ('-' :: w) :: rest => (named w, rest)
      | rest => (some 15, rest)
    match signal with
    | none => refuse 1 (ofString "unknown signal name")
    | some n =>
      pids.foldlM (fun status w => do
        match natural? w with
        | none =>
          complain (ofString "failed to parse argument: " ++ quote w)
          return 1
        | some p =>
          let s ← get
          if s.callers.contains p then
            if p != 1 then modify fun s => { s with sent := s.sent ++ [⟨p, n, s.clock⟩] }
            return status
          else
            match s.processes.find? fun j => j.processId == p && s.clock < j.finish with
            | some j =>
              if Signal.isDeadly n then Builtin.endJob j n
              return status
            | none =>
              complain (ofString "sending signal to " ++ w ++ ofString " failed: No such process")
              return 1) 0

def base64Digits : Array Char :=
  "ABCDEFGHIJKLMNOPQRSTUVWXYZabcdefghijklmnopqrstuvwxyz0123456789+/".toList.toArray

def encode64 : Nat → Text → Text
  | 0, _ => []
  | _ + 1, [] => []
  | fuel + 1, s =>
    let byte (n : Nat) : Nat := (s[n]?.map Char.toNat).getD 0
    let n := byte 0 * 65536 + byte 1 * 256 + byte 2
    let digit (k : Nat) : Char := base64Digits.getD (n / k % 64) 'A'
    let count := min s.length 3
    let all := [digit 262144, digit 4096, digit 64, digit 1]
    all.take (count + 1) ++ List.replicate (3 - count) '=' ++ encode64 fuel (s.drop 3)

/-- Four characters as three bytes, and so on; tells whether all could be read. -/
def decode64 : Nat → Text → Text × Bool
  | 0, _ => ([], true)
  | _ + 1, [] => ([], true)
  | fuel + 1, s =>
    let four := s.take 4
    let digits := four.takeWhile (· != '=')
    let value (c : Char) : Option Nat := base64Digits.idxOf? c
    match digits.mapM value with
    | none => ([], false)
    | some vs =>
      let at' (k : Nat) : Nat := vs.getD k 0
      let n := at' 0 * 262144 + at' 1 * 4096 + at' 2 * 64 + at' 3
      let bytes := [Char.ofNat (n / 65536), Char.ofNat (n / 256 % 256), Char.ofNat (n % 256)]
      if four.length < 4 then (bytes.take (digits.length - 1), false)
      else
        let (more, ok) := decode64 fuel (s.drop 4)
        (bytes.take (digits.length - 1) ++ more, ok && 1 < digits.length)

def base64 : Utility := fun words =>
  withOptions
    { letters := "diw:"
      names := [("decode", 'd', .none), ("ignore-garbage", 'i', .none), ("wrap", 'w', .needed)] } 1
    words fun o names => do
      match names with
      | _ :: second :: _ => extraOperand second 1
      | names =>
        let name := names.headD ['-']
        match ← content name with
        | .error fault =>
          complainOf [] (shown name) fault
          return 1
        | .ok text =>
          if has o 'd' then
            let kept := text.filter fun c => c != '\n'
              && (!has o 'i' || c == '=' || (base64Digits.idxOf? c).isSome)
            let (found, ok) := decode64 (kept.length + 1) kept
            Action.print found
            if ok then return 0
            else refuse 1 (ofString "invalid input")
          else
            let width := ((value? o 'w').bind natural?).getD 76
            let digits := encode64 (text.length + 1) text
            let rec rows : Nat → Text → Text
              | 0, _ => []
              | fuel + 1, s =>
                if s.isEmpty then []
                else if width = 0 then s
                else s.take width ++ '\n' :: rows fuel (s.drop width)
            Action.print (rows (digits.length + 1) digits)
            return 0

end HalBench.Shell.Utility
