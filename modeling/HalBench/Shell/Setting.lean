import HalBench.Shell.Text
/-!
# Settings of a shell

What can be turned on and off in a shell, by a name and in most cases by a letter.
-/

namespace HalBench.Shell

inductive Setting where
  | errexit
  | noglob
  | ignoreeof
  | interactive
  | monitor
  | noexec
  | stdin
  | xtrace
  | verbose
  | vi
  | emacs
  | noclobber
  | allexport
  | notify
  | nounset
  | privileged
  | nolog
  | debug
  deriving DecidableEq, Repr

namespace Setting

def all : List (Setting × String × Option Char) :=
  [(errexit, "errexit", some 'e'), (noglob, "noglob", some 'f'),
    (ignoreeof, "ignoreeof", some 'I'), (interactive, "interactive", some 'i'),
    (monitor, "monitor", some 'm'), (noexec, "noexec", some 'n'), (stdin, "stdin", some 's'),
    (xtrace, "xtrace", some 'x'), (verbose, "verbose", some 'v'), (vi, "vi", some 'V'),
    (emacs, "emacs", some 'E'), (noclobber, "noclobber", some 'C'),
    (allexport, "allexport", some 'a'), (notify, "notify", some 'b'),
    (nounset, "nounset", some 'u'), (privileged, "privileged", some 'p'), (nolog, "nolog", none),
    (debug, "debug", none)]

def ofLetter? (c : Char) : Option Setting :=
  (all.find? fun (_, _, letter) => letter == some c).map (·.1)

def ofName? (name : Text) : Option Setting :=
  (all.find? fun (_, n, _) => n.toList == name).map (·.1)

def letters (on : List Setting) : Text :=
  all.reverse.filterMap fun (s, _, letter) => if on.contains s then letter else none

def table (on : List Setting) : Text :=
  ofString "Current option settings\n" ++ all.flatMap fun (s, name, _) =>
    padRight 16 name.toList ++ (if on.contains s then "on\n" else "off\n").toList

def commands (on : List Setting) : Text :=
  all.flatMap fun (s, name, _) =>
    ("set " ++ (if on.contains s then "-o " else "+o ") ++ name ++ "\n").toList

def turn (s : Setting) (on : Bool) (settings : List Setting) : List Setting :=
  if on then s :: settings.erase s else settings.filter (· != s)

end Setting

end HalBench.Shell
