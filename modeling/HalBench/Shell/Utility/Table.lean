import HalBench.Shell.Utility.Calculator
import HalBench.Shell.Utility.Cutting
import HalBench.Shell.Utility.Dump
import HalBench.Shell.Utility.Editor
import HalBench.Shell.Utility.Finding
import HalBench.Shell.Utility.Letters
import HalBench.Shell.Utility.Lines
import HalBench.Shell.Utility.Listing
import HalBench.Shell.Utility.Records
import HalBench.Shell.Utility.Search
import HalBench.Shell.Utility.Sequence
import HalBench.Shell.Utility.Sorting
/-!
# The utilities

All utilities by their names.
-/

namespace HalBench.Shell.Utility

def table : List (String × Utility) :=
  [("true", constant 0), ("false", constant 1), ("sync", constant 0), ("echo", echo),
    ("printf", printf), ("test", test), ("[", bracket), ("sleep", sleep), ("printenv", printenv),
    ("whoami", tells "root"), ("groups", tells "root"), ("arch", tells "x86_64"), ("id", id),
    ("uname", uname), ("tty", tty), ("which", which), ("kill", kill), ("base64", base64),
    ("cat", cat), ("head", head), ("tail", tail), ("tac", tac), ("rev", rev), ("tee", tee),
    ("wc", wc), ("nl", nl), ("fold", fold), ("paste", paste), ("expand", expand), ("tr", tr),
    ("cut", cut), ("od", od), ("sort", sort), ("uniq", uniq), ("comm", comm), ("seq", seq),
    ("yes", yes), ("factor", factor), ("grep", grep none), ("egrep", grep (some 'E')),
    ("fgrep", grep (some 'F')), ("sed", Editor.sed), ("expr", expr), ("basename", basename),
    ("dirname", dirname), ("readlink", readlink), ("realpath", realpath),
    ("pwd", workingDirectory), ("ls", ls), ("mkdir", mkdir), ("rmdir", rmdir), ("rm", rm),
    ("unlink", unlink), ("cp", cp), ("mv", mv), ("ln", ln), ("touch", touch), ("chmod", chmod),
    ("mktemp", mktemp), ("truncate", truncate)]

def callers : List (String × (Caller → Utility)) :=
  [("env", env), ("timeout", timeout), ("nohup", nohup), ("nice", nice), ("setsid", setsid),
    ("stdbuf", stdbuf), ("xargs", xargs), ("find", find), ("awk", Records.awk),
    ("mawk", Records.awk)]

def ofName? (name : String) : Option Utility := table.lookup name

end HalBench.Shell.Utility
