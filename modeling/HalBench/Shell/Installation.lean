import HalBench.Shell.Utility.Table
/-!
# The files of a new machine

The directories, devices and programs that are there before anything else is.
-/

namespace HalBench.Shell.Installation

def names (path : String) : List Bytes := Files.Path.names (Files.Path.ofString path)

def directories : List String :=
  ["boot", "dev", "dev/fd", "etc", "home", "media", "mnt", "opt", "proc", "root", "run", "srv",
    "sys", "tmp", "usr", "usr/bin", "usr/games", "usr/include", "usr/lib", "usr/local",
    "usr/local/bin", "usr/local/lib", "usr/local/sbin", "usr/sbin", "usr/share", "usr/src", "var",
    "var/log", "var/tmp"]

def links : List (String × String) :=
  [("bin", "usr/bin"), ("lib", "usr/lib"), ("lib64", "usr/lib"), ("sbin", "usr/sbin")]

def devices : List (String × Files.Device) :=
  [("dev/null", .null), ("dev/full", .full), ("dev/zero", .zero), ("dev/tty", .terminal),
    ("dev/stdin", .descriptor 0), ("dev/stdout", .descriptor 1), ("dev/stderr", .descriptor 2)]
    ++ (List.range 10).map fun n => ("dev/fd/" ++ toString n, .descriptor n)

def programs : List String :=
  ["sh", "dash", "bash"] ++ Utility.table.map (·.1) ++ Utility.callers.map (·.1)

def files : Files.Tree :=
  { nodes := directories.map (fun d => (names d, .directory))
      ++ links.map (fun (n, target) => (names n, .link (Files.Path.ofString target)))
      ++ devices.map (fun (n, d) => (names n, .device d))
      ++ programs.map fun p => (names ("usr/bin/" ++ p), .program p) }

end HalBench.Shell.Installation
