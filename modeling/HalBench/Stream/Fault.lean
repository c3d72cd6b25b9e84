/-!
# Faults of the operating system

What a call to the system can fail with, and the text that reports it.
-/

namespace HalBench

inductive SystemFault where
  | noSuchFile
  | noSuchDevice
  | execFormat
  | badDescriptor
  | permissionDenied
  | busy
  | fileExists
  | notADirectory
  | isADirectory
  | invalidArgument
  | textBusy
  | noSpace
  | brokenPipe
  | nameTooLong
  | notEmpty
  | tooManyLinks
  | addressInUse
  | networkUnreachable
  | connectionRefused
  | capacityOverflow
  | outOfMemory
  | writeZero
  | invalidText
  | socketPathTooLong
  | nulInSocketPath
  | nulInPath
  | nulInArgument
  | injected
  deriving DecidableEq, Repr, Inhabited

namespace SystemFault

def description : SystemFault → String
  | noSuchFile => "No such file or directory"
  | noSuchDevice => "No such device or address"
  | execFormat => "Exec format error"
  | badDescriptor => "Bad file descriptor"
  | permissionDenied => "Permission denied"
  | busy => "Device or resource busy"
  | fileExists => "File exists"
  | notADirectory => "Not a directory"
  | isADirectory => "Is a directory"
  | invalidArgument => "Invalid argument"
  | textBusy => "Text file busy"
  | noSpace => "No space left on device"
  | brokenPipe => "Broken pipe"
  | nameTooLong => "File name too long"
  | notEmpty => "Directory not empty"
  | tooManyLinks => "Too many levels of symbolic links"
  | addressInUse => "Address already in use"
  | networkUnreachable => "Network is unreachable"
  | connectionRefused => "Connection refused"
  | capacityOverflow =>
    "memory allocation failed because the computed capacity exceeded the collection's maximum"
  | outOfMemory => "memory allocation failed because the memory allocator returned an error"
  | writeZero => "failed to write whole buffer"
  | invalidText => "stream did not contain valid UTF-8"
  | socketPathTooLong => "path must be shorter than SUN_LEN"
  | nulInSocketPath => "paths must not contain interior null bytes"
  | nulInPath => "file name contained an unexpected NUL byte"
  | nulInArgument => "nul byte found in provided data"
  | injected => "injected fault"

/-- The number that the operating system has for a fault. -/
def code? : SystemFault → Option Nat
  | noSuchFile => some 2
  | noSuchDevice => some 6
  | execFormat => some 8
  | badDescriptor => some 9
  | permissionDenied => some 13
  | busy => some 16
  | fileExists => some 17
  | notADirectory => some 20
  | isADirectory => some 21
  | invalidArgument => some 22
  | textBusy => some 26
  | noSpace => some 28
  | brokenPipe => some 32
  | nameTooLong => some 36
  | notEmpty => some 39
  | tooManyLinks => some 40
  | addressInUse => some 98
  | networkUnreachable => some 101
  | connectionRefused => some 111
  | _ => none

def message (f : SystemFault) : String :=
  match f.code? with
  | some code => f.description ++ " (os error " ++ toString code ++ ")"
  | none => f.description

end SystemFault

end HalBench
