import HalBench.Stream.Sink
import HalBench.Stream.Source
import HalBench.Text.Quoted
/-!
# Length-prefixed frames

A frame is the decimal length of a payload, a newline and the payload. Reading also takes a
carriage return after the length, leading zeros, and headers of up to 128 bytes.
-/

namespace HalBench.Frame

def maxHeader : Nat := 128

/-- Lengths are words of 64 bits. -/
def wordLimit : Nat := 18446744073709551616

def maxCapacity : Nat := 9223372036854775807

/-- Buffers beyond the address space are refused by the allocator. -/
def addressSpace : Nat := 140737488355328

inductive Error where
  | peerClosed
  | headerOverflow (max : Nat)
  | invalidLength (header : List Char)
  | truncated (expected got : Nat)
  | io (fault : SystemFault)
  deriving DecidableEq, Repr

namespace Error

def message : Error → String
  | peerClosed => "Peer closed the connection"
  | headerOverflow max =>
    "Frame header exceeds " ++ toString max ++ " bytes without a terminator"
  | invalidLength header => "Invalid frame length: " ++ String.ofList (Text.quote header)
  | truncated expected got =>
    "Truncated frame: expected " ++ toString expected ++ " bytes, got " ++ toString got
  | io fault => "IO error: " ++ fault.message

def isPeerClosed : Error → Bool
  | peerClosed => true
  | _ => false

end Error

def header (payload : Bytes) : Bytes := Utf8.encode (Nat.toDigits 10 payload.length)

def encode (payload : Bytes) : Bytes := header payload ++ 10 :: payload

def send (payload : Bytes) (s : Sink) : Except Error Unit × Sink :=
  match s.writeAll (header payload) with
  | (.error f, s) => (.error (.io f), s)
  | (.ok (), s) =>
    match s.writeAll [10] with
    | (.error f, s) => (.error (.io f), s)
    | (.ok (), s) =>
      match s.writeAll payload with
      | (.error f, s) => (.error (.io f), s)
      | (.ok (), s) => (s.flush.mapError .io, s)

def isTerminator (b : UInt8) : Bool := b == 10 || b == 13

def isDigit (b : UInt8) : Bool := 48 ≤ b && b ≤ 57

def number (digits : Bytes) : Nat := digits.foldl (fun n b => 10 * n + (b.toNat - 48)) 0

def lengthOf? (header : Bytes) : Except Error Nat :=
  if header ≠ [] ∧ header.all isDigit ∧ number header < wordLimit then .ok (number header)
  else .error (.invalidLength (Utf8.decodeLossy header))

/-- Reads the header up to its terminator; `room` more bytes may follow those already read. -/
def receiveHeader : Nat → Bytes → Source → Except Error Bytes × Source
  | room, read, s =>
    match s.readByte with
    | (.error f, s) => (.error (.io f), s)
    | (.ok none, s) =>
      (.error (if read = [] then .peerClosed else .truncated (read.length + 1) read.length), s)
    | (.ok (some b), s) =>
      if isTerminator b then (.ok read, s)
      else
        match room with
        | 0 => (.error (.headerOverflow maxHeader), s)
        | room + 1 => receiveHeader room (read ++ [b]) s

def reserve (length : Nat) : Except Error Unit :=
  if maxCapacity < length then .error (.io .capacityOverflow)
  else if addressSpace ≤ length then .error (.io .outOfMemory)
  else .ok ()

def receivePayload (length : Nat) (s : Source) : Except Error Bytes × Source :=
  match reserve length with
  | .error e => (.error e, s)
  | .ok () =>
    match s.readUpTo length with
    | (.error f, s) => (.error (.io f), s)
    | (.ok payload, s) =>
      if payload.length = length then (.ok payload, s)
      else (.error (.truncated length payload.length), s)

def receive (s : Source) : Except Error Bytes × Source :=
  match receiveHeader maxHeader [] s with
  | (.error e, s) => (.error e, s)
  | (.ok header, s) =>
    match lengthOf? header with
    | .error e => (.error e, s)
    | .ok length => receivePayload length s

end HalBench.Frame
