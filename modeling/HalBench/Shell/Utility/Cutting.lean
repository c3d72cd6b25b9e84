import HalBench.Shell.Utility.Basic
/-!
# Parts of lines

A program that prints some bytes or fields of each line, which are named by their numbers.
-/

namespace HalBench.Shell.Utility

namespace Cutting

/-- The numbers from one to another; without a last one, all from the first one on. -/
structure Range where
  first : Nat
  last : Option Nat
  deriving DecidableEq, Repr

inductive Measure where
  | bytes
  | fields
  deriving DecidableEq, Repr

def Measure.invalid : Measure → String
  | bytes => "invalid byte/character position "
  | fields => "invalid field value "

def Measure.fromOne : Measure → Text
  | bytes => ofString "byte/character positions are numbered from 1"
  | fields => ofString "fields are numbered from 1"

/-- The number at the front of a text, if it has digits, and what follows; none of them may be too
large. -/
def numberIn (p : Measure) (text : Text) : Except Text (Option Nat × Text) :=
  let digits := text.takeWhile Char.isDigit
  if digits.isEmpty then .ok (none, text)
  else if 18446744073709551614 < natOf digits then
    .error (ofString (match p with
      | .bytes => "byte/character offset "
      | .fields => "field number ") ++ quote digits ++ ofString " is too large")
  else .ok (some (natOf digits), text.drop digits.length)

def rangeOf (p : Measure) (word : Text) : Except Text Range := do
  let invalid (rest : Text) : Text := ofString p.invalid ++ quote rest
  let (first, rest) ← numberIn p word
  match first, rest with
  | none, [] => throw p.fromOne
  | some n, [] => if n = 0 then throw p.fromOne else return ⟨n, some n⟩
  | first, '-' :: rest => do
    if first == some 0 then throw p.fromOne
    let (last, rest) ← numberIn p rest
    match first, last, rest with
    | none, none, [] => throw (ofString "invalid range with no endpoint: -")
    | first, none, [] => return ⟨first.getD 1, none⟩
    | first, some m, [] =>
      if m < first.getD 1 then throw (ofString "invalid decreasing range")
      return ⟨first.getD 1, some m⟩
    | _, _, '-' :: _ => throw (ofString (match p with
      | .bytes => "invalid byte or character range"
      | .fields => "invalid field range"))
    | _, _, rest => throw (invalid rest)
  | _, rest => throw (invalid rest)

def words (list : Text) : List Text :=
  cutAt ',' (list.map fun c => if c == ' ' || c == '\t' then ',' else c)

def merged (ranges : List Range) : List Range :=
  let sorted := ranges.mergeSort fun a b => a.first ≤ b.first
  (sorted.foldl (fun (found : List Range) r =>
    match found with
    | [] => [r]
    | q :: qs =>
      match q.last, r.last with
      | none, _ => q :: qs
      | some a, b =>
        if r.first ≤ a then ⟨q.first, b.map (max a)⟩ :: qs else r :: q :: qs) []).reverse

/-- The ranges of the numbers that no range has; `next` is the first number that may be one. -/
def complement (next : Nat) : List Range → List Range
  | [] => [⟨next, none⟩]
  | r :: rs =>
    let before : List Range := if next < r.first then [⟨next, some (r.first - 1)⟩] else []
    match r.last with
    | none => before
    | some n => before ++ complement (n + 1) rs

def Range.of {α : Type} (r : Range) (xs : List α) : List α :=
  let rest := xs.drop (r.first - 1)
  match r.last with
  | some n => rest.take (n + 1 - r.first)
  | none => rest

def known : Known :=
  { letters := "b:c:d:f:nsz"
    names := [("bytes", 'b', .needed), ("characters", 'c', .needed), ("fields", 'f', .needed),
      ("delimiter", 'd', .needed), ("only-delimited", 's', .none),
      ("output-delimiter", 'o', .needed), ("complement", 'k', .none),
      ("zero-terminated", 'z', .none)] }

/-- What is printed of a line; nothing if it has no separator and only lines with one count. -/
def ofLine (o : List Given) (p : Measure) (mark : Char) (ranges : List Range) (line : Text) :
    Option Text :=
  match p with
  | .bytes =>
    let parts := (ranges.map fun r => r.of line).filter (!·.isEmpty)
    some (joinWith ((value? o 'o').getD []) parts)
  | .fields =>
    if line.contains mark then
      let fields := cutAt mark line
      some (joinWith ((value? o 'o').getD [mark]) (ranges.flatMap fun r => r.of fields))
    else if has o 's' then none
    else some line

end Cutting

open Cutting in
def cut : Utility := fun ws =>
  withOptions known 1 ws fun o names => do
    let lists := o.filter fun g => ['b', 'c', 'f'].contains g.1
    match lists with
    | [] => misused (ofString "you must specify a list of bytes, characters, or fields") 1
    | _ :: _ :: _ => misused (ofString "only one list may be specified") 1
    | [(letter, list)] =>
      let p : Measure := if letter == 'f' then .fields else .bytes
      let delimiter := value? o 'd'
      if 1 < (delimiter.getD []).length then
        misused (ofString "the delimiter must be a single character") 1
      else if p == .bytes && delimiter.isSome then
        misused
          (ofString "an input delimiter may be specified only when operating on fields") 1
      else if p == .bytes && has o 's' then
        misused (ofString
          "suppressing non-delimited lines makes sense\n\tonly when operating on fields") 1
      else
        match (Cutting.words list).mapM (rangeOf p) with
        | .error text => misused text 1
        | .ok ranges =>
          let ranges := merged ranges
          let ranges := if has o 'k' then complement 1 ranges else ranges
          let mark := match delimiter with
            | some [c] => c
            | some _ => '\x00'
            | none => '\t'
          let lineEnd := if has o 'z' then '\x00' else '\n'
          eachContent "" names fun _ text =>
            let parts := cutAt lineEnd text
            let found := if parts.getLast? == some [] then parts.dropLast else parts
            Action.print (found.flatMap fun line =>
              match ofLine o p mark ranges line with
              | some shown => shown ++ [lineEnd]
              | none => [])

end HalBench.Shell.Utility
