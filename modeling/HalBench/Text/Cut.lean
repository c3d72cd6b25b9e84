/-!
# Cutting a text in two

`cut mark text` splits a text around the first place where a mark stands.
-/

namespace HalBench.Text

def afterMark? : List Char → List Char → Option (List Char)
  | [], text => some text
  | _ :: _, [] => none
  | a :: mark, c :: text => if a = c then afterMark? mark text else none

/-- The parts of a text before and after the first place where a mark stands. -/
def cut (mark : List Char) : List Char → Option (List Char × List Char)
  | [] => (afterMark? mark []).map fun rest => ([], rest)
  | c :: text =>
    match afterMark? mark (c :: text) with
    | some rest => some ([], rest)
    | none => (cut mark text).map fun (left, right) => (c :: left, right)

def splitOn (mark : Char) : List Char → List (List Char)
  | [] => [[]]
  | c :: text =>
    if c = mark then [] :: splitOn mark text
    else
      match splitOn mark text with
      | [] => [[c]]
      | part :: parts => (c :: part) :: parts

end HalBench.Text
