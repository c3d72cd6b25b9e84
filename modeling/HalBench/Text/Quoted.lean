import HalBench.Text.Unprintable
/-!
# Quoted text

The form in which a diagnostic shows a text that may hold anything: between double quotes, with
the quote and the backslash escaped, short escapes for tab, newline, return and NUL, and the
number of every other character without a glyph.
-/

namespace HalBench.Text

def numbered (c : Char) : List Char :=
  ['\\', 'u', '\x7b'] ++ Nat.toDigits 16 c.toNat ++ ['\x7d']

def quoteChar (c : Char) : List Char :=
  match c with
  | '"' => ['\\', '"']
  | '\\' => ['\\', '\\']
  | '\t' => ['\\', 't']
  | '\n' => ['\\', 'n']
  | '\r' => ['\\', 'r']
  | '\x00' => ['\\', '0']
  | c => if isUnprintable c then numbered c else [c]

def quote (text : List Char) : List Char :=
  '"' :: (text.flatMap quoteChar ++ ['"'])

end HalBench.Text
