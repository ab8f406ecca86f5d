import Dataflow.Text.Ranges

/-!
# Text made visible

A string between quotes in which nothing is hidden: the quote, the backslash and the usual control
characters are escaped, and characters that combine with others or are not printed at all are shown
by their code points.
-/

namespace Dataflow.Text

/-- A code point in braces, in hexadecimal digits. -/
def codePoint (c : Char) : List Char :=
  ['\\', 'u', '{'] ++ Nat.toDigits 16 c.toNat ++ ['}']

/-- A character as it is shown. -/
def visibleChar (c : Char) : List Char :=
  match c with
  | '\x00' => ['\\', '0']
  | '\t' => ['\\', 't']
  | '\r' => ['\\', 'r']
  | '\n' => ['\\', 'n']
  | '\\' => ['\\', '\\']
  | '"' => ['\\', '"']
  | c =>
    if 0x20 ≤ c.toNat && c.toNat < 0x7f then [c]
    else if inRanges extending c || inRanges unprintable c then codePoint c
    else [c]

/-- A string as it is shown, between quotes. -/
def visible (s : String) : String :=
  String.ofList ('"' :: (s.toList.flatMap visibleChar ++ ['"']))

end Dataflow.Text
