import CallTree.Text.HiddenTable

/-!
# Quoted texts in messages

A message shows a text of its input between double quotes.  Quote, backslash,
tab, line feed, carriage return and NUL have a short escape; every other
character that is not printable, or that would join the character before it,
is shown by its number as `\u{…}`.
-/

namespace CallTree.Text

/-- Whether a quoted text shows the character by its number. -/
def isHidden (c : Char) : Bool :=
  let n := c.toNat
  n < 0x20 || (0x7F ≤ n && hiddenRanges.any fun (first, last) => first ≤ n && n ≤ last)

/-- One character inside a quoted text. -/
def quotedChar (c : Char) : List Char :=
  match c with
  | '\x00' => ['\\', '0']
  | '\t' => ['\\', 't']
  | '\n' => ['\\', 'n']
  | '\r' => ['\\', 'r']
  | '"' => ['\\', '"']
  | '\\' => ['\\', '\\']
  | c =>
      if isHidden c then ['\\', 'u', '{'] ++ Nat.toDigits 16 c.toNat ++ ['}']
      else [c]

/-- The text between quotes, on one line and unambiguous. -/
def quoted (s : String) : String :=
  String.ofList (['"'] ++ s.toList.flatMap quotedChar ++ ['"'])

end CallTree.Text
