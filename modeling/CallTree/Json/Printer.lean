import CallTree.Json.Basic
import CallTree.Double.Layout

/-!
# JSON text

One printer for both written forms: `compact` leaves out all space, `indented`
puts every item on a line of its own, two spaces deeper than its container.
Empty containers are `[]` and `\x7b\x7d` in both forms.
-/

namespace CallTree.Json

/-- What stands between the parts of a container: the line break before a part
at a given depth, and the space after a colon. -/
structure Spacing where
  line : Nat → List Char
  colon : List Char

/-- No space at all. -/
def Spacing.compact : Spacing := ⟨fun _ => [], []⟩

/-- A line for every part, two spaces for every level. -/
def Spacing.indented : Spacing := ⟨fun depth => '\n' :: List.replicate (2 * depth) ' ', [' ']⟩

/-- A digit of a number below sixteen. -/
def hexDigit (n : Nat) : Char :=
  Nat.digitChar n

/-- A character inside a JSON string: quote, backslash and the control
characters are escaped, all else stands for itself. -/
def escapedChar (c : Char) : List Char :=
  match c with
  | '"' => ['\\', '"']
  | '\\' => ['\\', '\\']
  | '\x08' => ['\\', 'b']
  | '\x0c' => ['\\', 'f']
  | '\n' => ['\\', 'n']
  | '\r' => ['\\', 'r']
  | '\t' => ['\\', 't']
  | c =>
      if c.toNat < 0x20 then
        ['\\', 'u', '0', '0', hexDigit (c.toNat / 16), hexDigit (c.toNat % 16)]
      else [c]

/-- A text as a JSON string. -/
def stringText (s : String) : List Char :=
  '"' :: s.toList.flatMap escapedChar ++ ['"']

/-- An integer in decimal notation. -/
def intText (i : Int) : List Char :=
  (if i < 0 then ['-'] else []) ++ Nat.toDigits 10 i.natAbs

/-- A number as JSON text. -/
def numberText : Number → List Char
  | .int i => intText i
  | .float d => d.text Double.Layout.json

mutual

/-- The text of a value whose container stands at `depth`. -/
def write (space : Spacing) (depth : Nat) : Json → List Char
  | .null => ['n', 'u', 'l', 'l']
  | .bool true => ['t', 'r', 'u', 'e']
  | .bool false => ['f', 'a', 'l', 's', 'e']
  | .num n => numberText n
  | .str s => stringText s
  | .arr [] => ['[', ']']
  | .arr (item :: items) =>
      '[' :: space.line (depth + 1) ++ write space (depth + 1) item ++
        writeItems space depth items
  | .obj [] => ['{', '}']
  | .obj ((key, item) :: fields) =>
      '{' :: space.line (depth + 1) ++ stringText key ++ ':' :: space.colon ++
        write space (depth + 1) item ++ writeFields space depth fields

/-- The text of the items after the first one, and the closing bracket. -/
def writeItems (space : Spacing) (depth : Nat) : List Json → List Char
  | [] => space.line depth ++ [']']
  | item :: items =>
      ',' :: space.line (depth + 1) ++ write space (depth + 1) item ++
        writeItems space depth items

/-- The text of the fields after the first one, and the closing brace. -/
def writeFields (space : Spacing) (depth : Nat) : List (String × Json) → List Char
  | [] => space.line depth ++ ['}']
  | (key, item) :: fields =>
      ',' :: space.line (depth + 1) ++ stringText key ++ ':' :: space.colon ++
        write space (depth + 1) item ++ writeFields space depth fields

end

/-- The value on one line without spaces. -/
def compact (j : Json) : String :=
  String.ofList (write Spacing.compact 0 j)

/-- The value on indented lines, without a line break at the end. -/
def indented (j : Json) : String :=
  String.ofList (write Spacing.indented 0 j)

/-- A string value as it is, every other value as compact JSON. -/
def bareText : Json → String
  | .str s => s
  | j => j.compact

end CallTree.Json
