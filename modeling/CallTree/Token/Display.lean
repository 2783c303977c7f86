import CallTree.Text.Blank
import CallTree.Text.Hex
import CallTree.Token.Basic
import CallTree.Word

/-!
# The text of typed values

`display` writes one token as text.  Integers are shown in decimal with all
their digits; an integer text that does not read as a word of 256 bits is shown
as it is.  List-like tokens are shown in brackets.

Byte values often hold text: `ascii?` reads one character for every byte up to
the first zero byte, and `label` makes do with whatever the bytes hold.
-/

namespace CallTree.Token

/-- Whether nothing is left of a number text without its blanks and one
`0x`. -/
def hasNoDigits (s : String) : Bool :=
  let digits := Text.trim s.toList
  ((Text.stripStart ['0', 'x'] digits).getD digits).isEmpty

/-- The text of a JSON number, never in scientific notation. -/
def displayNumber : Number → String
  | .int i => String.ofList (Json.intText i)
  | .float d => String.ofList (d.text Double.Layout.display)

/-- The text of an unsigned integer. -/
def displayUint : NumberPayload → String
  | .number n => displayNumber n
  | .text s =>
      if hasNoDigits s then s
      else
        match Word.readUnsigned (Text.trim s.toList) with
        | some n => String.ofList (Json.intText n)
        | none => s

/-- The text of a signed integer. -/
def displayInt : NumberPayload → String
  | .number n => displayNumber n
  | .text s =>
      if hasNoDigits s then s
      else
        match Word.readSigned (Text.trim s.toList) with
        | some i => String.ofList (Json.intText i)
        | none => s

/-- The text of a truth value. -/
def displayBool (b : Bool) : String :=
  if b then "true" else "false"

mutual

/-- The text of a token. -/
def display : Token → String
  | .uint payload => displayUint payload
  | .int payload => displayInt payload
  | .address s => s
  | .fixedBytes s => s
  | .bytes s => s
  | .string s => s
  | .bool b => displayBool b
  | .fixedArray items => "[" ++ ", ".intercalate (displayAll items) ++ "]"
  | .array items => "[" ++ ", ".intercalate (displayAll items) ++ "]"
  | .tuple items => "[" ++ ", ".intercalate (displayAll items) ++ "]"
  | .other _ value => value.bareText

/-- The texts of a list of tokens. -/
def displayAll : List Token → List String
  | [] => []
  | item :: items => display item :: displayAll items

end

/-- Several tokens are displayed one by one. -/
theorem displayAll_eq_map (items : List Token) : displayAll items = items.map display := by
  induction items with
  | nil => rfl
  | cons item items ih => rw [displayAll, ih, List.map_cons]

/-- The texts of a list of tokens, where a list-like token contributes the
texts of its parts. -/
def displayFlat (tokens : List Token) : List String :=
  tokens.flatMap fun token =>
    match token.items? with
    | some items => displayAll items
    | none => [display token]

/-- The text that a byte token holds, where it is written in hexadecimal, or
that a text token is. -/
def ascii? : Token → Option String
  | .fixedBytes s => hexText s
  | .bytes s => hexText s
  | .string s => some s
  | _ => none
where
  /-- The zero-terminated text of a hex payload. -/
  hexText (s : String) : Option String :=
    (Text.bytesOfHex (Text.dropHexMarks s.toList)).map fun bytes =>
      String.ofList (Text.zeroTerminated bytes)

/-- A text that is listed from its end, without the pairs of zeros it begins
with. -/
def dropZeroPairs : List Char → List Char
  | '0' :: '0' :: rest => dropZeroPairs rest
  | s => s

/-- A byte payload that is text already, without one `0x` in front and without
its padding. -/
def unpadded (s : String) : String :=
  let text := (Text.stripStart ['0', 'x'] s.toList).getD s.toList
  String.ofList (dropZeroPairs text.reverse).reverse

/-- The text of a token that serves as a name. -/
def label (token : Token) : String :=
  match token.ascii? with
  | some text => text
  | none =>
      match token with
      | .fixedBytes s => unpadded s
      | .bytes s => unpadded s
      | token => display token

end CallTree.Token
