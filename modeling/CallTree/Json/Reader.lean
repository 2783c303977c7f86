import CallTree.Json.Shape
import CallTree.Text.Digits

/-!
# Reading JSON text

A reader over characters.  Each function takes the text that is left and gives
the part that it has read and the text after it, or a `Fault`: what is wrong
and how much text was left when it was noticed.  The place of a fault is told
by line and column, where a column counts bytes, and a place *at* a character
is one byte further than the place *before* it.

Containers may be nested `levels` deep; the bracket that goes one deeper is a
fault.  All recursion over values is bounded by `fuel`; two units for every
character are always enough (`fuelFor`), since no two calls in a row leave the
text as it is.
-/

namespace CallTree.Json

/-- What can be wrong with a JSON text. -/
inductive FaultKind where
  | endInValue
  | endInList
  | endInObject
  | endInString
  | missingColon
  | missingListSeparator
  | missingObjectSeparator
  | misspelledWord
  | noValue
  | badEscape
  | badNumber
  | numberOutOfRange
  | lowSurrogateFirst
  | highSurrogateAlone
  | controlCharacter
  | keyNotString
  | trailingComma
  | trailingText
  | tooDeep
  | wrongShape (error : ShapeError)

/-- The wording of a fault, without its place. -/
def FaultKind.message : FaultKind → String
  | .endInValue => "EOF while parsing a value"
  | .endInList => "EOF while parsing a list"
  | .endInObject => "EOF while parsing an object"
  | .endInString => "EOF while parsing a string"
  | .missingColon => "expected `:`"
  | .missingListSeparator => "expected `,` or `]`"
  | .missingObjectSeparator => "expected `,` or `\x7d`"
  | .misspelledWord => "expected ident"
  | .noValue => "expected value"
  | .badEscape => "invalid escape"
  | .badNumber => "invalid number"
  | .numberOutOfRange => "number out of range"
  | .lowSurrogateFirst => "lone leading surrogate in hex escape"
  | .highSurrogateAlone => "unexpected end of hex escape"
  | .controlCharacter => "control character (\\u0000-\\u001F) found while parsing a string"
  | .keyNotString => "key must be a string"
  | .trailingComma => "trailing comma"
  | .trailingText => "trailing characters"
  | .tooDeep => "recursion limit exceeded"
  | .wrongShape error => error.message

/-- A fault, noticed `ahead` bytes after the point where `rest` begins. -/
structure Fault where
  kind : FaultKind
  rest : List Char
  ahead : Nat

/-- A fault noticed before the rest of the text. -/
def faultBefore {α : Type} (kind : FaultKind) (rest : List Char) : Except Fault α :=
  .error ⟨kind, rest, 0⟩

/-- A fault noticed at the first byte of the rest of the text. -/
def faultAt {α : Type} (kind : FaultKind) (rest : List Char) : Except Fault α :=
  .error ⟨kind, rest, 1⟩

/-- How many bytes the UTF-8 form of a text has. -/
def byteCount (s : List Char) : Nat :=
  s.foldl (fun bytes c => bytes + c.utf8Size) 0

/-- A place in a text. -/
structure Place where
  line : Nat
  column : Nat
deriving DecidableEq

/-- The place `offset` bytes after the start of a text, counted on from a
given place. -/
def placeAfter : (offset : Nat) → List Char → Place → Place
  | 0, _, place => place
  | _ + 1, [], place => place
  | offset + 1, c :: rest, place =>
      if c = '\n' then placeAfter offset rest ⟨place.line + 1, 0⟩
      else
        placeAfter (offset + 1 - c.utf8Size) rest
          ⟨place.line, place.column + min c.utf8Size (offset + 1)⟩
termination_by _ s => s.length

/-- The place of a fault in the text it was found in. -/
def Fault.place (fault : Fault) (s : List Char) : Place :=
  placeAfter (byteCount s - byteCount fault.rest + fault.ahead) s ⟨1, 0⟩

/-- The characters that may stand between the parts of a JSON text. -/
def isSpace (c : Char) : Bool :=
  c == ' ' || c == '\n' || c == '\t' || c == '\r'

/-- The text from its first character that is no space. -/
def skipSpace (s : List Char) : List Char :=
  s.dropWhile isSpace

/-- Reads the rest of one of the words `null`, `true` and `false`. -/
def word : (letters s : List Char) → Except Fault (List Char)
  | [], s => .ok s
  | _ :: _, [] => faultBefore .endInValue []
  | letter :: letters, c :: s =>
      if c = letter then word letters s else faultAt .misspelledWord (c :: s)

/-- The value of a decimal digit. -/
def digitValue (c : Char) : Nat :=
  c.toNat - '0'.toNat

/-- The number that a list of decimal digits writes. -/
def digitsValue (digits : List Char) : Nat :=
  digits.foldl (fun n c => 10 * n + digitValue c) 0

/-- The digits of an exponent, as long as it stays below 2³¹: its value and
the text after it, or the text after the digit that made it too large. -/
def exponentDigits (value : Nat) : List Char → Except (List Char) (Nat × List Char)
  | [] => .ok (value, [])
  | c :: rest =>
      if c.isDigit then
        let value := 10 * value + digitValue c
        if value < Nat.pow 2 31 then exponentDigits value rest else .error rest
      else .ok (value, c :: rest)

/-- The double nearest to a decimal, unless it is too large for one. -/
def decimal (negative : Bool) (digits : Nat) (exponent : Int) (rest : List Char) :
    Except Fault (Number × List Char) :=
  let nearest := Double.ofDecimal negative digits exponent
  if nearest.isFinite then .ok (.float nearest, rest)
  else faultBefore .numberOutOfRange rest

/-- Reads the exponent of a number after its `e`, where the number before it
was `digits · 10 ^ shift`. -/
def exponent (negative : Bool) (digits : Nat) (shift : Int) (s : List Char) :
    Except Fault (Number × List Char) :=
  let (down, s) := match s with
    | '-' :: rest => (true, rest)
    | '+' :: rest => (false, rest)
    | other => (false, other)
  match s with
  | [] => faultBefore .endInValue []
  | c :: rest =>
      if c.isDigit then
        match exponentDigits 0 (c :: rest) with
        | .ok (value, rest) =>
            decimal negative digits (shift + if down then -(value : Int) else value) rest
        | .error rest =>
            if digits ≠ 0 && !down then faultBefore .numberOutOfRange rest
            else decimal negative 0 0 (rest.dropWhile Char.isDigit)
      else faultAt .badNumber (c :: rest)

/-- Reads what follows the integer digits of a number. -/
def fraction (negative : Bool) (whole s : List Char) : Except Fault (Number × List Char) :=
  match s with
  | '.' :: rest =>
      let places := rest.takeWhile Char.isDigit
      let after := rest.dropWhile Char.isDigit
      let digits := digitsValue (whole ++ places)
      if places.isEmpty then
        match rest with
        | [] => faultBefore .endInValue []
        | _ => faultAt .badNumber rest
      else
        match after with
        | 'e' :: rest => exponent negative digits (-(places.length : Int)) rest
        | 'E' :: rest => exponent negative digits (-(places.length : Int)) rest
        | _ => decimal negative digits (-(places.length : Int)) after
  | 'e' :: rest => exponent negative (digitsValue whole) 0 rest
  | 'E' :: rest => exponent negative (digitsValue whole) 0 rest
  | _ =>
      let value : Int := digitsValue whole
      let signed := if negative then -value else value
      if keepsInt signed && !(negative && value == 0) then .ok (.int signed, s)
      else decimal negative (digitsValue whole) 0 s

/-- Reads a number after its sign. -/
def number (negative : Bool) (s : List Char) : Except Fault (Number × List Char) :=
  match s with
  | [] => faultBefore .endInValue []
  | '0' :: c :: rest =>
      if c.isDigit then faultAt .badNumber (c :: rest)
      else fraction negative ['0'] (c :: rest)
  | c :: rest =>
      if c.isDigit then
        fraction negative (c :: rest.takeWhile Char.isDigit) (rest.dropWhile Char.isDigit)
      else faultAt .badNumber (c :: rest)

/-- The number of the four hexadecimal digits at the start of a text. -/
def fourHexDigits (s : List Char) : Except Fault Nat :=
  match s with
  | a :: b :: c :: d :: _ =>
      match Text.digitIn? 16 a, Text.digitIn? 16 b, Text.digitIn? 16 c, Text.digitIn? 16 d with
      | some a, some b, some c, some d => .ok (((a * 16 + b) * 16 + c) * 16 + d)
      | _, _, _, _ => .error ⟨.badEscape, s, 4⟩
  | _ =>
      if byteCount s < 4 then faultBefore .endInString [] else .error ⟨.badEscape, s, 4⟩

/-- Reads an escape by number after its `u`: the character, and how many
characters of the text belong to it.  Characters beyond U+FFFF are written as
a pair of surrogates. -/
def numberedEscape (s : List Char) : Except Fault (Char × Nat) := do
  let first ← fourHexDigits s
  let rest := s.drop 4
  if 0xDC00 ≤ first && first ≤ 0xDFFF then
    faultBefore .lowSurrogateFirst rest
  else if first < 0xD800 || 0xDBFF < first then
    .ok (Char.ofNat first, 4)
  else
    match rest with
    | [] => faultBefore .endInString []
    | '\\' :: [] => faultBefore .endInString []
    | '\\' :: 'u' :: rest =>
        let second ← fourHexDigits rest
        if second < 0xDC00 || 0xDFFF < second then
          faultBefore .lowSurrogateFirst (rest.drop 4)
        else
          .ok (Char.ofNat (0x10000 + (first - 0xD800) * 0x400 + (second - 0xDC00)), 10)
    | '\\' :: rest => faultAt .highSurrogateAlone rest
    | _ => faultAt .highSurrogateAlone rest

/-- Reads an escape after its backslash: the character, and how many
characters of the text belong to it. -/
def escape (s : List Char) : Except Fault (Char × Nat) :=
  match s with
  | [] => faultBefore .endInString []
  | '"' :: _ => .ok ('"', 1)
  | '\\' :: _ => .ok ('\\', 1)
  | '/' :: _ => .ok ('/', 1)
  | 'b' :: _ => .ok ('\x08', 1)
  | 'f' :: _ => .ok ('\x0c', 1)
  | 'n' :: _ => .ok ('\n', 1)
  | 'r' :: _ => .ok ('\r', 1)
  | 't' :: _ => .ok ('\t', 1)
  | 'u' :: rest => (numberedEscape rest).map fun (c, taken) => (c, taken + 1)
  | _ => faultAt .badEscape s

/-- Reads a string after its opening quote. -/
def stringBody (s : List Char) : Except Fault (List Char × List Char) :=
  match s with
  | [] => faultBefore .endInString []
  | '"' :: rest => .ok ([], rest)
  | '\\' :: rest =>
      match escape rest with
      | .error fault => .error fault
      | .ok (c, taken) =>
          (stringBody (rest.drop taken)).map fun (cs, rest) => (c :: cs, rest)
  | c :: rest =>
      if c.toNat < 0x20 then faultBefore .controlCharacter rest
      else (stringBody rest).map fun (cs, rest) => (c :: cs, rest)
termination_by s.length
decreasing_by
  all_goals simp only [List.length_drop, List.length_cons]; omega

/-- Reads a string after its opening quote, as a text. -/
def string (s : List Char) : Except Fault (String × List Char) :=
  (stringBody s).map fun (cs, rest) => (String.ofList cs, rest)

/-- Reads a value that is no container. -/
def scalar (s : List Char) : Except Fault (Json × List Char) :=
  match s with
  | [] => faultBefore .endInValue []
  | 'n' :: rest => (word ['u', 'l', 'l'] rest).map fun rest => (.null, rest)
  | 't' :: rest => (word ['r', 'u', 'e'] rest).map fun rest => (.bool true, rest)
  | 'f' :: rest => (word ['a', 'l', 's', 'e'] rest).map fun rest => (.bool false, rest)
  | '"' :: rest => (string rest).map fun (text, rest) => (.str text, rest)
  | '-' :: rest => (number true rest).map fun (n, rest) => (.num n, rest)
  | c :: rest =>
      if c.isDigit then (number false (c :: rest)).map fun (n, rest) => (.num n, rest)
      else faultAt .noValue (c :: rest)

/-- Reads the colon after a key. -/
def colon (s : List Char) : Except Fault (List Char) :=
  match skipSpace s with
  | [] => faultBefore .endInObject []
  | ':' :: rest => .ok rest
  | other => faultAt .missingColon other

mutual

/-- Reads a value; `levels` containers may still be opened. -/
def value : (fuel levels : Nat) → List Char → Except Fault (Json × List Char)
  | 0, _, s => faultBefore .endInValue s
  | fuel + 1, levels, s =>
      match skipSpace s with
      | '[' :: rest =>
          match levels with
          | 0 => faultAt .tooDeep ('[' :: rest)
          | levels + 1 =>
              (firstItem fuel levels rest).map fun (items, rest) => (.arr items, rest)
      | '{' :: rest =>
          match levels with
          | 0 => faultAt .tooDeep ('{' :: rest)
          | levels + 1 =>
              (firstField fuel levels rest).map fun (fields, rest) => (ofFields fields, rest)
      | other => scalar other

/-- Reads the items of an array after its opening bracket. -/
def firstItem : (fuel levels : Nat) → List Char → Except Fault (List Json × List Char)
  | 0, _, s => faultBefore .endInList s
  | fuel + 1, levels, s =>
      match skipSpace s with
      | [] => faultBefore .endInList []
      | ']' :: rest => .ok ([], rest)
      | other => do
          let (item, rest) ← value fuel levels other
          let (items, rest) ← moreItems fuel levels rest
          pure (item :: items, rest)

/-- Reads the items of an array after one of its items. -/
def moreItems : (fuel levels : Nat) → List Char → Except Fault (List Json × List Char)
  | 0, _, s => faultBefore .endInList s
  | fuel + 1, levels, s =>
      match skipSpace s with
      | [] => faultBefore .endInList []
      | ']' :: rest => .ok ([], rest)
      | ',' :: rest =>
          match skipSpace rest with
          | [] => faultBefore .endInValue []
          | ']' :: rest => faultAt .trailingComma (']' :: rest)
          | other => do
              let (item, rest) ← value fuel levels other
              let (items, rest) ← moreItems fuel levels rest
              pure (item :: items, rest)
      | other => faultAt .missingListSeparator other

/-- Reads the fields of an object after its opening brace, in the order of the
text. -/
def firstField : (fuel levels : Nat) → List Char →
    Except Fault (List (String × Json) × List Char)
  | 0, _, s => faultBefore .endInObject s
  | fuel + 1, levels, s =>
      match skipSpace s with
      | [] => faultBefore .endInObject []
      | '}' :: rest => .ok ([], rest)
      | '"' :: rest => do
          let (key, rest) ← string rest
          let rest ← colon rest
          let (item, rest) ← value fuel levels rest
          let (fields, rest) ← moreFields fuel levels rest
          pure ((key, item) :: fields, rest)
      | other => faultAt .keyNotString other

/-- Reads the fields of an object after one of its fields. -/
def moreFields : (fuel levels : Nat) → List Char →
    Except Fault (List (String × Json) × List Char)
  | 0, _, s => faultBefore .endInObject s
  | fuel + 1, levels, s =>
      match skipSpace s with
      | [] => faultBefore .endInObject []
      | '}' :: rest => .ok ([], rest)
      | ',' :: rest =>
          match skipSpace rest with
          | [] => faultBefore .endInValue []
          | '}' :: rest => faultAt .trailingComma ('}' :: rest)
          | '"' :: rest => do
              let (key, rest) ← string rest
              let rest ← colon rest
              let (item, rest) ← value fuel levels rest
              let (fields, rest) ← moreFields fuel levels rest
              pure ((key, item) :: fields, rest)
          | other => faultAt .keyNotString other
      | other => faultAt .missingObjectSeparator other

end

/-- What is wrong with a JSON text, and where. -/
structure ReadError where
  kind : FaultKind
  place : Place

/-- The message of a text that does not read. -/
def ReadError.message (e : ReadError) : String :=
  e.kind.message ++ " at line " ++ e.place.line.repr ++ " column " ++ e.place.column.repr

/-- The nesting that a JSON text may have. -/
def maxLevels : Nat := 127

/-- Makes sure that nothing but space follows what was read. -/
def finish {α : Type} (text : List Char) (read : Except Fault (α × List Char)) :
    Except ReadError α :=
  let complete := do
    let (result, rest) ← read
    match skipSpace rest with
    | [] => pure result
    | other => faultAt .trailingText other
  complete.mapError fun fault => ⟨fault.kind, fault.place text⟩

/-- Fuel that a text cannot use up. -/
def fuelFor (s : List Char) : Nat :=
  2 * s.length + 2

/-- Reads a JSON text whose containers are nested at most `levels` deep. -/
def readNested (levels : Nat) (text : String) : Except ReadError Json :=
  let s := text.toList
  finish s (value (fuelFor s) levels s)

/-- Reads a JSON text. -/
def read (text : String) : Except ReadError Json :=
  readNested maxLevels text

/-- Reads a JSON text that has to be an object, as the list of its fields in
increasing key order.  The brackets of another container are not read at all,
another value is read before its shape is found wrong. -/
def readObject (text : String) : Except ReadError (List (String × Json)) :=
  let s := text.toList
  finish s (match skipSpace s with
    | '{' :: rest =>
        (firstField (fuelFor s) (maxLevels - 1) rest).map fun (fields, rest) =>
          (fields.foldl (fun kept field => KeyMap.insertEntry field.1 field.2 kept) [], rest)
    | '[' :: rest => faultBefore (.wrongShape (.mismatch (.arr []) .object)) ('[' :: rest)
    | other => do
        let (found, rest) ← scalar other
        faultBefore (.wrongShape (.mismatch found .object)) rest)

end CallTree.Json
