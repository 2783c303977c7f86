import CallTree.Json.Printer

/-!
# Typed values

The test runner writes every value of a contract call as a JSON object with
one key, its type, and one payload.  A `Token` is such a value; what does not
fit a known type keeps its JSON.

`CallData` is what a call was given or gave back: tokens, a text, or nothing
that can be shown.

* `Token.ofJson` reads every JSON value as some token;
* `Token.toJson` writes a token back.
-/

namespace CallTree

/-- The payload of an integer: a text, or a number of JSON. -/
inductive NumberPayload where
  | text (s : String)
  | number (n : Number)
deriving DecidableEq, Inhabited

/-- A typed value. -/
inductive Token where
  | address (text : String)
  | fixedBytes (text : String)
  | bytes (text : String)
  | int (payload : NumberPayload)
  | uint (payload : NumberPayload)
  | bool (value : Bool)
  | string (text : String)
  | fixedArray (items : List Token)
  | array (items : List Token)
  | tuple (items : List Token)
  /-- An unknown type, or a payload that does not fit its type; the tag is empty
  where the value is no object with one key. -/
  | other (tag : String) (value : Json)
deriving Inhabited

namespace Token

mutual

/-- The token that a JSON value writes. -/
def ofJson : Json → Token
  | .obj [(tag, payload)] => ofPayload tag payload
  | value => .other "" value

/-- The token with the given tag and payload. -/
def ofPayload (tag : String) : Json → Token
  | .str s =>
      match tag with
      | "Address" => .address s
      | "FixedBytes" => .fixedBytes s
      | "Bytes" => .bytes s
      | "Int" => .int (.text s)
      | "Uint" => .uint (.text s)
      | "String" => .string s
      | _ => .other tag (.str s)
  | .num n =>
      match tag with
      | "Int" => .int (.number n)
      | "Uint" => .uint (.number n)
      | _ => .other tag (.num n)
  | .bool b =>
      match tag with
      | "Bool" => .bool b
      | _ => .other tag (.bool b)
  | .arr items =>
      match tag with
      | "FixedArray" => .fixedArray (ofItems items)
      | "Array" => .array (ofItems items)
      | "Tuple" => .tuple (ofItems items)
      | _ => .other tag (.arr items)
  | payload => .other tag payload

/-- The tokens that a list of JSON values writes. -/
def ofItems : List Json → List Token
  | [] => []
  | item :: items => ofJson item :: ofItems items

end

mutual

/-- The JSON value that writes a token. -/
def toJson : Token → Json
  | .address s => .obj [("Address", .str s)]
  | .fixedBytes s => .obj [("FixedBytes", .str s)]
  | .bytes s => .obj [("Bytes", .str s)]
  | .int (.text s) => .obj [("Int", .str s)]
  | .int (.number n) => .obj [("Int", .num n)]
  | .uint (.text s) => .obj [("Uint", .str s)]
  | .uint (.number n) => .obj [("Uint", .num n)]
  | .bool b => .obj [("Bool", .bool b)]
  | .string s => .obj [("String", .str s)]
  | .fixedArray items => .obj [("FixedArray", .arr (toItems items))]
  | .array items => .obj [("Array", .arr (toItems items))]
  | .tuple items => .obj [("Tuple", .arr (toItems items))]
  | .other tag value => if tag = "" then value else .obj [(tag, value)]

/-- The JSON values that write a list of tokens. -/
def toItems : List Token → List Json
  | [] => []
  | item :: items => toJson item :: toItems items

end

/-- The parts of a list-like token. -/
def items? : Token → Option (List Token)
  | .fixedArray items => some items
  | .array items => some items
  | .tuple items => some items
  | _ => none

end Token

/-- What a call was given or gave back. -/
inductive CallData where
  | tokens (items : List Token)
  | text (s : String)
  | empty
deriving Inhabited

namespace CallData

/-- The call data that a JSON value writes: tokens under `Tokens` or in a bare
array, else a text under `String` or on its own. -/
def ofJson : Json → CallData
  | .obj fields =>
      match fields.lookup "Tokens", fields.lookup "String" with
      | some (.arr items), _ => .tokens (Token.ofItems items)
      | _, some (.str s) => .text s
      | _, _ => .empty
  | .arr items => .tokens (Token.ofItems items)
  | .str s => .text s
  | _ => .empty

/-- The tokens, when there are any. -/
def tokens? : CallData → Option (List Token)
  | .tokens (item :: items) => some (item :: items)
  | _ => none

/-- The text, when it is not empty. -/
def text? : CallData → Option String
  | .text s => if s = "" then none else some s
  | _ => none

end CallData

end CallTree
