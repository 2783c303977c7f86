import CallTree.Text.Hex
import CallTree.Text.Utf8

/-!
# Percent encoding

A character that an address may not hold is written as its UTF-8 bytes, each
as `%` and two digits.
-/

namespace CallTree.Address

/-- The UTF-8 bytes of a text. -/
def utf8Bytes (s : List Char) : List UInt8 :=
  (String.ofList s).toUTF8.toList

/-- A byte as `%` and two digits in upper case. -/
def percentByte (byte : UInt8) : List Char :=
  '%' :: (Text.digitsOfByte byte.toNat).map Char.toUpper

/-- Whether a character may not stand in the path of an address. -/
def isPathUnsafe (c : Char) : Bool :=
  c ≤ ' ' || '\x7f' ≤ c || " \"#<>?\x60\x7b\x7d".toList.contains c

/-- Whether a character may not stand in a user name or a password. -/
def isUserUnsafe (c : Char) : Bool :=
  isPathUnsafe c || "/:;=@[\\]^|".toList.contains c

/-- Whether a character is no printable ASCII. -/
def isControl (c : Char) : Bool :=
  c < ' ' || '\x7f' ≤ c

/-- A text with every character of a class written as its bytes. -/
def percentEncode (isUnsafe : Char → Bool) (s : List Char) : List Char :=
  s.flatMap fun c => if isUnsafe c then (utf8Bytes [c]).flatMap percentByte else [c]

/-- The bytes that a text stands for. -/
def percentDecode : List Char → List UInt8
  | [] => []
  | '%' :: a :: b :: rest =>
      match Text.digitIn? 16 a, Text.digitIn? 16 b with
      | some high, some low => UInt8.ofNat (16 * high + low) :: percentDecode rest
      | _, _ => utf8Bytes ['%'] ++ percentDecode (a :: b :: rest)
  | c :: rest => utf8Bytes [c] ++ percentDecode rest

end CallTree.Address
