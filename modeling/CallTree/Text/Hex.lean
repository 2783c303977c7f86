import CallTree.Text.Digits

/-!
# Bytes written in hexadecimal

A hex text writes every byte as two digits of either case.  It may begin with
`0x` or `0X`, which counts as two characters when the length is checked to be
even.
-/

namespace CallTree.Text

/-- The bytes of a list of digits, two for each byte. -/
def bytesOfDigits : List Char → Option (List Nat)
  | [] => some []
  | [_] => none
  | a :: b :: rest => do
      let high ← digitIn? 16 a
      let low ← digitIn? 16 b
      let bytes ← bytesOfDigits rest
      pure ((16 * high + low) :: bytes)

/-- The bytes that a hex text writes. -/
def bytesOfHex (s : List Char) : Option (List Nat) :=
  if s.length % 2 = 0 then
    match s with
    | '0' :: 'x' :: digits => bytesOfDigits digits
    | '0' :: 'X' :: digits => bytesOfDigits digits
    | digits => bytesOfDigits digits
  else none

/-- The text without the `0x` that it begins with, as often as it does. -/
def dropHexMarks : List Char → List Char
  | '0' :: 'x' :: rest => dropHexMarks rest
  | s => s

/-- The text of bytes up to the first zero byte, one character for each. -/
def zeroTerminated (bytes : List Nat) : List Char :=
  (bytes.takeWhile (· != 0)).map Char.ofNat

/-- The digits of a byte. -/
def digitsOfByte (byte : Nat) : List Char :=
  [Nat.digitChar (byte / 16), Nat.digitChar (byte % 16)]

/-- Bytes as digits in lower case. -/
def hexOfBytes (bytes : List Nat) : List Char :=
  bytes.flatMap digitsOfByte

end CallTree.Text
