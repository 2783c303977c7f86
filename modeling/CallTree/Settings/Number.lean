import CallTree.Double.Basic
import CallTree.Text.Digits

/-!
# Numbers in settings

Settings write numbers as texts: integers of 64 bits with an optional sign,
and floating point numbers with an optional point, an optional exponent, or as
one of the words for infinities and for what is no number.
-/

namespace CallTree.Settings

/-- The signed number of 64 bits that digits with an optional sign write. -/
def readSigned (base : Nat) (s : List Char) : Option Int :=
  let value := match s with
    | '-' :: digits => (Text.someNumberIn base digits).map fun n => -(n : Int)
    | '+' :: digits => (Text.someNumberIn base digits).map Int.ofNat
    | digits => (Text.someNumberIn base digits).map Int.ofNat
  value.bind fun i => if -(Nat.pow 2 63 : Int) ≤ i && i < (Nat.pow 2 63 : Int) then some i else none

/-- The exponent of a number, with its sign. -/
def readExponent : List Char → Option Int
  | '-' :: digits => (Text.someNumberIn 10 digits).map fun n => -(n : Int)
  | '+' :: digits => (Text.someNumberIn 10 digits).map Int.ofNat
  | digits => (Text.someNumberIn 10 digits).map Int.ofNat

/-- The magnitude that a text without a sign writes. -/
def readMagnitude (negative : Bool) (s : List Char) : Option Double :=
  let whole := s.takeWhile Char.isDigit
  let rest := s.dropWhile Char.isDigit
  let (places, rest) := match rest with
    | '.' :: rest => (rest.takeWhile Char.isDigit, rest.dropWhile Char.isDigit)
    | rest => ([], rest)
  let exponent := match rest with
    | [] => some 0
    | 'e' :: rest => readExponent rest
    | 'E' :: rest => readExponent rest
    | _ => none
  match Text.someNumberIn 10 (whole ++ places), exponent with
  | some digits, some exponent =>
      some (Double.ofDecimal negative digits (exponent - (places.length : Int)))
  | _, _ => none

/-- The double that a text without a sign writes. -/
def readUnsignedFloat (negative : Bool) (s : List Char) : Option Double :=
  let word := String.ofList (s.map Char.toLower)
  if word = "inf" || word = "infinity" then
    some (Double.ofMagnitude negative Double.infinityBits)
  else if word = "nan" then some (Double.ofMagnitude negative (Double.infinityBits + Nat.pow 2 51))
  else readMagnitude negative s

/-- The double that a text writes. -/
def readFloat : List Char → Option Double
  | '-' :: rest => readUnsignedFloat true rest
  | '+' :: rest => readUnsignedFloat false rest
  | rest => readUnsignedFloat false rest

end CallTree.Settings
