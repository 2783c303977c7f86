import CallTree.Text.Digits
import CallTree.Text.Segments

/-!
# Words of 256 bits and their texts

Contract values are words of 256 bits, read as unsigned numbers or, in two's
complement, as signed ones.  Their texts are decimal, or hexadecimal, octal or
binary after a mark; underscores among the digits do not count, and a text
without any digit writes zero.

* `readUnsigned` — a mark `0x`, `0o` or `0b` of either case chooses the base;
* `readSigned` — decimal with a sign; after a lower-case `0x` the digits are
  those of the word in two's complement.
-/

namespace CallTree.Word

/-- How many words there are. -/
def modulus : Nat := Nat.pow 2 256

/-- The number that digits write after those of `value`; underscores do not
count. -/
def readDigitsFrom (base value : Nat) : List Char → Option Nat
  | [] => some value
  | c :: rest =>
      if c = '_' then readDigitsFrom base value rest
      else
        match Text.digitIn? base c with
        | some d => readDigitsFrom base (value * base + d) rest
        | none => none

/-- The number below 2²⁵⁶ that a list of digits writes. -/
def readDigits (base : Nat) (s : List Char) : Option Nat :=
  match readDigitsFrom base 0 s with
  | some n => if n < modulus then some n else none
  | none => none

/-- The base that the mark at the start of a text chooses, and the digits
after the mark. -/
def splitMark : List Char → Nat × List Char
  | '0' :: 'x' :: rest => (16, rest)
  | '0' :: 'X' :: rest => (16, rest)
  | '0' :: 'o' :: rest => (8, rest)
  | '0' :: 'O' :: rest => (8, rest)
  | '0' :: 'b' :: rest => (2, rest)
  | '0' :: 'B' :: rest => (2, rest)
  | s => (10, s)

/-- The unsigned number that a text writes. -/
def readUnsigned (s : List Char) : Option Nat :=
  let (base, digits) := splitMark s
  readDigits base digits

/-- The signed number of a word in two's complement. -/
def toSigned (word : Nat) : Int :=
  if word < Nat.pow 2 255 then word else (word : Int) - modulus

/-- The signed number that a decimal text with an optional sign writes. -/
def readDecimal (s : List Char) : Option Int :=
  match s with
  | '-' :: digits => do
      let n ← readDigits 10 digits
      if n ≤ Nat.pow 2 255 then some (-(n : Int)) else none
  | '+' :: digits => positive digits
  | digits => positive digits
where
  /-- A number without a sign. -/
  positive (digits : List Char) : Option Int := do
    let n ← readDigits 10 digits
    if n < Nat.pow 2 255 then some n else none

/-- The number that the text of a signed value writes: signed if it is in
range, else what it writes as an unsigned number. -/
def readSigned (s : List Char) : Option Int :=
  let signed := match Text.stripStart ['0', 'x'] s with
    | some digits => (readDigits 16 digits).map toSigned
    | none => readDecimal s
  match signed with
  | some i => some i
  | none => (readUnsigned s).map Int.ofNat

end CallTree.Word
