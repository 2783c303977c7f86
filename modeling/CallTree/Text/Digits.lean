/-!
# Numbers written with digits

Digits stand for their values in every base; from ten on letters of either
case are digits.

* `numberIn` — the number that digits of a base write;
* `readNatural` — a natural number of 64 bits.
-/

namespace CallTree.Text

/-- The value of a digit, or of a letter as a digit. -/
def digit? (c : Char) : Option Nat :=
  if '0' ≤ c && c ≤ '9' then some (c.toNat - '0'.toNat)
  else if 'a' ≤ c && c ≤ 'z' then some (c.toNat - 'a'.toNat + 10)
  else if 'A' ≤ c && c ≤ 'Z' then some (c.toNat - 'A'.toNat + 10)
  else none

/-- The value of a digit in a base. -/
def digitIn? (base : Nat) (c : Char) : Option Nat :=
  (digit? c).bind fun d => if d < base then some d else none

/-- The number that digits write after those of `value`. -/
def numberFrom (base value : Nat) : List Char → Option Nat
  | [] => some value
  | c :: rest =>
      match digitIn? base c with
      | some d => numberFrom base (value * base + d) rest
      | none => none

/-- The number that digits of a base write; no digit at all writes zero. -/
def numberIn (base : Nat) (s : List Char) : Option Nat :=
  numberFrom base 0 s

/-- The number that at least one digit of a base writes. -/
def someNumberIn (base : Nat) (s : List Char) : Option Nat :=
  if s.isEmpty then none else numberIn base s

/-- The natural number below 2⁶⁴ that decimal digits write, with an optional
`+`. -/
def readNatural (s : List Char) : Option Nat :=
  let digits := match s with
    | '+' :: digits => digits
    | digits => digits
  (someNumberIn 10 digits).bind fun n => if n < Nat.pow 2 64 then some n else none

end CallTree.Text
