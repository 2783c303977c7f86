/-!
# Floating point numbers of 64 bits

A `Double` is its bit pattern: a sign bit, eleven exponent bits and 52
fraction bits.  The magnitude of a finite double is
`significand · 2 ^ scale / 2 ^ 1074`, so every question about it is one about
natural numbers.

`ofRatio` and `ofDecimal` give the double nearest to a quotient and to a
decimal; of two equally near ones they take the one with the even
significand.
-/

namespace CallTree

/-- A 64-bit floating point number, by its bit pattern. -/
structure Double where
  bits : UInt64
deriving DecidableEq, Inhabited

namespace Double

/-- Whether the sign bit is set. -/
def negative (d : Double) : Bool :=
  Nat.pow 2 63 ≤ d.bits.toNat

/-- The bits without the sign. -/
def magnitudeBits (d : Double) : Nat :=
  d.bits.toNat % Nat.pow 2 63

/-- The eleven exponent bits. -/
def exponentBits (d : Double) : Nat :=
  d.magnitudeBits / Nat.pow 2 52

/-- The 52 fraction bits. -/
def fractionBits (d : Double) : Nat :=
  d.magnitudeBits % Nat.pow 2 52

/-- The magnitude in units of `2 ^ scale / 2 ^ 1074`. -/
def significand (d : Double) : Nat :=
  if d.exponentBits = 0 then d.fractionBits else Nat.pow 2 52 + d.fractionBits

/-- How many doublings the unit of the significand is away from the smallest
one. -/
def scale (d : Double) : Nat :=
  d.exponentBits - 1

/-- The exponent bits of infinities and of what is no number. -/
def specialExponent : Nat := 2047

/-- Whether the double is a number and no infinity. -/
def isFinite (d : Double) : Bool :=
  d.exponentBits < specialExponent

/-- Whether the double is no number at all. -/
def isNaN (d : Double) : Bool :=
  d.exponentBits == specialExponent && d.fractionBits != 0

/-- The magnitude bits of an infinity. -/
def infinityBits : Nat :=
  specialExponent * Nat.pow 2 52

/-- The double with the given sign and magnitude bits. -/
def ofMagnitude (negative : Bool) (magnitude : Nat) : Double :=
  ⟨UInt64.ofNat ((if negative then Nat.pow 2 63 else 0) + magnitude)⟩

/-- A quotient rounded to the nearest natural number, a half to the even
neighbour. -/
def roundQuotient (num den : Nat) : Nat :=
  let below := num / den
  let twice := 2 * (num % den)
  if twice < den then below
  else if den < twice then below + 1
  else if below % 2 = 0 then below else below + 1

/-- The largest `e` with `2 ^ e ≤ num / den`. -/
def floorLog (num den : Nat) : Int :=
  let guess : Int := num.log2 - den.log2
  let reached :=
    if 0 ≤ guess then den * Nat.pow 2 guess.toNat ≤ num else den ≤ num * Nat.pow 2 (-guess).toNat
  if reached then guess else guess - 1

/-- The magnitude bits nearest to `num / den`, those of infinity where the
quotient is too large.  Since consecutive bit patterns are consecutive
doubles, a significand that rounds up to the next power of two needs no
special care. -/
def magnitudeOfRatio (num den : Nat) : Nat :=
  if num = 0 then 0
  else
    let scale := (floorLog num den + 1022).toNat
    let rounded :=
      if 1074 ≤ scale then roundQuotient num (den * Nat.pow 2 (scale - 1074))
      else roundQuotient (num * Nat.pow 2 (1074 - scale)) den
    min infinityBits (scale * Nat.pow 2 52 + rounded)

/-- The double nearest to `num / den` with the given sign. -/
def ofRatio (negative : Bool) (num den : Nat) : Double :=
  ofMagnitude negative (magnitudeOfRatio num den)

/-- The double nearest to `digits · 10 ^ exponent`.  Exponents far outside the
range of doubles are settled by the number of digits alone. -/
def ofDecimal (negative : Bool) (digits : Nat) (exponent : Int) : Double :=
  let length : Int := (Nat.toDigits 10 digits).length
  if digits = 0 || length + exponent < -330 then ofMagnitude negative 0
  else if 310 < length + exponent then ofMagnitude negative infinityBits
  else if 0 ≤ exponent then ofRatio negative (digits * Nat.pow 10 exponent.toNat) 1
  else ofRatio negative digits (Nat.pow 10 (-exponent).toNat)

/-- The magnitude as a quotient of natural numbers. -/
def ratio (d : Double) : Nat × Nat :=
  if 1074 ≤ d.scale then (d.significand * Nat.pow 2 (d.scale - 1074), 1)
  else (d.significand, Nat.pow 2 (1074 - d.scale))

/-- The magnitude rounded to an integer, a half away from zero. -/
def roundMagnitude (d : Double) : Nat :=
  let (num, den) := d.ratio
  (2 * num + den) / (2 * den)

/-- Whether the double is zero, of either sign. -/
def isZero (d : Double) : Bool :=
  d.magnitudeBits == 0

end Double

end CallTree
