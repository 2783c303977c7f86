import CallTree.Text.Segments

/-!
# Host labels outside ASCII

A label with characters outside ASCII is written with its ASCII characters
first; after a dash follow the other characters, in increasing order, each as
the distance from the one before it.  Distances are numbers in base 36 whose
digits say where the number ends, with thresholds that adapt to the distances
seen so far.

* `encode` — a label in ASCII;
* `decode?` — the label that was written in this way.
-/

namespace CallTree.Address.Punycode

/-- The letter or digit that stands for a number below 36. -/
def digit (n : Nat) : Char :=
  if n < 26 then Char.ofNat ('a'.toNat + n) else Char.ofNat ('0'.toNat + (n - 26))

/-- The threshold of the digit at a position. -/
def threshold (position bias : Nat) : Nat :=
  if position ≤ bias + 1 then 1 else if bias + 26 ≤ position then 26 else position - bias

/-- Scales a distance down until it is small; `position` counts the steps. -/
def shrink (delta position : Nat) : Nat :=
  if 455 < delta then shrink (delta / 35) (position + 36)
  else position + 36 * delta / (delta + 38)
termination_by delta
decreasing_by omega

/-- The bias after a distance; `count` characters are written by then. -/
def adapt (delta count : Nat) (first : Bool) : Nat :=
  let delta := if first then delta / 700 else delta / 2
  shrink (delta + delta / count) 0

/-- The digits of a distance. -/
def distance (bias position q : Nat) : List Char :=
  let t := threshold position bias
  if h : q < t ∨ t = 0 ∨ 26 < t then [digit q]
  else digit (t + (q - t) % (36 - t)) :: distance bias (position + 36) ((q - t) / (36 - t))
termination_by q
decreasing_by
  have h1 : (q - threshold position bias) / (36 - threshold position bias) ≤
      q - threshold position bias := Nat.div_le_self _ _
  omega

/-- How far the writing of a label has come. -/
structure Progress where
  written : List Char
  delta : Nat
  bias : Nat
  count : Nat

/-- Takes one character of the label while the characters with the number
`code` are written; `plain` counts the ASCII characters. -/
def take (plain code : Nat) (p : Progress) (c : Char) : Progress :=
  if c.toNat < code then { p with delta := p.delta + 1 }
  else if c.toNat = code then
    { written := p.written ++ distance p.bias 36 p.delta
      delta := 0
      bias := adapt p.delta (p.count + 1) (p.count == plain)
      count := p.count + 1 }
  else p

/-- Writes the characters with the given numbers, which increase. -/
def writeAll (label : List Char) (plain : Nat) : List Nat → (next : Nat) → Progress → Progress
  | [], _, p => p
  | code :: codes, next, p =>
      let p := { p with delta := p.delta + (code - next) * (p.count + 1) }
      let p := label.foldl (take plain code) p
      writeAll label plain codes (code + 1) { p with delta := p.delta + 1 }

/-- A label in ASCII. -/
def encode (label : List Char) : List Char :=
  let plain := label.filter fun c => c.toNat < 128
  if plain.length = label.length then label
  else
    let codes := ((label.map Char.toNat).filter (128 ≤ ·)).mergeSort.eraseReps
    let p := writeAll label plain.length codes 128 ⟨[], 0, 72, plain.length⟩
    "xn--".toList ++ plain ++ (if plain.isEmpty then [] else ['-']) ++ p.written

/-- The number that a letter or digit stands for. -/
def value? (c : Char) : Option Nat :=
  if 'a' ≤ c && c ≤ 'z' then some (c.toNat - 'a'.toNat)
  else if 'A' ≤ c && c ≤ 'Z' then some (c.toNat - 'A'.toNat)
  else if '0' ≤ c && c ≤ '9' then some (c.toNat - '0'.toNat + 26)
  else none

/-- The distance that a text begins with, and what follows; `weight` is that of
the next digit, and `sum` is what the digits before it count.  Neither may reach
2 ^ 32. -/
def readDistance (bias position weight sum : Nat) : List Char → Option (Nat × List Char)
  | [] => none
  | c :: rest => do
      let digit ← value? c
      let sum := sum + digit * weight
      let t := threshold position bias
      if Nat.pow 2 32 ≤ sum then none
      else if digit < t then some (sum, rest)
      else if Nat.pow 2 32 ≤ weight * (36 - t) then none
      else readDistance bias (position + 36) (weight * (36 - t)) sum rest

/-- Puts a character into a label. -/
def insertAt (place : Nat) (c : Char) (label : List Char) : List Char :=
  label.take place ++ c :: label.drop place

/-- Reads the distances of a label and puts their characters into it.  `next`
is the number of the next character and `place` where it would stand. -/
def decodeFrom : (fuel next place bias : Nat) → (label s : List Char) → Option (List Char)
  | _, _, _, _, label, [] => some label
  | 0, _, _, _, _, _ => none
  | fuel + 1, next, place, bias, label, s => do
      let (delta, rest) ← readDistance bias 36 1 0 s
      let count := label.length + 1
      let code := next + (place + delta) / count
      let at_ := (place + delta) % count
      if code.isValidChar then
        decodeFrom fuel code (at_ + 1) (adapt delta count (next == 128 && place == 0))
          (insertAt at_ (Char.ofNat code) label) rest
      else none

/-- The label that was written in ASCII. -/
def decode? (s : List Char) : Option (List Char) :=
  match Text.splitLast '-' s with
  | some (c :: plain, rest) => decodeFrom rest.length 128 0 72 (c :: plain) rest
  | _ => decodeFrom s.length 128 0 72 [] s

end CallTree.Address.Punycode
