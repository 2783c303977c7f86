import CallTree.Text.CompositionTable

/-!
# One form for characters that can be written in several ways

A character with marks can be written as one character or as several.  In the
composed form marks stand in the order of their classes, and what can be one
character is one.  Korean syllables are made of their letters by a rule.

* `compose` — the composed form of a text.
-/

namespace CallTree.Text

/-- The class of a mark; 0 for everything else. -/
def markClass (n : Nat) : Nat :=
  ((CodeRow.find? markClassRows n).bind (·.values.head?)).getD 0

/-- The letters of a Korean syllable. -/
def syllableParts? (n : Nat) : Option (List Nat) :=
  if 0xAC00 ≤ n && n < 0xAC00 + 11172 then
    let place := n - 0xAC00
    let start := [0x1100 + place / 588, 0x1161 + place % 588 / 28]
    some (if place % 28 = 0 then start else start ++ [0x11A7 + place % 28])
  else none

/-- The Korean syllable that two parts make: two letters, or a syllable and its
last letter. -/
def syllable? (a b : Nat) : Option Nat :=
  if 0x1100 ≤ a && a < 0x1113 && 0x1161 ≤ b && b < 0x1176 then
    some (0xAC00 + ((a - 0x1100) * 21 + (b - 0x1161)) * 28)
  else if 0xAC00 ≤ a && a < 0xAC00 + 11172 && (a - 0xAC00) % 28 = 0 && 0x11A7 < b &&
      b < 0x11C3 then
    some (a + (b - 0x11A7))
  else none

/-- The character that two others make. -/
def composite? (a b : Nat) : Option Nat :=
  match syllable? a b with
  | some n => some n
  | none => (compositionRows.find? fun row => row.values == [a, b]).map (·.first)

/-- The characters that a character is made of, down to the given depth. -/
def partsOf : (depth : Nat) → Nat → List Nat
  | 0, n => [n]
  | depth + 1, n =>
      match syllableParts? n with
      | some parts => parts
      | none =>
          match CodeRow.find? compositionRows n with
          | some row => row.values.flatMap (partsOf depth)
          | none => [n]

/-- How deep characters are made of others at most. -/
def maxDepth : Nat := 4

/-- Marks in the order of their classes; `marks` are those since the last
character that is none, listed from the end. -/
def orderMarks (marks : List Nat) : List Nat → List Nat
  | [] => sorted marks
  | n :: rest =>
      if markClass n = 0 then sorted marks ++ n :: orderMarks [] rest
      else orderMarks (n :: marks) rest
where
  /-- The marks in order; those of one class stay as they are. -/
  sorted (marks : List Nat) : List Nat :=
    marks.reverse.mergeSort fun a b => markClass a ≤ markClass b

/-- Puts the characters after `start` into it where they make one character.
`kept` are the marks in between, listed from their end. -/
def joinFrom (start : Nat) (kept : List Nat) : List Nat → List Nat
  | [] => start :: kept.reverse
  | n :: rest =>
      let level := markClass n
      let isNext := kept.head?.all fun mark => markClass mark < level
      match if isNext then composite? start n else none with
      | some whole => joinFrom whole kept rest
      | none =>
          if level = 0 then start :: kept.reverse ++ joinFrom n [] rest
          else joinFrom start (n :: kept) rest

/-- Puts characters together where two make one. -/
def joinAll : List Nat → List Nat
  | [] => []
  | n :: rest => if markClass n = 0 then joinFrom n [] rest else n :: joinAll rest

/-- The composed form of a text. -/
def compose (s : List Char) : List Char :=
  (joinAll (orderMarks [] (s.flatMap fun c => partsOf maxDepth c.toNat))).map Char.ofNat

end CallTree.Text
