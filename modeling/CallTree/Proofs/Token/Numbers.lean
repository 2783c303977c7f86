import CallTree.Proofs.Token.Spellings

/-!
# Integers shown in decimal

An integer of 256 bits has many texts: decimal digits, or after `0x` the
hexadecimal digits of its word, which for a negative integer is its two's
complement.  Whichever of them a token holds, the text it is shown as is the
decimal one.

* `Word.toSigned_twosComplement` — a word in two's complement reads back;
* `UintText.spelling` — the texts of an unsigned integer are among its spellings;
* `displayUint_of_uintText`, `displayInt_of_intText` — every text of an integer is
  shown as the decimal digits.
-/

namespace CallTree

open Text

/-! ## The texts of an integer -/

/-- The word of a signed integer, in two's complement. -/
def Word.twosComplement (i : Int) : Nat :=
  (i % 2 ^ 256).toNat

/-- The texts of an unsigned integer. -/
inductive UintText (n : Nat) : List Char → Prop where
  | decimal {digits} (numeral : Numeral 10 n digits) : UintText n digits
  | hex {digits} (numeral : Numeral 16 n digits) : UintText n ('0' :: 'x' :: digits)

/-- The texts of a signed integer. -/
inductive IntText (i : Int) : List Char → Prop where
  | decimal {n : Nat} {digits} (value : i = n) (numeral : Numeral 10 n digits) : IntText i digits
  | negative {n : Nat} {digits} (value : i = -n) (numeral : Numeral 10 n digits) :
      IntText i ('-' :: digits)
  | hex {digits} (numeral : Numeral 16 (Word.twosComplement i) digits) :
      IntText i ('0' :: 'x' :: digits)

/-! ## Two's complement -/

namespace Word

theorem toSigned_eq (word : Nat) :
    toSigned word = if word < 2 ^ 255 then (word : Int) else (word : Int) - modulus :=
  rfl

theorem twosComplement_lt (i : Int) : twosComplement i < modulus := by
  rw [modulus_eq]
  unfold twosComplement
  omega

/-- **A word in two's complement reads back.** -/
theorem toSigned_twosComplement {i : Int} (hlow : -2 ^ 255 ≤ i) (hhigh : i < 2 ^ 255) :
    toSigned (twosComplement i) = i := by
  rw [toSigned_eq, modulus_eq]
  unfold twosComplement
  split
  · omega
  · omega

/-- The digits of a word after the mark are read as the signed integer of the
word. -/
theorem readSigned_hex {word : Nat} {digits : List Char} (h : Underscored 16 word digits)
    (hword : word < modulus) :
    readSigned ('0' :: 'x' :: digits) = some (toSigned word) := by
  have hmark : stripStart ['0', 'x'] ('0' :: 'x' :: digits) = some digits := rfl
  have hread := h.readDigits_eq (by decide) (by decide)
  rw [if_pos hword] at hread
  simp only [readSigned, hmark, hread, Option.map_some]

end Word

/-! ## Showing -/

/-- The texts of an unsigned integer are among its spellings. -/
theorem UintText.spelling {n : Nat} {s : List Char} (h : UintText n s) : UintSpelling n s := by
  cases h with
  | decimal numeral =>
      have hmark : ([], 10) ∈ Word.marks := by decide
      exact .marked hmark (.of_numeral numeral (by decide) (by decide))
  | hex numeral =>
      have hmark : (['0', 'x'], 16) ∈ Word.marks := by decide
      exact .marked hmark (.of_numeral numeral (by decide) (by decide))

namespace Token

/-- **Every text of an unsigned integer is shown as its decimal digits.** -/
theorem displayUint_of_uintText {n : Nat} {s : List Char} (h : UintText n s)
    (hn : n < Word.modulus) : displayUint (.text (String.ofList s)) = n.repr := by
  have hpadded : Padded s (String.ofList s).toList := String.toList_ofList ▸ padded_self s
  have hread := h.spelling.readUnsigned_eq
  rw [if_pos hn] at hread
  exact displayUint_of_readUnsigned hpadded (isNumberText_of_uintSpelling h.spelling) hread

/-- **Every text of a signed integer is shown as its decimal digits.** -/
theorem displayInt_of_intText {i : Int} {s : List Char} (h : IntText i s)
    (hlow : -2 ^ 255 ≤ i) (hhigh : i < 2 ^ 255) :
    displayInt (.text (String.ofList s)) = i.repr := by
  have hpadded : Padded s (String.ofList s).toList := String.toList_ofList ▸ padded_self s
  have hdecimal (hspelling : IntSpelling i s) : displayInt (.text (String.ofList s)) = i.repr :=
    displayInt_of_readSigned hpadded (isNumberText_of_intSpelling hspelling)
      (hspelling.readSigned_eq hlow hhigh)
  cases h with
  | decimal value numeral =>
      exact hdecimal (.unsigned value (.of_numeral numeral (by decide) (by decide)))
  | negative value numeral =>
      exact hdecimal (.minus value (.of_numeral numeral (by decide) (by decide)))
  | hex numeral =>
      have hbody := isNumberText_of_uintSpelling (UintText.hex numeral).spelling
      have hread := Word.readSigned_hex (.of_numeral numeral (by decide) (by decide))
        (Word.twosComplement_lt i)
      rw [Word.toSigned_twosComplement hlow hhigh] at hread
      exact displayInt_of_readSigned hpadded hbody hread

end Token

end CallTree
