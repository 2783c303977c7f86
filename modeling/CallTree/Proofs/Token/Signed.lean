import CallTree.Proofs.Token.SignBit

/-!
# The texts of signed integers

A signed integer is written in three ways: in decimal with a sign in front, as a
word after a lower-case `0x`, or like any other word.  They do not overlap, since
the first character tells a sign from a mark and a mark from a decimal digit.

Behind a sign there are only decimal digits.  A mark there makes the whole text
unreadable, since what begins with a sign is no word either.

* `IntegerText` — the three ways;
* `readSigned_sign` — what is read behind a sign;
* `readSigned_eq_some_iff` — the texts that are read are the texts of integers;
* `display_int_of_integerText`, `display_int_of_no_integer` — what is shown of them
  and of all other texts.
-/

namespace CallTree

open Text

/-- The signs of a decimal number, and what they multiply it by. -/
def Word.signs : List (Char × Int) :=
  [('+', 1), ('-', -1)]

/-- The digits of a number with underscores among them, or underscores alone, which
write zero. -/
def DigitText (base n : Nat) (s : List Char) : Prop :=
  Underscored base n s ∨ n = 0 ∧ ∀ c ∈ s, c = '_'

/-- The texts without blanks that write a signed integer. -/
inductive IntegerText (i : Int) : List Char → Prop where
  | signed {sign : Char} {factor : Int} {n : Nat} {digits : List Char}
      (hsign : (sign, factor) ∈ Word.signs) (written : DigitText 10 n digits)
      (value : i = factor * n) (low : -2 ^ 255 ≤ i) (high : i < 2 ^ 255) :
      IntegerText i (sign :: digits)
  | word {w : Nat} {digits : List Char} (written : WordText w ('0' :: 'x' :: digits))
      (value : i = Word.toSigned w) : IntegerText i ('0' :: 'x' :: digits)
  | unsigned {w : Nat} {body : List Char} (written : WordText w body)
      (hmark : stripStart ['0', 'x'] body = none) (value : i = w) : IntegerText i body

/-! ## Reading -/

namespace Word

variable {sign : Char} {factor i : Int} {s digits : List Char}

theorem mem_signs_iff :
    (sign, factor) ∈ signs ↔ sign = '+' ∧ factor = 1 ∨ sign = '-' ∧ factor = -1 := by
  simp [signs]

/-- A text that begins with a sign is no word. -/
theorem readUnsigned_sign (hsign : (sign, factor) ∈ signs) (digits : List Char) :
    readUnsigned (sign :: digits) = none := by
  have hsplit : splitMark (sign :: digits) = (10, sign :: digits) := by
    rcases mem_signs_iff.mp hsign with ⟨rfl, _⟩ | ⟨rfl, _⟩ <;> rfl
  have hall : ∀ signed ∈ signs, digitIn? 10 signed.1 = none ∧ signed.1 ≠ '_' := by decide
  obtain ⟨hdigit, hbar⟩ := hall _ hsign
  rw [readUnsigned, hsplit]
  cases hread : readDigits 10 (sign :: digits) with
  | none => exact hread
  | some n =>
      exact absurd List.mem_cons_self
        (notMem_of_readDigits (by decide) (by decide) hread hdigit hbar)

theorem head?_ne_of_readUnsigned {w : Nat} (hsign : (sign, factor) ∈ signs)
    (h : readUnsigned s = some w) : s.head? ≠ some sign := by
  intro hhead
  obtain ⟨digits, rfl⟩ := List.head?_eq_some_iff.mp hhead
  rw [readUnsigned_sign hsign] at h
  cases h

/-- **Behind a sign only decimal digits are read**, as far as they are in range. -/
theorem readSigned_sign (hsign : (sign, factor) ∈ signs) :
    readSigned (sign :: digits) = some i ↔
      ∃ n, readDigits 10 digits = some n ∧ i = factor * n ∧ -2 ^ 255 ≤ i ∧ i < 2 ^ 255 := by
  have hread : readSigned (sign :: digits) = readDecimal (sign :: digits) := by
    have hmark : stripStart ['0', 'x'] (sign :: digits) = none := by
      rcases mem_signs_iff.mp hsign with ⟨rfl, _⟩ | ⟨rfl, _⟩ <;> rfl
    simp only [readSigned, hmark, readUnsigned_sign hsign]
    cases readDecimal (sign :: digits) <;> rfl
  rw [hread]
  rcases mem_signs_iff.mp hsign with ⟨rfl, rfl⟩ | ⟨rfl, rfl⟩
  case inl =>
    have hplus : readDecimal ('+' :: digits) =
        (readDigits 10 digits).bind fun n => if n < 2 ^ 255 then some (n : Int) else none := rfl
    simp only [hplus, Option.bind_eq_some_iff, Option.ite_none_right_eq_some, Option.some.injEq]
    refine exists_congr fun n => and_congr_right fun _ => ?_
    constructor
    · rintro ⟨hsmall, rfl⟩
      omega
    · rintro ⟨rfl, _, hhigh⟩
      omega
  case inr =>
    have hminus : readDecimal ('-' :: digits) =
        (readDigits 10 digits).bind fun n => if n ≤ 2 ^ 255 then some (-(n : Int)) else none := rfl
    simp only [hminus, Option.bind_eq_some_iff, Option.ite_none_right_eq_some, Option.some.injEq]
    refine exists_congr fun n => and_congr_right fun _ => ?_
    constructor
    · rintro ⟨hsmall, rfl⟩
      omega
    · rintro ⟨rfl, hlow, _⟩
      omega

/-- **The texts that are read are the texts of integers**, the two texts without
anything to read apart. -/
theorem readSigned_eq_some_iff (hempty : s ≠ []) (halone : s ≠ ['0', 'x']) :
    readSigned s = some i ↔ IntegerText i s := by
  constructor
  · intro h
    cases hmark : stripStart ['0', 'x'] s with
    | some digits =>
        obtain rfl : s = '0' :: 'x' :: digits := eq_append_of_stripStart hmark
        rw [readSigned_hexMark] at h
        obtain ⟨w, hread, rfl⟩ := Option.map_eq_some_iff.mp h
        exact .word ((readUnsigned_eq_some_iff hempty halone).mp hread) rfl
    | none =>
        -- What has neither mark nor sign is left to the reader of words.
        by_cases hsign : ∃ sign factor, (sign, factor) ∈ signs ∧ s.head? = some sign
        · obtain ⟨sign, factor, hsign, hhead⟩ := hsign
          obtain ⟨digits, rfl⟩ := List.head?_eq_some_iff.mp hhead
          obtain ⟨n, hread, value, low, high⟩ := (readSigned_sign hsign).mp h
          obtain ⟨_, written⟩ := (readDigits_eq_some_iff (by decide) (by decide)).mp hread
          exact .signed hsign written value low high
        · have hplus : s.head? ≠ some '+' := fun hhead => hsign ⟨'+', 1, by decide, hhead⟩
          have hminus : s.head? ≠ some '-' := fun hhead => hsign ⟨'-', -1, by decide, hhead⟩
          rw [readSigned_of_unmarked hmark hplus hminus] at h
          obtain ⟨w, hread, rfl⟩ := Option.map_eq_some_iff.mp h
          exact .unsigned ((readUnsigned_eq_some_iff hempty halone).mp hread) hmark rfl
  · intro h
    cases h with
    | @signed sign factor n digits hsign written value low high =>
        have hsmall : n < modulus := by
          rw [modulus_eq]
          rcases mem_signs_iff.mp hsign with ⟨_, rfl⟩ | ⟨_, rfl⟩ <;> omega
        refine (readSigned_sign hsign).mpr ⟨n, ?_, value, low, high⟩
        exact (readDigits_eq_some_iff (by decide) (by decide)).mpr ⟨hsmall, written⟩
    | @word w digits written value =>
        rw [readSigned_hexMark, (readUnsigned_eq_some_iff hempty halone).mpr written, value]
        rfl
    | @unsigned w body written hmark value =>
        have hread := (readUnsigned_eq_some_iff hempty halone).mpr written
        have hplus : ('+', 1) ∈ signs := by decide
        have hminus : ('-', -1) ∈ signs := by decide
        rw [readSigned_of_unmarked hmark (head?_ne_of_readUnsigned hplus hread)
          (head?_ne_of_readUnsigned hminus hread), hread, value]
        rfl

end Word

/-! ## Showing -/

/-- A word is below the number of all words. -/
theorem WordText.lt {w : Nat} {body : List Char} (h : WordText w body) : w < 2 ^ 256 := by
  cases h with
  | spelled _ small => exact small
  | bare _ _ zero _ _ => omega

namespace Token

variable {s : String} {i : Int}

/-- A text of an integer holds something to be read. -/
theorem ne_of_integerText {body : List Char} (h : IntegerText i body) :
    body ≠ [] ∧ body ≠ ['0', 'x'] := by
  cases h with
  | @signed sign factor n digits hsign written value low high =>
      refine ⟨List.cons_ne_nil _ _, ?_⟩
      rintro ⟨⟩
      exact absurd hsign (by simp [Word.mem_signs_iff])
  | word written value => exact ne_of_wordText written
  | unsigned written hmark value => exact ne_of_wordText written

/-- **The text of an integer is shown as the integer that it writes.** -/
theorem display_int_of_integerText (h : IntegerText i (trim s.toList)) :
    display (.int (.text s)) = i.repr := by
  rw [display_int_eq]
  exact shown_of_written Word.readSigned_eq_some_iff Int.repr (ne_of_integerText h) h

/-- **What writes no integer is shown as it is.** -/
theorem display_int_of_no_integer (h : ∀ i, ¬ IntegerText i (trim s.toList)) :
    display (.int (.text s)) = s := by
  rw [display_int_eq]
  exact shown_of_nothing_written Word.readSigned_eq_some_iff Int.repr h

end Token

end CallTree
