import CallTree.Proofs.Token.Signed

/-!
# Shown integers stay as they are

What is shown of a number text is the text itself or the decimal digits of an
integer.  These digits are a text of the same integer again, without blanks, marks
or zeros in front, and so they are shown as they are.  This also holds where they
are read in another way than the text they come from: the digits of a word are read
as decimal digits, those of a negative word behind a sign, and those of a word that
is too large for a signed integer without one.

* `integerText_repr`, `wordText_repr` — the digits of an integer write it;
* `Settles` — what is shown of a text is shown again as it is;
* `settles_of_canonical` — where every integer that is written is written by its
  digits, showing settles;
* `shown_numbers_settle` — it does for both kinds of integers.
-/

namespace CallTree

open Text

/-- The texts without blanks that write an integer as a word. -/
def UnsignedText (i : Int) (body : List Char) : Prop :=
  ∃ w : Nat, i = w ∧ WordText w body

/-! ## The digits of an integer -/

theorem underscored_repr (n : Nat) : Underscored 10 n n.repr.toList := by
  rw [Nat.repr_eq_ofList_toDigits, String.toList_ofList]
  exact .of_numeral ⟨0, rfl⟩ (by decide) (by decide)

/-- **The digits of an integer are one of its spellings.** -/
theorem intSpelling_repr (i : Int) : IntSpelling i i.repr.toList := by
  cases i with
  | ofNat n => exact .unsigned rfl (underscored_repr n)
  | negSucc n =>
      have hrepr : (Int.negSucc n).repr.toList = '-' :: (n + 1).repr.toList := by
        simp [Int.repr]
      rw [hrepr]
      exact .minus rfl (underscored_repr (n + 1))

theorem wordText_repr {w : Nat} (hw : w < 2 ^ 256) : WordText w w.repr.toList := by
  have hmark : ([], 10) ∈ Word.marks := by decide
  exact .spelled (.marked hmark (underscored_repr w)) hw

/-- There are no blanks around the digits of an integer. -/
theorem trim_repr (i : Int) : trim i.repr.toList = i.repr.toList :=
  trim_of_solid (Token.isNumberText_of_intSpelling (intSpelling_repr i)).solid

/-- The digits of an integer write it as a word, if it is one. -/
theorem unsignedText_repr {i : Int} (hlow : 0 ≤ i) (hhigh : i < 2 ^ 256) :
    UnsignedText i i.repr.toList := by
  obtain ⟨w, rfl⟩ := Int.eq_ofNat_of_zero_le hlow
  exact ⟨w, rfl, wordText_repr (by omega)⟩

/-- A decimal spelling of an integer in range writes it. -/
theorem IntSpelling.integerText {i : Int} {s : List Char} (h : IntSpelling i s)
    (hlow : -2 ^ 255 ≤ i) (hhigh : i < 2 ^ 255) : IntegerText i s := by
  have hmark := h.stripStart_eq
  cases h with
  | unsigned value written =>
      have hten : ([], 10) ∈ Word.marks := by decide
      exact .unsigned (.spelled (.marked hten written) (by omega)) hmark value
  | plus value written =>
      have hplus : ('+', 1) ∈ Word.signs := by decide
      exact .signed hplus (Or.inl written) (by omega) hlow hhigh
  | minus value written =>
      have hminus : ('-', -1) ∈ Word.signs := by decide
      exact .signed hminus (Or.inl written) (by omega) hlow hhigh

/-- **The digits of an integer write it**, also where it is too large for a signed
integer. -/
theorem integerText_repr {i : Int} (hlow : -2 ^ 255 ≤ i) (hhigh : i < 2 ^ 256) :
    IntegerText i i.repr.toList := by
  by_cases hsigned : i < 2 ^ 255
  · exact (intSpelling_repr i).integerText hlow hsigned
  · -- Too large for a signed integer, so the digits are read as those of a word.
    obtain ⟨w, value, written⟩ := unsignedText_repr (by omega) hhigh
    exact .unsigned written (intSpelling_repr i).stripStart_eq value

/-- An integer that is written is in range. -/
theorem IntegerText.mem_range {i : Int} {body : List Char} (h : IntegerText i body) :
    -2 ^ 255 ≤ i ∧ i < 2 ^ 256 := by
  cases h with
  | signed _ _ _ low high => omega
  | @word w _ written value =>
      have hlt := written.lt
      rw [Word.toSigned_eq, Word.modulus_eq] at value
      split at value <;> omega
  | @unsigned w _ written _ value =>
      have hlt := written.lt
      omega

/-! ## Showing -/

section Settling

variable (shown : String → String) (writes : Int → List Char → Prop) (low : Int)

/-- Whether what is shown of a text is settled.  The text is shown as it is where it
writes no integer, and else as the digits of the integer, which is in range; what is
shown is shown again as it is; and so only the texts that write no integer and the
digits of the integers in range are shown as they are. -/
structure Settles (s : String) : Prop where
  same_or_number : (shown s = s ∧ ∀ i, ¬ writes i (trim s.toList)) ∨
    ∃ i, writes i (trim s.toList) ∧ low ≤ i ∧ i < 2 ^ 256 ∧ shown s = i.repr
  again : shown (shown s) = shown s
  same_iff : shown s = s ↔
    (∀ i, ¬ writes i (trim s.toList)) ∨ ∃ i, low ≤ i ∧ i < 2 ^ 256 ∧ s = i.repr

variable {shown writes low}

/-- **Showing settles where the digits of every integer write it.** -/
theorem settles_of_digits
    (hnumber : ∀ {s i}, writes i (trim s.toList) → shown s = i.repr)
    (hrest : ∀ {s}, (∀ i, ¬ writes i (trim s.toList)) → shown s = s)
    (hrange : ∀ {i body}, writes i body → low ≤ i ∧ i < 2 ^ 256)
    (hdigits : ∀ {i : Int}, low ≤ i → i < 2 ^ 256 → writes i i.repr.toList)
    (s : String) : Settles shown writes low s := by
  have hagain : ∀ i : Int, low ≤ i → i < 2 ^ 256 → shown i.repr = i.repr := by
    intro i hlow hhigh
    refine hnumber ?_
    rw [trim_repr]
    exact hdigits hlow hhigh
  by_cases hwritten : ∃ i, writes i (trim s.toList)
  case pos =>
    obtain ⟨i, hi⟩ := hwritten
    obtain ⟨hlow, hhigh⟩ := hrange hi
    have hshown : shown s = i.repr := hnumber hi
    constructor
    case same_or_number => exact Or.inr ⟨i, hi, hlow, hhigh, hshown⟩
    case again => rw [hshown, hagain i hlow hhigh]
    case same_iff =>
      constructor
      · intro hsame
        exact Or.inr ⟨i, hlow, hhigh, hsame.symm.trans hshown⟩
      · rintro (hnone | ⟨j, hlow, hhigh, rfl⟩)
        · exact absurd hi (hnone i)
        · exact hagain j hlow hhigh
  case neg =>
    have hnone : ∀ i, ¬ writes i (trim s.toList) := not_exists.mp hwritten
    have hsame : shown s = s := hrest hnone
    exact ⟨Or.inl ⟨hsame, hnone⟩, congrArg shown hsame, iff_of_true hsame (Or.inl hnone)⟩

end Settling

namespace Token

/-- **Shown integers stay as they are.**  What is shown of a number text is the text
itself or the digits of an integer, a word of 256 bits or, if the text is one of a
signed integer, down to the least of these; and it is shown again as it is. -/
theorem shown_numbers_settle (s : String) :
    Settles (fun s => display (.uint (.text s))) UnsignedText 0 s ∧
      Settles (fun s => display (.int (.text s))) IntegerText (-2 ^ 255) s := by
  constructor
  · refine settles_of_digits ?_ ?_ ?_ unsignedText_repr s
    · rintro s i ⟨w, rfl, hword⟩
      exact display_uint_of_wordText hword
    · intro s hnone
      exact display_uint_of_no_word fun w hword => hnone w ⟨w, rfl, hword⟩
    · rintro i body ⟨w, rfl, hword⟩
      have hlt := hword.lt
      omega
  · exact settles_of_digits display_int_of_integerText display_int_of_no_integer
      IntegerText.mem_range integerText_repr s

end Token

end CallTree
