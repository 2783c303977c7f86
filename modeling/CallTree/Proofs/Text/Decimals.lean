import CallTree.Proofs.Text.Numerals

/-!
# Decimal texts

A number of 64 bits is read from decimal digits of ASCII, with a plus in front or
without one.  Zeros in front of the digits do not count, so a number has many texts;
only one of them has neither a plus nor a zero that could be left out, and that is the
text that is printed.

* `digitIn?_ten_eq_some_iff`, `numberFrom_ten_eq_some_iff` — what base ten reads;
* `readNatural_eq_some_iff` — which texts are read, and as which numbers;
* `Canonical.eq_toDigits` — canonical digits print their value.
-/

namespace CallTree.Text

/-- Whether a text is made of decimal digits, at least one. -/
structure Digits (s : List Char) : Prop where
  ne_nil : s ≠ []
  digit : ∀ c ∈ s, c.isDigit = true

/-- Whether a text is made of decimal digits with the value `n`. -/
structure Decimals (n : Nat) (s : List Char) : Prop extends Digits s where
  value : Nat.ofDigitChars 10 s 0 = n

/-- Whether a text is made of decimal digits with the value `n`, after a plus or without
one. -/
def PlusDecimals (n : Nat) (s : List Char) : Prop :=
  ∃ digits, (s = digits ∨ s = '+' :: digits) ∧ Decimals n digits

/-- Whether a text is made of decimal digits, none of which is a zero in front of
others. -/
structure Canonical (s : List Char) : Prop extends Digits s where
  unpadded : s.head? = some '0' → s = ['0']

/-! ## What is read -/

/-- The digits of base ten are the decimal ones. -/
theorem digitIn?_ten_eq_some_iff {c : Char} {d : Nat} :
    digitIn? 10 c = some d ↔ c.isDigit = true ∧ c.toNat - '0'.toNat = d := by
  have hcode : c.toNat = c.val.toNat := rfl
  have hzero : '0'.toNat = 48 := rfl
  rw [digitIn?_eq_some_iff, Char.isDigit_iff_toNat, hzero]
  constructor
  · grind [digit?, Char.le_def, UInt32.le_iff_toNat_le]
  · grind [digit?, Char.le_def, UInt32.le_iff_toNat_le]

/-- What base ten reads is made of decimal digits, each of which is counted on. -/
theorem numberFrom_ten_eq_some_iff {value n : Nat} {s : List Char} :
    numberFrom 10 value s = some n ↔
      (∀ c ∈ s, c.isDigit = true) ∧ Nat.ofDigitChars 10 s value = n := by
  induction s generalizing value with
  | nil => simp [numberFrom]
  | cons c s ih =>
      rw [numberFrom, List.forall_mem_cons, Nat.ofDigitChars_cons]
      cases hc : digitIn? 10 c with
      | some d =>
          obtain ⟨hdigit, rfl⟩ := digitIn?_ten_eq_some_iff.mp hc
          rw [ih, Nat.mul_comm, and_assoc, and_iff_right hdigit]
      | none =>
          have hdigit : c.isDigit ≠ true := by
            intro h
            rw [digitIn?_ten_eq_some_iff.mpr ⟨h, rfl⟩] at hc
            cases hc
          simp [hdigit]

theorem someNumberIn_ten_eq_some_iff {n : Nat} {s : List Char} :
    someNumberIn 10 s = some n ↔ Decimals n s := by
  rw [someNumberIn, numberIn]
  constructor
  · intro h
    split at h
    · cases h
    · rename_i hne
      obtain ⟨hdigits, hvalue⟩ := numberFrom_ten_eq_some_iff.mp h
      exact ⟨⟨mt List.isEmpty_iff.mpr hne, hdigits⟩, hvalue⟩
  · rintro ⟨⟨hne, hdigits⟩, hvalue⟩
    rw [if_neg (mt List.isEmpty_iff.mp hne)]
    exact numberFrom_ten_eq_some_iff.mpr ⟨hdigits, hvalue⟩

/-- No character but a decimal digit stands among digits. -/
theorem Digits.notMem {s : List Char} (h : Digits s) {c : Char} (hc : c.isDigit = false) :
    c ∉ s := by
  intro hmem
  rw [h.digit c hmem] at hc
  cases hc

/-- A decimal text has no character but digits and a plus. -/
theorem PlusDecimals.notMem {n : Nat} {s : List Char} (h : PlusDecimals n s) {c : Char}
    (hc : c.isDigit = false) (hplus : c ≠ '+') : c ∉ s := by
  obtain ⟨digits, rfl | rfl, hdigits⟩ := h
  · exact hdigits.notMem hc
  · exact List.not_mem_cons_of_ne_of_not_mem hplus (hdigits.notMem hc)

/-- Digits alone have no plus in front. -/
theorem PlusDecimals.decimals {n : Nat} {s : List Char} (h : PlusDecimals n s) (hs : Digits s) :
    Decimals n s := by
  obtain ⟨digits, rfl | rfl, hdigits⟩ := h
  · exact hdigits
  · exact absurd List.mem_cons_self (hs.notMem (by decide))

/-- **What is read as a number of 64 bits** is a decimal text of a number below the
bound. -/
theorem readNatural_eq_some_iff {n : Nat} {s : List Char} :
    readNatural s = some n ↔ PlusDecimals n s ∧ n < 2 ^ 64 := by
  have hbound (digits : List Char) :
      ((someNumberIn 10 digits).bind fun n => if n < Nat.pow 2 64 then some n else none) = some n ↔
        Decimals n digits ∧ n < 2 ^ 64 := by
    simp only [Option.bind_eq_some_iff, someNumberIn_ten_eq_some_iff,
      Option.ite_none_right_eq_some, Option.some.injEq]
    constructor
    · rintro ⟨_, hdigits, hlt, rfl⟩
      exact ⟨hdigits, hlt⟩
    · rintro ⟨hdigits, hlt⟩
      exact ⟨n, hdigits, hlt, rfl⟩
  unfold readNatural
  split
  · rename_i digits
    rw [hbound]
    constructor
    · rintro ⟨hdigits, hlt⟩
      exact ⟨⟨digits, Or.inr rfl, hdigits⟩, hlt⟩
    · rintro ⟨⟨_, rfl | hplus, hdigits⟩, hlt⟩
      · exact absurd List.mem_cons_self (hdigits.notMem (by decide))
      · rw [List.tail_eq_of_cons_eq hplus]
        exact ⟨hdigits, hlt⟩
  · rename_i hplus
    rw [hbound]
    constructor
    · rintro ⟨hdigits, hlt⟩
      exact ⟨⟨s, Or.inl rfl, hdigits⟩, hlt⟩
    · rintro ⟨⟨digits, rfl | rfl, hdigits⟩, hlt⟩
      · exact ⟨hdigits, hlt⟩
      · exact absurd rfl (hplus digits)

/-! ## Canonical digits -/

/-- Decimal digits have no case. -/
theorem toUpper_of_isDigit {c : Char} (h : c.isDigit = true) : c.toUpper = c := by
  have hcode : c.toNat = c.val.toNat := rfl
  rw [Char.isDigit_iff_toNat] at h
  refine dif_neg ?_
  grind [UInt32.le_iff_toNat_le]

/-- Digits that are the same up to the case of letters are the same. -/
theorem SameLetters.eq_of_digits {s t : List Char} (h : SameLetters s t)
    (hs : ∀ c ∈ s, c.isDigit = true) (ht : ∀ c ∈ t, c.isDigit = true) : s = t := by
  have hupper {s : List Char} (hs : ∀ c ∈ s, c.isDigit = true) : s.map Char.toUpper = s := by
    rw [List.map_congr_left fun c hc => toUpper_of_isDigit (hs c hc), List.map_id']
  rw [SameLetters, hupper hs, hupper ht] at h
  exact h

/-- **Canonical digits are the ones that print their value.** -/
theorem Canonical.eq_toDigits {n : Nat} {s : List Char} (h : Canonical s) (hn : Decimals n s) :
    s = Nat.toDigits 10 n := by
  have hread : numberIn 10 s = some n := numberFrom_ten_eq_some_iff.mpr ⟨hn.digit, hn.value⟩
  obtain ⟨zeros, hletters⟩ := numeral_of_numberIn (by decide) (by decide) hn.ne_nil hread
  have hprinted : ∀ c ∈ List.replicate zeros '0' ++ Nat.toDigits 10 n, c.isDigit = true := by
    intro c hc
    rcases List.mem_append.mp hc with hzero | hdigit
    · rw [List.eq_of_mem_replicate hzero]
      rfl
    · exact Nat.isDigit_of_mem_toDigits (by decide) (by decide) hdigit
  have hs := hletters.eq_of_digits hn.digit hprinted
  cases zeros with
  | zero => exact hs
  | succ zeros =>
      -- a zero in front is the whole text, so nothing is printed behind it
      have hzero := h.unpadded (by rw [hs]; rfl)
      rw [hs, List.replicate_succ, List.cons_append] at hzero
      have hnone := (List.append_eq_nil_iff.mp (List.cons.inj hzero).2).2
      exact absurd hnone Nat.toDigits_ne_nil

end CallTree.Text
