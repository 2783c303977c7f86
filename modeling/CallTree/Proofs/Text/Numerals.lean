import CallTree.Text.Digits
import Mathlib.Algebra.Group.Nat.Defs
import Mathlib.Data.List.Induction

/-!
# Printed numbers read back

`Nat.toDigits` prints a number in a base up to sixteen, and `numberIn` reads
digits from the left.  The reader takes what the printer wrote back to the
number, zeros in front and the case of letters do not count, and no printed
digit is a sign or a dash.

* `numberIn_toDigits` — a printed number reads back;
* `Numeral.numberIn_eq` — so does every other way to write it with digits, and
  `numeral_of_numberIn` — nothing else is read as it;
* `readNatural_toDigits` — a printed number of 64 bits reads back;
* `exists_getLast?_of_readNatural` — what reads as a number ends with a digit.
-/

namespace CallTree.Text

/-- The digit of every number below sixteen has that number as its value. -/
theorem digit?_digitChar {d : Nat} (hd : d < 16) : digit? (Nat.digitChar d) = some d := by
  have hall : ∀ d ∈ List.range 16, digit? (Nat.digitChar d) = some d := by decide
  exact hall d (List.mem_range.mpr hd)

theorem digitIn?_digitChar {base d : Nat} (hbase : base ≤ 16) (hd : d < base) :
    digitIn? base (Nat.digitChar d) = some d := by
  have hvalue : digit? (Nat.digitChar d) = some d := digit?_digitChar (by omega)
  simp [digitIn?, hvalue, hd]

/-- Digits are read one after the other. -/
theorem numberFrom_append (base value : Nat) (s t : List Char) :
    numberFrom base value (s ++ t) =
      (numberFrom base value s).bind fun n => numberFrom base n t := by
  induction s generalizing value with
  | nil => rfl
  | cons c s ih =>
      simp only [List.cons_append, numberFrom]
      cases digitIn? base c with
      | none => rfl
      | some d => exact ih (value * base + d)

/-- **A printed number reads back**, in every base up to sixteen. -/
theorem numberIn_toDigits {base : Nat} (hlow : 1 < base) (hhigh : base ≤ 16) (n : Nat) :
    numberIn base (Nat.toDigits base n) = some n := by
  induction n using Nat.strongRecOn with
  | ind n ih =>
      by_cases hn : n < base
      · rw [Nat.toDigits_of_lt_base hn]
        simp [numberIn, numberFrom, digitIn?_digitChar hhigh hn]
      · have hquot : n / base < n := Nat.div_lt_self (by omega) hlow
        have hrem : n % base < base := Nat.mod_lt n (by omega)
        have hsum : n / base * base + n % base = n := by
          rw [Nat.mul_comm]
          exact Nat.div_add_mod n base
        rw [Nat.toDigits_of_base_le hlow (by omega), numberIn, numberFrom_append]
        have hfront := ih (n / base) hquot
        rw [numberIn] at hfront
        simp [hfront, numberFrom, digitIn?_digitChar hhigh hrem, hsum]

/-- Zeros in front of a number add nothing. -/
theorem numberFrom_replicate_zero {base : Nat} (hbase : 0 < base) (zeros : Nat)
    (s : List Char) :
    numberFrom base 0 (List.replicate zeros '0' ++ s) = numberFrom base 0 s := by
  have hzero : digitIn? base '0' = some 0 := by
    have hvalue : digit? '0' = some 0 := rfl
    simp [digitIn?, hvalue, hbase]
  induction zeros with
  | zero => rfl
  | succ zeros ih => simpa [List.replicate_succ, numberFrom, hzero] using ih

/-- Everything that reads as a number is made of digits. -/
theorem exists_digitIn?_of_numberFrom {base value n : Nat} {s : List Char}
    (h : numberFrom base value s = some n) : ∀ c ∈ s, ∃ d, digitIn? base c = some d := by
  induction s generalizing value with
  | nil => simp
  | cons c s ih =>
      simp only [numberFrom] at h
      cases hc : digitIn? base c with
      | none => simp [hc] at h
      | some d =>
          rw [hc] at h
          intro c' hc'
          rcases List.mem_cons.mp hc' with rfl | hmem
          · exact ⟨d, hc⟩
          · exact ih h c' hmem

/-- Every digit is a letter or a decimal digit of ASCII. -/
theorem code_of_digitIn? {base d : Nat} {c : Char} (h : digitIn? base c = some d) :
    48 ≤ c.toNat ∧ c.toNat ≤ 122 := by
  obtain ⟨value, hvalue, _⟩ := Option.bind_eq_some_iff.mp h
  have hrange : ('0' ≤ c ∧ c ≤ '9') ∨ ('a' ≤ c ∧ c ≤ 'z') ∨ ('A' ≤ c ∧ c ≤ 'Z') := by
    grind [digit?]
  have hcode : c.toNat = c.val.toNat := rfl
  simp [Char.le_def, UInt32.le_iff_toNat_le] at hrange
  omega

/-- A text of digits has no character without a value. -/
theorem notMem_of_digits {base : Nat} {s : List Char}
    (h : ∀ c ∈ s, ∃ d, digitIn? base c = some d) {c : Char} (hc : digitIn? base c = none) :
    c ∉ s := by
  intro hmem
  obtain ⟨d, hd⟩ := h c hmem
  rw [hc] at hd
  cases hd

/-- A character without a value is never printed. -/
theorem notMem_toDigits {base n : Nat} (hlow : 1 < base) (hhigh : base ≤ 16) {c : Char}
    (hc : digitIn? base c = none) : c ∉ Nat.toDigits base n :=
  notMem_of_digits (exists_digitIn?_of_numberFrom (numberIn_toDigits hlow hhigh n)) hc

/-- Different numbers are printed differently. -/
theorem toDigits_injective {base n m : Nat} (hlow : 1 < base) (hhigh : base ≤ 16)
    (h : Nat.toDigits base n = Nat.toDigits base m) : n = m := by
  have hn := numberIn_toDigits hlow hhigh n
  have hm := numberIn_toDigits hlow hhigh m
  rw [h, hm] at hn
  exact (Option.some.inj hn).symm

/-- **A printed number of 64 bits reads back.** -/
theorem readNatural_toDigits {n : Nat} (hn : n < 2 ^ 64) :
    readNatural (Nat.toDigits 10 n) = some n := by
  have hread : numberIn 10 (Nat.toDigits 10 n) = some n :=
    numberIn_toDigits (by decide) (by decide) n
  have hplus : '+' ∉ Nat.toDigits 10 n := notMem_toDigits (by decide) (by decide) (by decide)
  cases hdigits : Nat.toDigits 10 n with
  | nil => exact absurd hdigits Nat.toDigits_ne_nil
  | cons c rest =>
      rw [hdigits] at hread hplus
      have hc : c ≠ '+' := by
        rintro rfl
        exact hplus List.mem_cons_self
      have hsome : someNumberIn 10 (c :: rest) = some n := hread
      have hdigits : readNatural (c :: rest) =
          (someNumberIn 10 (c :: rest)).bind fun n => if n < 2 ^ 64 then some n else none := by
        simp [readNatural, hc]
      rw [hdigits, hsome, Option.bind_some, if_pos hn]

/-- A text that ends with a printed number ends with a digit. -/
theorem getLast?_append_toDigits_ne {base : Nat} (hlow : 1 < base) (hhigh : base ≤ 16) {c : Char}
    (hc : digitIn? base c = none) (s : List Char) (n : Nat) :
    (s ++ Nat.toDigits base n).getLast? ≠ some c := by
  intro h
  rw [List.getLast?_append] at h
  cases hlast : (Nat.toDigits base n).getLast? with
  | none => exact Nat.toDigits_ne_nil (List.getLast?_eq_none_iff.mp hlast)
  | some c' =>
      rw [hlast, Option.some_or] at h
      obtain rfl : c' = c := Option.some.inj h
      exact notMem_toDigits hlow hhigh hc (List.mem_of_getLast? hlast)

/-- No positive number is printed with a zero in front. -/
theorem head?_toDigits_ne_zero {n : Nat} (hn : 0 < n) :
    (Nat.toDigits 10 n).head? ≠ some '0' := by
  induction n using Nat.strongRecOn with
  | ind n ih =>
      by_cases hsmall : n < 10
      · have hall : ∀ n ∈ List.range 10, 0 < n → (Nat.toDigits 10 n).head? ≠ some '0' := by decide
        exact hall n (List.mem_range.mpr hsmall) hn
      · have hfront := ih (n / 10) (by omega) (by omega)
        rw [Nat.toDigits_of_base_le (by decide) (by omega), List.head?_append]
        cases hdigits : Nat.toDigits 10 (n / 10) with
        | nil => exact absurd hdigits Nat.toDigits_ne_nil
        | cons c rest => simpa [hdigits] using hfront

/-- A positive number is at least the power of ten that its length says. -/
theorem ten_pow_le_of_pos {n : Nat} (hn : 0 < n) :
    10 ^ ((Nat.toDigits 10 n).length - 1) ≤ n := by
  refine Nat.not_lt.mp fun hless => ?_
  by_cases hone : (Nat.toDigits 10 n).length - 1 = 0
  · rw [hone, Nat.pow_zero] at hless
    omega
  · have hshort := (Nat.length_toDigits_le_iff (by decide) (by omega)).mpr hless
    omega

/-- What reads as at least one digit ends with a digit. -/
theorem exists_getLast?_of_someNumberIn {base n : Nat} {s : List Char}
    (h : someNumberIn base s = some n) :
    ∃ c d, s.getLast? = some c ∧ digitIn? base c = some d := by
  cases hlast : s.getLast? with
  | none =>
      rw [List.getLast?_eq_none_iff.mp hlast] at h
      simp [someNumberIn] at h
  | some c =>
      have hread : numberFrom base 0 s = some n := by
        unfold someNumberIn numberIn at h
        split at h
        · cases h
        · exact h
      obtain ⟨d, hd⟩ := exists_digitIn?_of_numberFrom hread c (List.mem_of_getLast? hlast)
      exact ⟨c, d, rfl, hd⟩

/-- What reads as a number of 64 bits ends with a decimal digit. -/
theorem exists_getLast?_of_readNatural {s : List Char} {n : Nat} (h : readNatural s = some n) :
    ∃ c d, s.getLast? = some c ∧ digitIn? 10 c = some d := by
  obtain ⟨m, hm, _⟩ := Option.bind_eq_some_iff.mp h
  split at hm
  · obtain ⟨c, d, hlast, hd⟩ := exists_getLast?_of_someNumberIn hm
    exact ⟨c, d, by rw [List.getLast?_cons, hlast]; rfl, hd⟩
  · exact exists_getLast?_of_someNumberIn hm

/-! ## Letters of either case -/

/-- Texts that differ at most in the case of their letters. -/
def SameLetters (s t : List Char) : Prop :=
  s.map Char.toUpper = t.map Char.toUpper

instance (s t : List Char) : Decidable (SameLetters s t) :=
  inferInstanceAs (Decidable (_ = _))

/-- The digits of a number in a base, letters of either case, after any number
of zeros. -/
def Numeral (base n : Nat) (s : List Char) : Prop :=
  ∃ zeros, SameLetters s (List.replicate zeros '0' ++ Nat.toDigits base n)

/-- A letter has the same value in either case. -/
theorem digit?_toUpper (c : Char) : digit? c.toUpper = digit? c := by
  by_cases hlower : 'a' ≤ c ∧ c ≤ 'z'
  · have hrange : 97 ≤ c.toNat ∧ c.toNat ≤ 122 := by
      simpa [Char.le_def, UInt32.le_iff_toNat_le] using hlower
    have hall : ∀ n ∈ List.range 26,
        digit? (Char.ofNat (97 + n)).toUpper = digit? (Char.ofNat (97 + n)) := by
      decide
    have hc := hall (c.toNat - 97) (List.mem_range.mpr (by omega))
    rwa [Nat.add_sub_cancel' hrange.1, Char.ofNat_toNat] at hc
  · have hup : c.toUpper = c := dif_neg (by simpa [Char.le_def] using hlower)
    rw [hup]

/-- Texts of the same letters have the same digits. -/
theorem SameLetters.map_digitIn? {s t : List Char} (h : SameLetters s t) (base : Nat) :
    s.map (digitIn? base) = t.map (digitIn? base) := by
  have hupper (s : List Char) :
      (s.map Char.toUpper).map (digitIn? base) = s.map (digitIn? base) := by
    rw [List.map_map]
    refine List.map_congr_left ?_
    intro c _
    simp [digitIn?, digit?_toUpper]
  rw [← hupper s, ← hupper t, h]

/-- Only the values of digits count for the number. -/
theorem numberFrom_congr {base : Nat} {s t : List Char}
    (h : s.map (digitIn? base) = t.map (digitIn? base)) (value : Nat) :
    numberFrom base value s = numberFrom base value t := by
  induction s generalizing t value with
  | nil =>
      cases t with
      | nil => rfl
      | cons c t => simp at h
  | cons c s ih =>
      cases t with
      | nil => simp at h
      | cons c' t =>
          simp only [List.map_cons, List.cons.injEq] at h
          obtain ⟨hc, hrest⟩ := h
          rw [numberFrom, numberFrom, hc]
          cases digitIn? base c' with
          | none => rfl
          | some d => exact ih hrest _

/-- **Every way to write a number with digits reads back.** -/
theorem Numeral.numberIn_eq {base n : Nat} {s : List Char} (h : Numeral base n s)
    (hlow : 1 < base) (hhigh : base ≤ 16) : numberIn base s = some n := by
  obtain ⟨zeros, hletters⟩ := h
  have hprinted := numberIn_toDigits hlow hhigh n
  rw [numberIn, numberFrom_congr (hletters.map_digitIn? base),
    numberFrom_replicate_zero (by omega)]
  exact hprinted

theorem Numeral.ne_nil {base n : Nat} {s : List Char} (h : Numeral base n s) : s ≠ [] := by
  rintro rfl
  obtain ⟨zeros, hletters⟩ := h
  have hnil : List.replicate zeros '0' ++ Nat.toDigits base n = [] := by
    simpa [SameLetters] using hletters.symm
  exact Nat.toDigits_ne_nil (List.append_eq_nil_iff.mp hnil).2

theorem Numeral.exists_digitIn? {base n : Nat} {s : List Char} (h : Numeral base n s)
    (hlow : 1 < base) (hhigh : base ≤ 16) : ∀ c ∈ s, ∃ d, digitIn? base c = some d :=
  exists_digitIn?_of_numberFrom (h.numberIn_eq hlow hhigh)

/-! ## What is read is written -/

/-- Digits of one value are one letter, in either case. -/
theorem toUpper_eq_of_digitIn? {c : Char} {d : Nat} (h : digitIn? 16 c = some d) :
    c.toUpper = (Nat.digitChar d).toUpper := by
  have hall : ∀ n ∈ List.range 123, (digitIn? 16 (Char.ofNat n)).all fun d =>
      (Char.ofNat n).toUpper = (Nat.digitChar d).toUpper := by
    decide +kernel
  have hcode := code_of_digitIn? h
  have hc := hall c.toNat (List.mem_range.mpr (by omega))
  rw [Char.ofNat_toNat, h] at hc
  exact of_decide_eq_true hc

theorem digitIn?_eq_some_iff {base d : Nat} {c : Char} :
    digitIn? base c = some d ↔ digit? c = some d ∧ d < base := by
  simp only [digitIn?, Option.bind_eq_some_iff, Option.ite_none_right_eq_some, Option.some.injEq]
  constructor
  · rintro ⟨_, hvalue, hlt, rfl⟩
    exact ⟨hvalue, hlt⟩
  · rintro ⟨hvalue, hlt⟩
    exact ⟨d, hvalue, hlt, rfl⟩

theorem SameLetters.append {s s' t t' : List Char} (h : SameLetters s t) (h' : SameLetters s' t') :
    SameLetters (s ++ s') (t ++ t') := by
  rw [SameLetters, List.map_append, List.map_append, h, h']

section Written

variable {base n d : Nat} {c : Char} {s : List Char}

/-- A digit is the last digit of its own value. -/
theorem sameLetters_toDigits (hhigh : base ≤ 16) (h : digitIn? base c = some d) :
    SameLetters [c] (Nat.toDigits base d) := by
  obtain ⟨hvalue, hlt⟩ := digitIn?_eq_some_iff.mp h
  have hupper : c.toUpper = (Nat.digitChar d).toUpper :=
    toUpper_eq_of_digitIn? (digitIn?_eq_some_iff.mpr ⟨hvalue, by omega⟩)
  rw [Nat.toDigits_of_lt_base hlt, SameLetters, List.map_singleton, List.map_singleton, hupper]

/-- One more digit makes one more place. -/
theorem Numeral.append_digit (h : Numeral base n s) (hlow : 1 < base) (hhigh : base ≤ 16)
    (hd : digitIn? base c = some d) : Numeral base (n * base + d) (s ++ [c]) := by
  obtain ⟨zeros, hletters⟩ := h
  have hlast := hletters.append (sameLetters_toDigits hhigh hd)
  obtain ⟨_, hlt⟩ := digitIn?_eq_some_iff.mp hd
  by_cases hn : n = 0
  · refine ⟨zeros + 1, ?_⟩
    rw [hn, Nat.toDigits_zero, ← List.replicate_succ'] at hlast
    rw [hn, Nat.zero_mul, Nat.zero_add]
    exact hlast
  · refine ⟨zeros, ?_⟩
    rw [Nat.mul_comm, ← Nat.toDigits_append_toDigits hlow (Nat.pos_of_ne_zero hn) hlt,
      ← List.append_assoc]
    exact hlast

/-- **What is read as a number is one of the ways to write it.** -/
theorem numeral_of_numberIn (hlow : 1 < base) (hhigh : base ≤ 16) (hne : s ≠ [])
    (h : numberIn base s = some n) : Numeral base n s := by
  induction s using List.reverseRecOn generalizing n with
  | nil => exact absurd rfl hne
  | append_singleton s c ih =>
      rw [numberIn, numberFrom_append] at h
      obtain ⟨m, hm, hc⟩ := Option.bind_eq_some_iff.mp h
      cases hd : digitIn? base c with
      | none => simp [numberFrom, hd] at hc
      | some d =>
          obtain rfl : m * base + d = n := by simpa [numberFrom, hd] using hc
          by_cases hs : s = []
          · subst hs
            obtain rfl : 0 = m := by simpa [numberFrom] using hm
            rw [Nat.zero_mul, Nat.zero_add]
            exact ⟨0, sameLetters_toDigits hhigh hd⟩
          · exact (ih hs hm).append_digit hlow hhigh hd

end Written

end CallTree.Text
