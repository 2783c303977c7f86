import CallTree.Double.Basic
import CallTree.Proofs.Text.Numerals
import Mathlib.Algebra.Order.Field.Power
import Mathlib.Data.Rat.Cast.Order
import Mathlib.Tactic.FieldSimp
import Mathlib.Tactic.Linarith
import Mathlib.Tactic.NormNum.Pow
import Mathlib.Tactic.Positivity
import Mathlib.Tactic.Ring

/-!
# Which quotients are in the range of doubles

The largest finite double is `(2⁵³ - 1) · 2⁹⁷¹`.  Rounding to the nearest double
gives an infinity from half a unit above it on, and a finite double for all that
is smaller.

* `floorLog_spec` — the binary logarithm of a quotient;
* `magnitudeOfRatio_lt` — below the bound a quotient rounds to a finite
  magnitude;
* `isFinite_ofDecimal` — and so does a decimal.
-/

namespace CallTree.Double

/-- Where rounding to the nearest double begins to give an infinity. -/
def overflowBound : ℚ := (2 ^ 54 - 1) * 2 ^ (970 : ℤ)

theorem overflowBound_lt_two_zpow : overflowBound < 2 ^ (1024 : ℤ) := by
  calc overflowBound < 2 ^ (54 : ℤ) * 2 ^ (970 : ℤ) := by
        unfold overflowBound
        gcongr
        norm_num
    _ = 2 ^ (1024 : ℤ) := by rw [← zpow_add₀ two_ne_zero]; rfl

theorem overflowBound_lt_ten_zpow : overflowBound < 10 ^ (309 : ℤ) := by
  refine lt_of_lt_of_le overflowBound_lt_two_zpow ?_
  have hpow : 2 ^ 1024 ≤ 10 ^ 309 := by decide +kernel
  exact_mod_cast hpow

/-- A decimal below the bound has few digits before its point. -/
theorem length_toDigits_add_le {c : Nat} {e : Int} (hc : 0 < c)
    (hsmall : (c : ℚ) * 10 ^ e < overflowBound) : ((Nat.toDigits 10 c).length : Int) + e ≤ 309 := by
  have hlength : 0 < (Nat.toDigits 10 c).length := Nat.length_toDigits_pos
  have hpow : 10 ^ ((Nat.toDigits 10 c).length - 1) ≤ c := Text.ten_pow_le_of_pos hc
  have hcast : (10 : ℚ) ^ ((Nat.toDigits 10 c).length - 1) ≤ c := by exact_mod_cast hpow
  by_contra hlarge
  have hbound : (10 : ℚ) ^ (309 : ℤ) ≤ c * 10 ^ e := by
    calc (10 : ℚ) ^ (309 : ℤ) ≤ 10 ^ ((((Nat.toDigits 10 c).length - 1 : ℕ) : ℤ) + e) :=
          zpow_le_zpow_right₀ (by norm_num) (by omega)
      _ = 10 ^ ((Nat.toDigits 10 c).length - 1) * 10 ^ e := by
          rw [zpow_add₀ (by norm_num), zpow_natCast]
      _ ≤ c * 10 ^ e := by gcongr
  exact absurd (hbound.trans_lt hsmall) overflowBound_lt_ten_zpow.not_gt

theorem infinityBits_eq : infinityBits = 2047 * 2 ^ 52 := rfl

/-- Every magnitude below that of infinity is that of a finite double. -/
theorem isFinite_ofMagnitude {magnitude : Nat} (h : magnitude < infinityBits) (negative : Bool) :
    (ofMagnitude negative magnitude).isFinite = true := by
  have hbound : magnitude < 2047 * 2 ^ 52 := h
  have hword : ((if negative then 2 ^ 63 else 0) + magnitude) % 2 ^ 64 % 2 ^ 63 = magnitude := by
    cases negative <;> simp only [Bool.false_eq_true, if_true, if_false] <;> omega
  have hexponent : (ofMagnitude negative magnitude).exponentBits = magnitude / 2 ^ 52 := by
    rw [exponentBits, magnitudeBits, ofMagnitude, UInt64.toNat_ofNat']
    exact congrArg (· / 2 ^ 52) hword
  rw [isFinite, hexponent, decide_eq_true_eq]
  exact (Nat.div_lt_iff_lt_mul (by norm_num)).mpr hbound

/-- A quotient less than half a unit above a number does not round to more. -/
theorem roundQuotient_le {num den k : Nat} (h : 2 * num < (2 * k + 1) * den) :
    roundQuotient num den ≤ k := by
  have hparts : den * (num / den) + num % den = num := Nat.div_add_mod num den
  have hbelow : num / den ≤ k := by
    refine Nat.le_of_lt_succ ((Nat.div_lt_iff_lt_mul (by nlinarith)).mpr ?_)
    nlinarith
  have habove : den ≤ 2 * (num % den) → num / den < k := by
    intro hhalf
    refine lt_of_le_of_ne hbelow ?_
    intro heq
    rw [heq] at hparts
    nlinarith
  unfold roundQuotient
  grind

/-- Comparing a quotient with a power of two, without leaving the natural
numbers. -/
theorem two_zpow_le_div_iff {num den : Nat} (hden : 0 < den) (e : ℤ) :
    (2 : ℚ) ^ e ≤ (num : ℚ) / den ↔
      (if 0 ≤ e then den * Nat.pow 2 e.toNat ≤ num else den ≤ num * Nat.pow 2 (-e).toNat) := by
  rw [le_div_iff₀ (Nat.cast_pos.mpr hden)]
  split
  · rename_i hsign
    obtain ⟨n, rfl⟩ := Int.eq_ofNat_of_zero_le hsign
    rw [Int.toNat_natCast, mul_comm, zpow_natCast]
    exact_mod_cast Iff.rfl
  · rename_i hsign
    obtain ⟨n, hn⟩ := Int.eq_ofNat_of_zero_le (a := -e) (by omega)
    obtain rfl : e = -(n : ℤ) := by omega
    rw [neg_neg, Int.toNat_natCast, zpow_neg, zpow_natCast, inv_mul_le_iff₀ (by positivity),
      mul_comm]
    exact_mod_cast Iff.rfl

/-- **The binary logarithm of a quotient.** -/
theorem floorLog_spec {num den : Nat} (hnum : 0 < num) (hden : 0 < den) :
    (2 : ℚ) ^ floorLog num den ≤ (num : ℚ) / den ∧
      (num : ℚ) / den < 2 ^ (floorLog num den + 1) := by
  have hd : (0 : ℚ) < den := Nat.cast_pos.mpr hden
  have htwo : (2 : ℚ) ≠ 0 := two_ne_zero
  set guess : ℤ := num.log2 - den.log2 with hguess
  have hnumLow : (2 : ℚ) ^ (num.log2 : ℤ) ≤ num := by
    exact_mod_cast Nat.log2_self_le hnum.ne'
  have hnumHigh : (num : ℚ) < 2 ^ ((num.log2 : ℤ) + 1) := by
    exact_mod_cast Nat.lt_log2_self
  have hdenLow : (2 : ℚ) ^ (den.log2 : ℤ) ≤ den := by
    exact_mod_cast Nat.log2_self_le hden.ne'
  have hdenHigh : (den : ℚ) < 2 ^ ((den.log2 : ℤ) + 1) := by
    exact_mod_cast Nat.lt_log2_self
  -- The quotient of the two leading powers is right, or one too large.
  have hlow : (2 : ℚ) ^ (guess - 1) ≤ (num : ℚ) / den := by
    rw [le_div_iff₀ hd]
    calc (2 : ℚ) ^ (guess - 1) * den ≤ 2 ^ (guess - 1) * 2 ^ ((den.log2 : ℤ) + 1) := by gcongr
      _ = 2 ^ (num.log2 : ℤ) := by rw [← zpow_add₀ htwo]; congr 1; omega
      _ ≤ num := hnumLow
  have hhigh : (num : ℚ) / den < 2 ^ (guess + 1) := by
    rw [div_lt_iff₀ hd]
    calc (num : ℚ) < 2 ^ ((num.log2 : ℤ) + 1) := hnumHigh
      _ = 2 ^ (guess + 1) * 2 ^ (den.log2 : ℤ) := by rw [← zpow_add₀ htwo]; congr 1; omega
      _ ≤ 2 ^ (guess + 1) * den := by gcongr
  have hfloor : floorLog num den =
      if (2 : ℚ) ^ guess ≤ (num : ℚ) / den then guess else guess - 1 :=
    if_congr (two_zpow_le_div_iff hden guess).symm rfl rfl
  rw [hfloor]
  split
  · rename_i h
    exact ⟨h, hhigh⟩
  · rename_i h
    rw [sub_add_cancel]
    exact ⟨hlow, lt_of_not_ge h⟩

/-- The same where the unit is that of a scale. -/
theorem roundOnScale_le {num den scale k : Nat} (hden : 0 < den)
    (h : 2 * ((num : ℚ) / den * 2 ^ (1074 - (scale : ℤ))) < 2 * k + 1) :
    (if 1074 ≤ scale then roundQuotient num (den * Nat.pow 2 (scale - 1074))
      else roundQuotient (num * Nat.pow 2 (1074 - scale)) den) ≤ k := by
  have hd : (0 : ℚ) < den := Nat.cast_pos.mpr hden
  split
  · refine roundQuotient_le ?_
    have hexp : 1074 - (scale : ℤ) = -((scale - 1074 : ℕ) : ℤ) := by omega
    rw [hexp, zpow_neg, zpow_natCast, ← div_eq_mul_inv, div_div, mul_div_assoc',
      div_lt_iff₀ (by positivity)] at h
    exact_mod_cast h
  · refine roundQuotient_le ?_
    have hexp : 1074 - (scale : ℤ) = ((1074 - scale : ℕ) : ℤ) := by omega
    rw [hexp, zpow_natCast, div_mul_eq_mul_div, mul_div_assoc', div_lt_iff₀ hd] at h
    exact_mod_cast h

/-- **Below the bound a quotient rounds to a finite magnitude.** -/
theorem magnitudeOfRatio_lt {num den : Nat} (hden : 0 < den)
    (h : (num : ℚ) / den < overflowBound) : magnitudeOfRatio num den < infinityBits := by
  unfold magnitudeOfRatio
  split
  · decide
  rename_i hnum
  obtain ⟨hlow, hhigh⟩ := floorLog_spec (Nat.pos_of_ne_zero hnum) hden
  set e := floorLog num den
  set scale := (e + 1022).toNat with hscale
  set quotient : ℚ := (num : ℚ) / den with hquotient
  have hsmall : e ≤ 1023 := by
    by_contra hlarge
    have hpow : (2 : ℚ) ^ (1024 : ℤ) ≤ 2 ^ e := zpow_le_zpow_right₀ (by norm_num) (by omega)
    linarith [overflowBound_lt_two_zpow]
  have hgoal (k : Nat) (hk : 2 * (quotient * 2 ^ (1074 - (scale : ℤ))) < 2 * k + 1)
      (hsum : scale * 2 ^ 52 + k < 2047 * 2 ^ 52) :
      min infinityBits (scale * Nat.pow 2 52 +
        if 1074 ≤ scale then roundQuotient num (den * Nat.pow 2 (scale - 1074))
        else roundQuotient (num * Nat.pow 2 (1074 - scale)) den) < infinityBits := by
    rw [infinityBits_eq]
    exact lt_of_le_of_lt (Nat.min_le_right _ _)
      (lt_of_le_of_lt (Nat.add_le_add_left (roundOnScale_le hden hk) _) hsum)
  by_cases htop : e = 1023
  · -- The last binade: the bound is half a unit above its last double.
    have hscale' : scale = 2045 := by omega
    refine hgoal (2 ^ 53 - 1) ?_ (by omega)
    have hunit : overflowBound * 2 ^ (1074 - (scale : ℤ)) = 2 ^ 53 - 1 / 2 := by
      rw [overflowBound, mul_assoc, ← zpow_add₀ two_ne_zero, hscale']
      norm_num
    have hlt : quotient * 2 ^ (1074 - (scale : ℤ)) < 2 ^ 53 - 1 / 2 := by
      rw [← hunit]
      gcongr
    norm_num at hlt ⊢
    linarith
  · refine hgoal (2 ^ 53) ?_ (by omega)
    have hlt : quotient * 2 ^ (1074 - (scale : ℤ)) < 2 ^ (53 : ℤ) := by
      calc quotient * 2 ^ (1074 - (scale : ℤ))
          < 2 ^ (e + 1) * 2 ^ (1074 - (scale : ℤ)) := by gcongr
        _ = 2 ^ (e + 1 + (1074 - (scale : ℤ))) := (zpow_add₀ two_ne_zero _ _).symm
        _ ≤ 2 ^ (53 : ℤ) := zpow_le_zpow_right₀ (by norm_num) (by omega)
    norm_num at hlt ⊢
    linarith

/-- **A decimal below the bound is read as a finite double.** -/
theorem isFinite_ofDecimal {digits : Nat} {exponent : Int}
    (h : (digits : ℚ) * 10 ^ exponent < overflowBound) (negative : Bool) :
    (ofDecimal negative digits exponent).isFinite = true := by
  unfold ofDecimal
  dsimp only
  split
  · exact isFinite_ofMagnitude (by decide) negative
  rename_i hordinary
  have hpos : digits ≠ 0 := by grind
  split
  · -- So many digits are more than the bound.
    rename_i hlong
    have hlength := length_toDigits_add_le (Nat.pos_of_ne_zero hpos) h
    omega
  · split
    · rename_i hsign
      refine isFinite_ofMagnitude (magnitudeOfRatio_lt one_pos ?_) negative
      obtain ⟨n, rfl⟩ := Int.eq_ofNat_of_zero_le hsign
      simpa using h
    · rename_i hsign
      refine isFinite_ofMagnitude (magnitudeOfRatio_lt (Nat.pow_pos (by norm_num)) ?_) negative
      obtain ⟨n, hn⟩ := Int.eq_ofNat_of_zero_le (a := -exponent) (by omega)
      have hneg : exponent = -(n : ℤ) := by omega
      rw [hneg, zpow_neg, zpow_natCast, ← div_eq_mul_inv] at h
      rw [hn]
      simpa using h

end CallTree.Double
