import CallTree.Double.Shortest
import CallTree.Proofs.Double.Range
import CallTree.Proofs.Text.Numerals
import Mathlib.Data.List.TakeWhile

/-!
# The shortest decimal of a finite double

The decimal that is written for a finite double lies in the interval of the
decimals that round to it.  The end of that interval is where overflow begins,
at the most, so no finite double is written as a number that is too large to be
read.

* `Decimal.Readable` — a decimal with plain digits, in the range of doubles;
* `shortest_readable` — the decimal written for a finite double is one.
-/

namespace CallTree.Double

/-- The number that the digits of a decimal write without a point. -/
def Decimal.whole (d : Decimal) : Nat :=
  Nat.ofDigitChars 10 d.digits 0

/-- A decimal with at least one digit and no needless zero in front, below the
bound of doubles, whose point is in sight. -/
structure Decimal.Readable (d : Decimal) : Prop where
  nonempty : d.digits ≠ []
  digits : ∀ c ∈ d.digits, c.isDigit = true
  first : d.digits.head? = some '0' → d = Decimal.zero
  small : (d.whole : ℚ) * 10 ^ (d.point - d.digits.length) < overflowBound
  low : -1000 ≤ d.point
  high : d.point ≤ 1000

theorem Decimal.readable_zero : Decimal.zero.Readable where
  nonempty := by decide
  digits := List.forall_mem_cons.mpr ⟨rfl, nofun⟩
  first := fun _ => rfl
  small := by
    have hzero : Decimal.zero.whole = 0 := rfl
    rw [hzero, Nat.cast_zero, zero_mul]
    norm_num [overflowBound]
  low := by decide
  high := by decide

/-- Dropping the zeros at the end of digits. -/
theorem dropZeros_append (digits : List Char) :
    ∃ zeros, digits =
      (digits.reverse.dropWhile (· == '0')).reverse ++ List.replicate zeros '0' := by
  refine ⟨(digits.reverse.takeWhile (· == '0')).length, ?_⟩
  have hzeros : digits.reverse.takeWhile (· == '0') =
      List.replicate (digits.reverse.takeWhile (· == '0')).length '0' := by
    refine List.eq_replicate_of_mem fun c hc => ?_
    simpa using List.mem_takeWhile_imp hc
  calc digits = digits.reverse.reverse := (List.reverse_reverse digits).symm
    _ = (digits.reverse.takeWhile (· == '0') ++ digits.reverse.dropWhile (· == '0')).reverse := by
        rw [List.takeWhile_append_dropWhile]
    _ = _ := by rw [List.reverse_append, hzeros]; simp

/-- What is left of the digits of a positive number without the zeros at their
end: some digits, with no zero in front, whose value lacks as many powers of ten. -/
theorem exists_zeros_of_pos {c : Nat} (hc : 0 < c) {kept : List Char}
    (hkept : kept = ((Nat.toDigits 10 c).reverse.dropWhile (· == '0')).reverse) :
    ∃ zeros, Nat.toDigits 10 c = kept ++ List.replicate zeros '0' ∧ kept ≠ [] ∧
      kept.head? ≠ some '0' ∧ (c : ℚ) = Nat.ofDigitChars 10 kept 0 * 10 ^ zeros := by
  obtain ⟨zeros, hzeros⟩ := dropZeros_append (Nat.toDigits 10 c)
  rw [← hkept] at hzeros
  have hfirst : (Nat.toDigits 10 c).head? ≠ some '0' := Text.head?_toDigits_ne_zero hc
  refine ⟨zeros, hzeros, ?_, ?_, ?_⟩
  · intro hnil
    rw [hnil, List.nil_append] at hzeros
    cases zeros with
    | zero => exact Nat.toDigits_ne_nil hzeros
    | succ n => exact hfirst (by rw [hzeros]; rfl)
  · intro hhead
    refine hfirst ?_
    rw [hzeros, List.head?_append, hhead]
    rfl
  · have hnat : c = Nat.ofDigitChars 10 kept 0 * 10 ^ zeros := by
      conv_lhs => rw [← Nat.ofDigitChars_ten_toDigits (n := c), hzeros]
      rw [Nat.ofDigitChars_append, Nat.ofDigitChars_replicate_zero, Nat.mul_comm]
    exact_mod_cast hnat

/-- **A positive decimal below the bound is readable**, if its point is in
sight. -/
theorem Decimal.readable_ofNat {c : Nat} {e : Int} (hc : 0 < c)
    (hsmall : (c : ℚ) * 10 ^ e < overflowBound) (he : -900 ≤ e) :
    (Decimal.ofNat c e).Readable := by
  obtain ⟨zeros, hzeros, hnil, hfirst, hwhole⟩ := exists_zeros_of_pos hc rfl
  set kept := ((Nat.toDigits 10 c).reverse.dropWhile (· == '0')).reverse with hkept
  have hvalue : (Nat.ofDigitChars 10 kept 0 : ℚ) *
      10 ^ (((Nat.toDigits 10 c).length : ℤ) + e - kept.length) = c * 10 ^ e := by
    have hexp : ((Nat.toDigits 10 c).length : ℤ) + e - kept.length = zeros + e := by
      rw [hzeros, List.length_append, List.length_replicate]
      omega
    rw [hexp, zpow_add₀ (by norm_num), zpow_natCast, hwhole, mul_assoc]
  have hlength := length_toDigits_add_le hc hsmall
  refine ⟨hnil, ?_, fun h => absurd h hfirst, ?_, ?_, ?_⟩
  · intro d hd
    refine Nat.isDigit_of_mem_toDigits (b := 10) (n := c) (by norm_num) (le_refl 10) ?_
    rw [hzeros]
    exact List.mem_append_left _ hd
  · change (Nat.ofDigitChars 10 kept 0 : ℚ) *
      10 ^ (((Nat.toDigits 10 c).length : ℤ) + e - kept.length) < _
    rw [hvalue]
    exact hsmall
  · change (-1000 : ℤ) ≤ (Nat.toDigits 10 c).length + e
    omega
  · change ((Nat.toDigits 10 c).length : ℤ) + e ≤ 1000
    omega

/-- A power by the positive part of an exponent. -/
theorem pow_toNat {x : ℚ} (hx : x ≠ 0) (e : ℤ) : x ^ e.toNat = x ^ e * x ^ (-e).toNat := by
  rw [← zpow_natCast, ← zpow_natCast, ← zpow_add₀ hx]
  congr 1
  omega

/-- Of two neighbours only one that lies inside is taken. -/
theorem inside_of_pick {inside : Nat → Bool} {below above nearer c : Nat}
    (hnearer : nearer = below ∨ nearer = above)
    (h : (if inside below && inside above then some nearer
      else if inside below then some below
      else if inside above then some above
      else none) = some c) : inside c = true := by
  grind

/-- Products by whole numbers compare a binary and a decimal value: each side is
multiplied by the powers that the other one divides by. -/
theorem units_le_iff (binary e : ℤ) (x y : Nat) :
    (x * (10 ^ (-e).toNat * 2 ^ binary.toNat) ≤ y * (10 ^ e.toNat * 2 ^ (-binary).toNat) ↔
      (x : ℚ) * 2 ^ binary ≤ y * 10 ^ e) ∧
    (y * (10 ^ e.toNat * 2 ^ (-binary).toNat) ≤ x * (10 ^ (-e).toNat * 2 ^ binary.toNat) ↔
      (y : ℚ) * 10 ^ e ≤ x * 2 ^ binary) := by
  set common : ℚ := 10 ^ (-e).toNat * 2 ^ (-binary).toNat with hcommon
  have hpos : 0 < common := by positivity
  have hx : ((x * (10 ^ (-e).toNat * 2 ^ binary.toNat) : ℕ) : ℚ) = x * 2 ^ binary * common := by
    have htwo := pow_toNat (x := 2) two_ne_zero binary
    push_cast
    rw [hcommon, htwo]
    ring
  have hy : ((y * (10 ^ e.toNat * 2 ^ (-binary).toNat) : ℕ) : ℚ) = y * 10 ^ e * common := by
    have hten := pow_toNat (x := 10) (by norm_num) e
    push_cast
    rw [hcommon, hten]
    ring
  constructor
  · rw [← Nat.cast_le (α := ℚ), hx, hy, mul_le_mul_iff_of_pos_right hpos]
  · rw [← Nat.cast_le (α := ℚ), hx, hy, mul_le_mul_iff_of_pos_right hpos]

/-- Whether `c · 10 ^ e` lies in the interval of a double. -/
def within (d : Double) (e : Int) (c : Nat) : Bool :=
  let binary : Int := d.scale - 1076
  let x := c * (Nat.pow 10 e.toNat * Nat.pow 2 (-binary).toNat)
  let quarterUnit := Nat.pow 10 (-e).toNat * Nat.pow 2 binary.toNat
  if d.significand % 2 = 0 then d.quarters.1 * quarterUnit ≤ x && x ≤ d.quarters.2.2 * quarterUnit
  else d.quarters.1 * quarterUnit < x && x < d.quarters.2.2 * quarterUnit

theorem within_of_onGrid {tie : Tie} {d : Double} {e : Int} {c : Nat}
    (h : d.onGrid tie e = some c) : d.within e c = true :=
  inside_of_pick (ite_eq_or_eq _ _ _) h

variable {d : Double}

/-- What lies in the interval of a double is at least its lower end, and at most
its upper end, which counts only for an even significand. -/
theorem bounds_of_within {e : Int} {c : Nat} (h : d.within e c = true) :
    (d.quarters.1 : ℚ) * 2 ^ ((d.scale : ℤ) - 1076) ≤ c * 10 ^ e ∧
      (c : ℚ) * 10 ^ e ≤ d.quarters.2.2 * 2 ^ ((d.scale : ℤ) - 1076) ∧
      (d.significand % 2 = 1 →
        (c : ℚ) * 10 ^ e < d.quarters.2.2 * 2 ^ ((d.scale : ℤ) - 1076)) := by
  have hlow := units_le_iff ((d.scale : ℤ) - 1076) e d.quarters.1 c
  have hhigh := units_le_iff ((d.scale : ℤ) - 1076) e d.quarters.2.2 c
  unfold within at h
  simp only [Nat.pow_eq] at h
  split at h
  · rename_i heven
    simp only [Bool.and_eq_true, decide_eq_true_eq] at h
    exact ⟨hlow.1.mp h.1, hhigh.2.mp h.2, by omega⟩
  · simp only [Bool.and_eq_true, decide_eq_true_eq] at h
    refine ⟨hlow.1.mp h.1.le, hhigh.2.mp h.2.le, fun _ => ?_⟩
    exact lt_of_not_ge fun hge => absurd (hhigh.1.mpr hge) h.2.not_ge

/-- The significand of a finite double other than zero. -/
theorem significand_bounds (hzero : d.isZero = false) :
    0 < d.significand ∧ d.significand < 2 ^ 53 := by
  have hnonzero : d.magnitudeBits ≠ 0 := by simpa [isZero] using hzero
  have hparts : 2 ^ 52 * d.exponentBits + d.fractionBits = d.magnitudeBits :=
    Nat.div_add_mod d.magnitudeBits (2 ^ 52)
  have hfraction : d.fractionBits < 2 ^ 52 := Nat.mod_lt _ (by norm_num)
  unfold significand
  simp only [Nat.pow_eq]
  split <;> omega

/-- The interval of a double other than zero is above zero. -/
theorem pos_of_within {e : Int} {c : Nat} (hzero : d.isZero = false)
    (h : d.within e c = true) : 0 < c := by
  obtain ⟨hlow, -, -⟩ := bounds_of_within h
  have hsignificand := (significand_bounds hzero).1
  have hquarter : 0 < d.quarters.1 := by
    unfold quarters
    dsimp only
    split <;> omega
  have hlower : (0 : ℚ) < d.quarters.1 * 2 ^ ((d.scale : ℤ) - 1076) :=
    mul_pos (Nat.cast_pos.mpr hquarter) (by positivity)
  refine Nat.pos_of_ne_zero fun hc => ?_
  rw [hc, Nat.cast_zero, zero_mul] at hlow
  exact absurd hlower hlow.not_gt

/-- The interval of a finite double ends below the bound: where its upper end
would reach it, the significand is odd, and the end does not count. -/
theorem small_of_within {e : Int} {c : Nat} (hfinite : d.isFinite = true)
    (hzero : d.isZero = false) (h : d.within e c = true) :
    (c : ℚ) * 10 ^ e < overflowBound := by
  obtain ⟨-, hhigh, hodd⟩ := bounds_of_within h
  have hsignificand := (significand_bounds hzero).2
  have hexponent : d.exponentBits < 2047 := of_decide_eq_true hfinite
  have hupper : d.quarters.2.2 = 4 * d.significand + 2 := rfl
  have hscale : (d.scale : ℤ) - 1076 ≤ 969 := by
    have : d.scale = d.exponentBits - 1 := rfl
    omega
  have hbound : overflowBound = (2 ^ 55 - 2) * 2 ^ (969 : ℤ) := by
    have hstep : (2 : ℚ) ^ (970 : ℤ) = 2 ^ (969 : ℤ) * 2 := zpow_add_one₀ two_ne_zero 969
    rw [overflowBound, hstep]
    ring
  have htop : (2 : ℚ) ^ ((d.scale : ℤ) - 1076) ≤ 2 ^ (969 : ℤ) :=
    zpow_le_zpow_right₀ (by norm_num) hscale
  have hmax : (0 : ℚ) < 2 ^ (969 : ℤ) := by positivity
  generalize (2 : ℚ) ^ (969 : ℤ) = top at hbound htop hmax
  rcases Nat.mod_two_eq_zero_or_one d.significand with heven | hodd'
  · have hless : ((d.quarters.2.2 : ℕ) : ℚ) < 2 ^ 55 - 2 := by
      have hnat : d.quarters.2.2 + 2 < 2 ^ 55 := by omega
      have hcast : ((d.quarters.2.2 : ℕ) : ℚ) + 2 < 2 ^ 55 := by exact_mod_cast hnat
      linarith
    calc (c : ℚ) * 10 ^ e ≤ d.quarters.2.2 * 2 ^ ((d.scale : ℤ) - 1076) := hhigh
      _ ≤ d.quarters.2.2 * top := by gcongr
      _ < (2 ^ 55 - 2) * top := by gcongr
      _ = overflowBound := hbound.symm
  · have hless : ((d.quarters.2.2 : ℕ) : ℚ) ≤ 2 ^ 55 - 2 := by
      have hnat : d.quarters.2.2 + 2 ≤ 2 ^ 55 := by omega
      have hcast : ((d.quarters.2.2 : ℕ) : ℚ) + 2 ≤ 2 ^ 55 := by exact_mod_cast hnat
      linarith
    calc (c : ℚ) * 10 ^ e < d.quarters.2.2 * 2 ^ ((d.scale : ℤ) - 1076) := hodd hodd'
      _ ≤ d.quarters.2.2 * top := by gcongr
      _ ≤ (2 ^ 55 - 2) * top := by gcongr
      _ = overflowBound := hbound.symm

/-- **The decimal written for a finite double is readable.** -/
theorem shortest_readable (hfinite : d.isFinite = true) (tie : Tie) :
    (d.shortest tie).Readable := by
  unfold shortest
  split
  · exact Decimal.readable_zero
  rename_i hzero
  have hpoint : -400 ≤ d.pointOf := by
    unfold pointOf
    dsimp only
    omega
  dsimp only
  cases hfound : (List.range' 1 17).findSome? fun (n : Nat) =>
      (d.onGrid tie (d.pointOf - n)).map fun c => Decimal.ofNat c (d.pointOf - n) with
  | none => exact Decimal.readable_zero
  | some decimal =>
      obtain ⟨n, hn, hdecimal⟩ := List.exists_of_findSome?_eq_some hfound
      obtain ⟨c, hc, rfl⟩ := Option.map_eq_some_iff.mp hdecimal
      have hwithin := within_of_onGrid hc
      have hpos := pos_of_within (by simpa using hzero) hwithin
      have hsmall := small_of_within hfinite (by simpa using hzero) hwithin
      have hcount : n < 18 := by
        obtain ⟨i, hi, rfl⟩ := List.mem_range'.mp hn
        omega
      exact Decimal.readable_ofNat hpos hsmall (by omega)

end CallTree.Double
