import CallTree.Address.Path
import CallTree.Proofs.Text.ByteOrder
import Mathlib.Data.List.Basic
import Mathlib.Tactic.ByContra

/-!
# Percent encoding is done once

What percent encoding writes needs no encoding: a percent sign and digits may
stand in a path.  It also writes no dot that was not there before, neither as it
is nor encoded, because every character that has to be encoded is written as
bytes other than that of a dot.  So an encoded part stands for a directory only
where it stood for one from the start.

* `mem_utf8Bytes_singleton` — only a dot has the byte of a dot;
* `safe_percentEncode` — what is written may stand in a path;
* `isAbove_percentEncode`, `isSame_percentEncode` — what a part stands for does
  not change.
-/

namespace CallTree.Address

/-! ## Bytes -/

theorem toList_loop_eq (bytes : ByteArray) (i : Nat) (read : List UInt8) :
    ByteArray.toList.loop bytes i read = read.reverse ++ bytes.data.toList.drop i := by
  fun_induction ByteArray.toList.loop bytes i read with
  | case1 i read hlt ih =>
      have hi : i < bytes.data.toList.length := by simpa using hlt
      have hget : bytes.get! i = bytes.data.toList[i] := by simp [ByteArray.get!, hlt]
      rw [ih, List.drop_eq_getElem_cons hi, hget, List.reverse_cons, List.append_assoc]
      rfl
  | case2 i read hge =>
      have hend : bytes.data.toList.length ≤ i := by simpa using hge
      rw [List.drop_eq_nil_of_le hend, List.append_nil]

/-- The bytes of one character. -/
theorem utf8Bytes_singleton (c : Char) : utf8Bytes [c] = String.utf8EncodeChar c := by
  have hflat := Text.utf8_eq_flatMap (String.ofList [c])
  rw [Text.utf8, String.toList_ofList, List.flatMap_singleton] at hflat
  rw [utf8Bytes, String.toUTF8_eq_toByteArray, ByteArray.toList, toList_loop_eq, ← hflat]
  rfl

/-- Only a dot has the byte of a dot. -/
theorem mem_utf8Bytes_singleton {c : Char} {byte : UInt8} (hbyte : byte.toNat = 46)
    (h : byte ∈ utf8Bytes [c]) : c = '.' := by
  rw [utf8Bytes_singleton, String.utf8EncodeChar.eq_1] at h
  have hc : c.val.toNat = 46 := by
    generalize c.val.toNat = n at h
    split_ifs at h <;>
      simp only [List.mem_cons, List.not_mem_nil, or_false, ← UInt8.toNat_inj,
        UInt8.toNat_ofNat', hbyte] at h <;>
      omega
  exact Char.ext (UInt32.toNat_inj.mp hc)

/-! ## Encoded texts -/

/-- The characters of an encoded byte. -/
theorem mem_percentByte {byte : UInt8} {c : Char} (h : c ∈ percentByte byte) :
    c = '%' ∨ ∃ digit < 16, c = (Nat.digitChar digit).toUpper := by
  have hlt : byte.toNat < 256 := UInt8.toNat_lt byte
  simp only [percentByte, Text.digitsOfByte, List.map_cons, List.map_nil, List.mem_cons,
    List.not_mem_nil, or_false] at h
  rcases h with rfl | rfl | rfl
  · exact Or.inl rfl
  · exact Or.inr ⟨byte.toNat / 16, by omega, rfl⟩
  · exact Or.inr ⟨byte.toNat % 16, by omega, rfl⟩

/-- An encoded byte may stand in a path, and has no slash. -/
theorem safe_of_mem_percentByte {byte : UInt8} {c : Char} (h : c ∈ percentByte byte) :
    isPathUnsafe c = false ∧ c ≠ '/' := by
  rcases mem_percentByte h with rfl | ⟨digit, hdigit, rfl⟩
  · decide
  · have hall : ∀ digit ∈ List.range 16, isPathUnsafe (Nat.digitChar digit).toUpper = false ∧
        (Nat.digitChar digit).toUpper ≠ '/' := by decide
    exact hall digit (List.mem_range.mpr hdigit)

/-- Nothing is encoded where everything may stand. -/
theorem percentEncode_eq_self {s : List Char} (h : ∀ c ∈ s, isPathUnsafe c = false) :
    percentEncode isPathUnsafe s = s := by
  induction s with
  | nil => rfl
  | cons c s ih =>
      have hc := h c List.mem_cons_self
      have hs := ih fun c hmem => h c (List.mem_cons_of_mem _ hmem)
      rw [percentEncode] at hs ⊢
      rw [List.flatMap_cons, hs, hc]
      rfl

/-- **What is written may stand in a path**, and its slashes were there before. -/
theorem safe_percentEncode {s : List Char} {c : Char} (h : c ∈ percentEncode isPathUnsafe s) :
    isPathUnsafe c = false ∧ (c = '/' → '/' ∈ s) := by
  obtain ⟨d, hd, hc⟩ := List.mem_flatMap.mp h
  by_cases hunsafe : isPathUnsafe d = true
  · rw [if_pos hunsafe] at hc
    obtain ⟨byte, _, hbyte⟩ := List.mem_flatMap.mp hc
    obtain ⟨hsafe, hslash⟩ := safe_of_mem_percentByte hbyte
    exact ⟨hsafe, fun heq => absurd heq hslash⟩
  · rw [if_neg hunsafe] at hc
    obtain rfl := List.mem_singleton.mp hc
    refine ⟨by simpa using hunsafe, ?_⟩
    rintro rfl
    exact hd

/-- How parts are written that stand for a directory, in lower case. -/
def dots : List (List Char) :=
  [".".toList, "..".toList, "%2e".toList, ".%2e".toList, "%2e.".toList, "%2e%2e".toList]

/-- Behind a percent sign they have the digits of a dot. -/
theorem digits_of_mem_dots {t : List Char} (ht : t ∈ dots) {i : Nat} (h : t[i]? = some '%') :
    t[i + 1]? = some '2' ∧ t[i + 2]? = some 'e' := by
  have hall : ∀ t ∈ dots, t.length ≤ 6 ∧ ∀ i ∈ List.range 6,
      t[i]? = some '%' → t[i + 1]? = some '2' ∧ t[i + 2]? = some 'e' := by decide
  obtain ⟨hlength, hbelow⟩ := hall t ht
  obtain ⟨hlt, _⟩ := List.getElem?_eq_some_iff.mp h
  exact hbelow i (List.mem_range.mpr (by omega)) h

/-- Only the byte of a dot has these digits. -/
theorem eq_dot_of_digits {byte : Nat} (hlt : byte < 256)
    (hhigh : (Nat.digitChar (byte / 16)).toUpper.toLower = '2')
    (hlow : (Nat.digitChar (byte % 16)).toUpper.toLower = 'e') : byte = 46 := by
  have htwo : ∀ digit ∈ List.range 16,
      (Nat.digitChar digit).toUpper.toLower = '2' → digit = 2 := by decide
  have hfourteen : ∀ digit ∈ List.range 16,
      (Nat.digitChar digit).toUpper.toLower = 'e' → digit = 14 := by decide
  have hdiv := htwo (byte / 16) (List.mem_range.mpr (by omega)) hhigh
  have hmod := hfourteen (byte % 16) (List.mem_range.mpr (by omega)) hlow
  omega

/-- Nothing was encoded in a part that stands for a directory. -/
theorem percentEncode_eq_self_of_dots {s : List Char}
    (h : (percentEncode isPathUnsafe s).map Char.toLower ∈ dots) :
    percentEncode isPathUnsafe s = s := by
  by_contra hne
  have hunsafe : ∃ c ∈ s, isPathUnsafe c = true := by
    by_contra hnone
    apply hne
    apply percentEncode_eq_self
    intro c hmem
    rw [← Bool.not_eq_true]
    exact fun hc => hnone ⟨c, hmem, hc⟩
  obtain ⟨c, hmem, hc⟩ := hunsafe
  obtain ⟨before, after, rfl⟩ := List.append_of_mem hmem
  -- the character is written as a byte with the digits of a dot
  obtain ⟨byte, rest, hbytes⟩ : ∃ byte rest, utf8Bytes [c] = byte :: rest := by
    rw [utf8Bytes_singleton]
    exact List.exists_cons_of_ne_nil String.utf8EncodeChar_ne_nil
  have hform : (percentEncode isPathUnsafe (before ++ c :: after)).map Char.toLower =
      (percentEncode isPathUnsafe before).map Char.toLower ++
        '%' :: (Nat.digitChar (byte.toNat / 16)).toUpper.toLower ::
          (Nat.digitChar (byte.toNat % 16)).toUpper.toLower ::
            (rest.flatMap percentByte ++ percentEncode isPathUnsafe after).map Char.toLower := by
    simp only [percentEncode, List.flatMap_append, List.flatMap_cons, if_pos hc, hbytes,
      percentByte, Text.digitsOfByte, List.map_append, List.map_cons, List.map_nil,
      List.cons_append, List.nil_append]
    rfl
  rw [hform] at h
  have hdigits := digits_of_mem_dots h
    (i := ((percentEncode isPathUnsafe before).map Char.toLower).length) (by simp)
  rw [List.getElem?_append_right (by omega), List.getElem?_append_right (by omega),
    Nat.add_sub_cancel_left, Nat.add_sub_cancel_left] at hdigits
  have hdot := eq_dot_of_digits (UInt8.toNat_lt byte) (Option.some.inj hdigits.1)
    (Option.some.inj hdigits.2)
  have hbyte : byte ∈ utf8Bytes [c] := by
    rw [hbytes]
    exact List.mem_cons_self
  rw [mem_utf8Bytes_singleton hdot hbyte] at hc
  exact absurd hc (by decide)

/-- A part that stands for the directory above is written in one of these ways. -/
theorem mem_dots_of_isAbove {part : List Char} (h : isAbove part = true) :
    part.map Char.toLower ∈ dots := by
  simp only [isAbove, List.contains_iff_mem, List.mem_cons, List.not_mem_nil, or_false,
    ← String.toList_inj, String.toList_ofList] at h
  simp only [dots, List.mem_cons, List.not_mem_nil, or_false]
  rcases h with h | h | h | h
  · exact Or.inr (Or.inl h)
  · exact Or.inr (Or.inr (Or.inr (Or.inl h)))
  · exact Or.inr (Or.inr (Or.inr (Or.inr (Or.inl h))))
  · exact Or.inr (Or.inr (Or.inr (Or.inr (Or.inr h))))

/-- And so is one that stands for the directory itself. -/
theorem mem_dots_of_isSame {part : List Char} (h : isSame part = true) :
    part.map Char.toLower ∈ dots := by
  simp only [isSame, List.contains_iff_mem, List.mem_cons, List.not_mem_nil, or_false,
    ← String.toList_inj, String.toList_ofList] at h
  simp only [dots, List.mem_cons, List.not_mem_nil, or_false]
  rcases h with h | h
  · exact Or.inl h
  · exact Or.inr (Or.inr (Or.inl h))

/-- **An encoded part leads above only where it did before.** -/
theorem isAbove_percentEncode {s : List Char} (h : isAbove s = false) :
    isAbove (percentEncode isPathUnsafe s) = false := by
  rw [← Bool.not_eq_true] at h ⊢
  intro habove
  rw [percentEncode_eq_self_of_dots (mem_dots_of_isAbove habove)] at habove
  exact h habove

/-- **An encoded part stands for the directory itself only where it did
before.** -/
theorem isSame_percentEncode {s : List Char} (h : isSame s = false) :
    isSame (percentEncode isPathUnsafe s) = false := by
  rw [← Bool.not_eq_true] at h ⊢
  intro hsame
  rw [percentEncode_eq_self_of_dots (mem_dots_of_isSame hsame)] at hsame
  exact h hsame

end CallTree.Address
