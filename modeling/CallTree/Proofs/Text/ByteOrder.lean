import Mathlib.Tactic.SplitIfs

/-!
# The order of texts and of their bytes

Texts are compared by code points.  The UTF-8 form of a character begins with a
larger byte where it is longer, and its bytes write its code point from the left,
so comparing the bytes gives the same order.

* `encodeChar_lt` — a smaller character has the smaller bytes, whatever follows;
* `utf8_lt_utf8` — texts are in the order of their bytes.
-/

namespace CallTree.Text

/-- The UTF-8 form of a text. -/
def utf8 (s : String) : List UInt8 :=
  s.toByteArray.data.toList

theorem utf8_eq_flatMap (s : String) : utf8 s = s.toList.flatMap String.utf8EncodeChar := by
  have hbytes := String.toByteArray_ofList (l := s.toList)
  rw [String.ofList_toList] at hbytes
  rw [utf8, hbytes, List.utf8Encode, List.toList_data_toByteArray]

/-- Numbers in order have their last digits in order, or what is before these. -/
theorem digits_lt {a b : Nat} (h : a < b) :
    a / 64 < b / 64 ∨ a / 64 = b / 64 ∧ a % 64 < b % 64 := by
  omega

/-- **A smaller character has the smaller bytes**, whatever follows. -/
theorem encodeChar_lt {c d : Char} (h : c < d) (s t : List UInt8) :
    String.utf8EncodeChar c ++ s < String.utf8EncodeChar d ++ t := by
  have hcode : c.val.toNat < d.val.toNat := h
  have hlast : d.val.toNat < 0x110000 := by
    have := d.valid
    simp only [UInt32.isValidChar, Nat.isValidChar] at this
    omega
  rw [String.utf8EncodeChar.eq_1, String.utf8EncodeChar.eq_1]
  generalize c.val.toNat = n at hcode
  generalize d.val.toNat = m at hcode hlast
  -- Code points in order have digits in order, whatever the number of digits.
  have hlow := digits_lt hcode
  have hmiddle := fun h => digits_lt (a := n / 64) (b := m / 64) h
  have hhigh := fun h => digits_lt (a := n / 64 / 64) (b := m / 64 / 64) h
  have hsquare (k : Nat) : k / 4096 = k / 64 / 64 := (Nat.div_div_eq_div_mul k 64 64).symm
  have hcube (k : Nat) : k / 262144 = k / 64 / 64 / 64 := by
    rw [Nat.div_div_eq_div_mul, Nat.div_div_eq_div_mul]
  simp only [hsquare, hcube]
  split_ifs <;>
    simp only [List.cons_append, List.nil_append, List.cons_lt_cons_iff, UInt8.lt_iff_toNat_lt,
      ← UInt8.toNat_inj, UInt8.toNat_ofNat'] <;>
    omega

/-- Characters in order make bytes in order. -/
theorem flatMap_encodeChar_lt {s t : List Char} (h : s < t) :
    s.flatMap String.utf8EncodeChar < t.flatMap String.utf8EncodeChar := by
  induction t generalizing s with
  | nil => exact absurd h (List.not_lt_nil s)
  | cons d t ih =>
      cases s with
      | nil =>
          cases hd : String.utf8EncodeChar d with
          | nil => exact absurd hd String.utf8EncodeChar_ne_nil
          | cons b bytes =>
              rw [List.flatMap_cons, hd]
              exact List.nil_lt_cons b _
      | cons c s =>
          rw [List.flatMap_cons, List.flatMap_cons]
          rcases List.cons_lt_cons_iff.mp h with hlt | ⟨rfl, hlt⟩
          · exact encodeChar_lt hlt _ _
          · induction String.utf8EncodeChar c with
            | nil => exact ih hlt
            | cons b bytes ihBytes => exact List.cons_lt_cons_iff.mpr (Or.inr ⟨rfl, ihBytes⟩)

/-- **Texts are in the order of their bytes.** -/
theorem utf8_lt_utf8 {a b : String} (h : a < b) : utf8 a < utf8 b := by
  rw [utf8_eq_flatMap, utf8_eq_flatMap]
  exact flatMap_encodeChar_lt h

end CallTree.Text
