import CallTree.Proofs.Text.Numerals
import CallTree.Text.Hex

/-!
# Texts packed into bytes

A text of characters below 256 and without the zero character is packed by
taking every character for one byte and filling up with zero bytes.  The digits
of these bytes read back to the text: the bytes are read two digits at a time,
whatever the case of the letters, and the text ends at the first zero byte.

* `bytesOfDigits_of_sameLetters` — the digits of bytes read back;
* `bytesOfHex_dropHexMarks` — also after a `0x`;
* `ByteText.zeroTerminated_padded` — the bytes of a text, filled up with zeros,
  are its characters.
-/

namespace CallTree.Text

/-- A text whose characters can be taken for bytes other than zero. -/
structure ByteText where
  chars : List Char
  inRange : ∀ c ∈ chars, 0 < c.toNat ∧ c.toNat < 256

namespace ByteText

/-- The text itself. -/
def text (t : ByteText) : String :=
  String.ofList t.chars

/-- The bytes of a text, one for each character. -/
def bytes (t : ByteText) : List Nat :=
  t.chars.map Char.toNat

/-- The bytes of a text and zero bytes after them. -/
def padded (t : ByteText) (zeros : Nat) : List Nat :=
  t.bytes ++ List.replicate zeros 0

theorem lt_of_mem_padded {t : ByteText} {zeros byte : Nat} (h : byte ∈ t.padded zeros) :
    byte < 256 := by
  rcases List.mem_append.mp h with hmem | hzero
  · obtain ⟨c, hc, rfl⟩ := List.mem_map.mp hmem
    exact (t.inRange c hc).2
  · rw [List.eq_of_mem_replicate hzero]
    decide

/-- **The padded bytes of a text are its characters**, up to the first zero. -/
theorem zeroTerminated_padded (t : ByteText) (zeros : Nat) :
    zeroTerminated (t.padded zeros) = t.chars := by
  have hnonzero : ∀ byte ∈ t.bytes, (byte != 0) = true := by
    intro byte hbyte
    obtain ⟨c, hc, rfl⟩ := List.mem_map.mp hbyte
    have hpos := (t.inRange c hc).1
    simp
    omega
  have hzeros : (List.replicate zeros 0).takeWhile (· != 0) = [] := by
    cases zeros with
    | zero => rfl
    | succ zeros => rfl
  rw [zeroTerminated, padded, List.takeWhile_append_of_pos hnonzero, hzeros, List.append_nil,
    bytes, List.map_map]
  have hsame : ∀ c ∈ t.chars, (Char.ofNat ∘ Char.toNat) c = c := fun c _ => Char.ofNat_toNat c
  rw [List.map_congr_left hsame, List.map_id']

end ByteText

/-- **The digits of bytes read back**, letters of either case. -/
theorem bytesOfDigits_of_sameLetters {bytes : List Nat} (hbytes : ∀ byte ∈ bytes, byte < 256)
    {digits : List Char} (h : SameLetters digits (hexOfBytes bytes)) :
    bytesOfDigits digits = some bytes := by
  have hvalues := h.map_digitIn? 16
  clear h
  induction bytes generalizing digits with
  | nil =>
      have hnil : digits = [] := List.map_eq_nil_iff.mp hvalues
      rw [hnil, bytesOfDigits]
  | cons byte bytes ih =>
      have hbyte : byte < 256 := hbytes byte List.mem_cons_self
      have hhigh : digitIn? 16 (Nat.digitChar (byte / 16)) = some (byte / 16) :=
        digitIn?_digitChar (by decide) (by omega)
      have hlow : digitIn? 16 (Nat.digitChar (byte % 16)) = some (byte % 16) :=
        digitIn?_digitChar (by decide) (by omega)
      -- the first two characters are the digits of the first byte
      obtain ⟨a, rest, rfl, ha, hrest⟩ := List.map_eq_cons_iff.mp hvalues
      obtain ⟨b, rest, rfl, hb, hrest⟩ := List.map_eq_cons_iff.mp hrest
      have htail : bytesOfDigits rest = some bytes :=
        ih (fun byte hmem => hbytes byte (List.mem_cons_of_mem _ hmem)) hrest
      have hsum : 16 * (byte / 16) + byte % 16 = byte := Nat.div_add_mod byte 16
      rw [bytesOfDigits, ha, hhigh, hb, hlow, htail]
      simp [hsum]

/-- What reads as bytes is made of digits, two for each byte. -/
theorem digits_of_bytesOfDigits {bytes : List Nat} {digits : List Char}
    (h : bytesOfDigits digits = some bytes) :
    digits.length = 2 * bytes.length ∧ ∀ c ∈ digits, ∃ d, digitIn? 16 c = some d := by
  induction digits using bytesOfDigits.induct generalizing bytes with
  | case1 =>
      cases h
      simp
  | case2 c => simp [bytesOfDigits] at h
  | case3 a b rest ih =>
      simp only [bytesOfDigits, Option.bind_eq_bind, Option.bind_eq_some_iff] at h
      obtain ⟨high, ha, low, hb, tail, htail, hbytes⟩ := h
      obtain rfl : (16 * high + low) :: tail = bytes := Option.some.inj hbytes
      obtain ⟨hlength, hdigits⟩ := ih htail
      refine ⟨by simp only [List.length_cons]; omega, ?_⟩
      intro c hc
      rcases List.mem_cons.mp hc with rfl | hc
      · exact ⟨high, ha⟩
      · rcases List.mem_cons.mp hc with rfl | hc
        · exact ⟨low, hb⟩
        · exact hdigits c hc

section Digits

variable {bytes : List Nat} {digits : List Char} (h : bytesOfDigits digits = some bytes)

include h

/-- What reads as bytes does not begin with a mark. -/
theorem ne_mark_of_bytesOfDigits {c : Char} (hc : digitIn? 16 c = none) (rest : List Char) :
    digits ≠ '0' :: c :: rest := by
  rintro rfl
  obtain ⟨d, hd⟩ := (digits_of_bytesOfDigits h).2 c (List.mem_cons_of_mem _ List.mem_cons_self)
  rw [hc] at hd
  cases hd

theorem dropHexMarks_of_bytesOfDigits : dropHexMarks digits = digits := by
  unfold dropHexMarks
  split
  · exact absurd rfl (ne_mark_of_bytesOfDigits h (by decide) _)
  · rfl

theorem bytesOfHex_of_bytesOfDigits : bytesOfHex digits = some bytes := by
  obtain ⟨hlength, _⟩ := digits_of_bytesOfDigits h
  unfold bytesOfHex
  rw [if_pos (by omega)]
  split
  · exact absurd rfl (ne_mark_of_bytesOfDigits h (by decide) _)
  · exact absurd rfl (ne_mark_of_bytesOfDigits h (by decide) _)
  · exact h

/-- **Digits read as bytes after one `0x`**, which is not taken for digits. -/
theorem bytesOfHex_dropHexMarks :
    bytesOfHex (dropHexMarks ('0' :: 'x' :: digits)) = some bytes := by
  rw [dropHexMarks, dropHexMarks_of_bytesOfDigits h]
  exact bytesOfHex_of_bytesOfDigits h

end Digits

end CallTree.Text
