import CallTree.Proofs.Token.Numbers

/-!
# Integers with and without a sign

A text that begins with no sign is read in the same way as an unsigned and as a
signed integer, with one exception: after a lower-case `0x` the digits are those
of a word, and a word whose highest bit is set is a negative integer in two's
complement.

The signed reader tries several ways.  After `0x` it reads the digits as the
unsigned reader does, and only then takes the word for a signed integer.  Without
`0x` it reads decimal digits, which the unsigned reader would read as well, and
where that fails it asks the unsigned reader.  So what one of them reads the other
reads, and what is no word for one is none for the other.

* `readSigned_hexMark`, `readSigned_of_unmarked` — what is read as a signed
  integer, through what is read as an unsigned one;
* `readUnsigned_eq_some_iff` — the texts that are read are the texts of words;
* `signed_shown_as_unsigned_iff` — when both are shown alike, what is shown where
  they are not, and what is shown of a text that writes no word.
-/

namespace CallTree

open Text

/-! ## The texts of words -/

/-- The texts without blanks that write a word of 256 bits: the spellings of a
number that is small enough, and underscores alone, which write zero.  Neither the
empty text nor a lower-case `0x` with nothing behind it writes any. -/
inductive WordText (w : Nat) : List Char → Prop where
  | spelled {body : List Char} (spelling : UintSpelling w body) (small : w < 2 ^ 256) :
      WordText w body
  | bare {mark bars : List Char} {base : Nat} (hmark : (mark, base) ∈ Word.marks)
      (hbars : ∀ c ∈ bars, c = '_') (zero : w = 0) (hempty : mark ++ bars ≠ [])
      (halone : mark ++ bars ≠ ['0', 'x']) : WordText w (mark ++ bars)

/-- Whether a text writes, after a lower-case `0x`, a word whose highest bit is
set. -/
def SignBitSet (w : Nat) (body : List Char) : Prop :=
  ∃ digits, body = '0' :: 'x' :: digits ∧ Underscored 16 w digits ∧ 2 ^ 255 ≤ w ∧ w < 2 ^ 256

/-! ## Reading -/

namespace Word

variable {base n w : Nat} {s digits : List Char}

/-- **What digits are read as**: the number that they write, or zero where there is
none among the underscores. -/
theorem readDigits_eq_some_iff (hlow : 1 < base) (hhigh : base ≤ 16) :
    readDigits base digits = some n ↔
      n < modulus ∧ (Underscored base n digits ∨ n = 0 ∧ ∀ c ∈ digits, c = '_') := by
  have hread : readDigits base digits = some n ↔
      numberIn base (digits.filter (· != '_')) = some n ∧ n < modulus := by
    rw [readDigits, readDigitsFrom_eq, ← numberIn]
    cases numberIn base (digits.filter (· != '_')) with
    | none => simp
    | some m =>
        simp only [Option.ite_none_right_eq_some, Option.some.injEq]
        constructor
        · rintro ⟨hsmall, rfl⟩
          exact ⟨rfl, hsmall⟩
        · rintro ⟨rfl, hsmall⟩
          exact ⟨hsmall, rfl⟩
  have hbars : (∀ c ∈ digits, c = '_') ↔ digits.filter (· != '_') = [] := by
    simp [List.filter_eq_nil_iff]
  rw [hread, hbars, and_comm, Underscored]
  refine and_congr_right fun _ => ?_
  by_cases hnil : digits.filter (· != '_') = []
  · have hno : ¬ Numeral base n [] := fun h => h.ne_nil rfl
    simp [hnil, hno, numberIn, numberFrom, eq_comm]
  · have hnumeral : numberIn base (digits.filter (· != '_')) = some n ↔
        Numeral base n (digits.filter (· != '_')) :=
      ⟨numeral_of_numberIn hlow hhigh hnil, fun h => h.numberIn_eq hlow hhigh⟩
    simp [hnil, hnumeral]

/-- What is read has no character but digits and underscores. -/
theorem notMem_of_readDigits (hlow : 1 < base) (hhigh : base ≤ 16)
    (h : readDigits base digits = some n) {c : Char} (hc : digitIn? base c = none)
    (hbar : c ≠ '_') : c ∉ digits := by
  obtain ⟨_, written | ⟨_, hbars⟩⟩ := (readDigits_eq_some_iff hlow hhigh).mp h
  · exact written.notMem hlow hhigh hc hbar
  · exact fun hmem => hbar (hbars c hmem)

/-- **What digits are read as in the base of a mark they are read as after the
mark.** -/
theorem readUnsigned_append {mark : List Char} (hmark : (mark, base) ∈ marks)
    (h : readDigits base digits = some n) : readUnsigned (mark ++ digits) = some n := by
  obtain ⟨hlow, hhigh⟩ := bases_of_mem_marks hmark
  have hsplit : splitMark (mark ++ digits) = (base, digits) :=
    splitMark_append_of_notMem hmark fun c => notMem_of_readDigits hlow hhigh h
  rw [readUnsigned, hsplit]
  exact h

/-- A text begins with the mark that chooses its base. -/
theorem exists_mark (s : List Char) :
    ∃ mark, (mark, (splitMark s).1) ∈ marks ∧ s = mark ++ (splitMark s).2 := by
  have hmarked (mark : List Char) (base : Nat) (hmark : (mark, base) ∈ marks) (rest : List Char) :
      ∃ found, (found, (base, rest).1) ∈ marks ∧ mark ++ rest = found ++ (base, rest).2 :=
    ⟨mark, hmark, rfl⟩
  unfold splitMark
  split
  · exact hmarked ['0', 'x'] 16 (by decide) _
  · exact hmarked ['0', 'X'] 16 (by decide) _
  · exact hmarked ['0', 'o'] 8 (by decide) _
  · exact hmarked ['0', 'O'] 8 (by decide) _
  · exact hmarked ['0', 'b'] 2 (by decide) _
  · exact hmarked ['0', 'B'] 2 (by decide) _
  · exact hmarked [] 10 (by decide) _

/-- **The texts that are read are the texts of words**, the two texts without
anything to read apart. -/
theorem readUnsigned_eq_some_iff (hempty : s ≠ []) (halone : s ≠ ['0', 'x']) :
    readUnsigned s = some w ↔ WordText w s := by
  constructor
  · intro h
    obtain ⟨mark, hmark, hs⟩ := exists_mark s
    obtain ⟨hlow, hhigh⟩ := bases_of_mem_marks hmark
    obtain ⟨hsmall, written | ⟨hzero, hbars⟩⟩ := (readDigits_eq_some_iff hlow hhigh).mp h
    · rw [hs]
      exact .spelled (.marked hmark written) hsmall
    · rw [hs] at hempty halone ⊢
      exact .bare hmark hbars hzero hempty halone
  · intro h
    cases h with
    | spelled spelling small =>
        rw [spelling.readUnsigned_eq]
        exact if_pos small
    | bare hmark hbars zero _ _ =>
        obtain ⟨hlow, hhigh⟩ := bases_of_mem_marks hmark
        rw [zero]
        refine readUnsigned_append hmark ((readDigits_eq_some_iff hlow hhigh).mpr ?_)
        exact ⟨by decide, Or.inr ⟨rfl, hbars⟩⟩

/-- After a lower-case `0x` the word is read without a sign first. -/
theorem readSigned_hexMark (digits : List Char) :
    readSigned ('0' :: 'x' :: digits) = (readUnsigned ('0' :: 'x' :: digits)).map toSigned := by
  have hmark : stripStart ['0', 'x'] ('0' :: 'x' :: digits) = some digits := rfl
  have hunsigned : readUnsigned ('0' :: 'x' :: digits) = readDigits 16 digits := rfl
  simp only [readSigned, hmark, hunsigned]
  cases readDigits 16 digits with
  | none => rfl
  | some w => rfl

/-- **Without `0x` and without a sign there is no difference**: a decimal number
below the highest bit is the same, and all else is read without a sign. -/
theorem readSigned_of_unmarked (hmark : stripStart ['0', 'x'] s = none)
    (hplus : s.head? ≠ some '+') (hminus : s.head? ≠ some '-') :
    readSigned s = (readUnsigned s).map Int.ofNat := by
  have hdecimal : readDecimal s = readDecimal.positive s := by
    unfold readDecimal
    split
    · exact absurd rfl hminus
    · exact absurd rfl hplus
    · rfl
  simp only [readSigned, hmark, hdecimal]
  cases hpositive : readDecimal.positive s with
  | none => rfl
  | some i =>
      obtain ⟨n, hread, hsmall⟩ := Option.bind_eq_some_iff.mp hpositive
      obtain ⟨_, hi⟩ := Option.ite_none_right_eq_some.mp hsmall
      have hten : ([], 10) ∈ marks := by decide
      have hunsigned : readUnsigned s = some n := readUnsigned_append hten hread
      rw [hunsigned]
      exact hi.symm

end Word

/-! ## Showing -/

namespace Token

variable {s : String} {w : Nat}

/-- A text is shown as it is where there is nothing to be read or nothing that can
be read, and else as the decimal digits of the integer. -/
theorem display_uint_eq (s : String) :
    display (.uint (.text s)) =
      if hasNoDigits s then s else (Word.readUnsigned (trim s.toList)).elim s Nat.repr := by
  rw [display, displayUint]
  refine if_congr Iff.rfl rfl ?_
  cases Word.readUnsigned (trim s.toList) with
  | none => rfl
  | some n => exact ofList_intText n

theorem display_int_eq (s : String) :
    display (.int (.text s)) =
      if hasNoDigits s then s else (Word.readSigned (trim s.toList)).elim s Int.repr := by
  rw [display, displayInt]
  refine if_congr Iff.rfl rfl ?_
  cases Word.readSigned (trim s.toList) with
  | none => rfl
  | some i => exact ofList_intText i

/-- There is nothing to be read in two texts only. -/
theorem hasNoDigits_iff (s : String) :
    hasNoDigits s = true ↔ trim s.toList = [] ∨ trim s.toList = ['0', 'x'] := by
  rw [hasNoDigits, List.isEmpty_iff]
  cases hstrip : stripStart ['0', 'x'] (trim s.toList) with
  | none =>
      have hne : trim s.toList ≠ ['0', 'x'] := by
        intro heq
        rw [heq] at hstrip
        cases hstrip
      simp [hne]
  | some rest =>
      simp [eq_append_of_stripStart hstrip]

/-- All other texts are given to a reader. -/
theorem hasNoDigits_of_ne (h : trim s.toList ≠ [] ∧ trim s.toList ≠ ['0', 'x']) :
    hasNoDigits s = false := by
  rw [← Bool.not_eq_true, hasNoDigits_iff, not_or]
  exact h

/-- A text of a word holds something to be read. -/
theorem ne_of_wordText {body : List Char} (h : WordText w body) : body ≠ [] ∧ body ≠ ['0', 'x'] := by
  cases h with
  | spelled spelling small =>
      have hnumber := isNumberText_of_uintSpelling spelling
      exact ⟨hnumber.ne_nil, hnumber.ne_mark⟩
  | bare _ _ _ hempty halone => exact ⟨hempty, halone⟩

section Written

variable {β : Type} {read : List Char → Option β} {writes : β → List Char → Prop}
  (hread : ∀ {body b}, body ≠ [] → body ≠ ['0', 'x'] → (read body = some b ↔ writes b body))

include hread

/-- What is written is shown by the text of it. -/
theorem shown_of_written (render : β → String) {b : β}
    (hne : trim s.toList ≠ [] ∧ trim s.toList ≠ ['0', 'x']) (h : writes b (trim s.toList)) :
    (if hasNoDigits s then s else (read (trim s.toList)).elim s render) = render b := by
  rw [hasNoDigits_of_ne hne, (hread hne.1 hne.2).mpr h]
  rfl

/-- A text that writes nothing is shown as it is. -/
theorem shown_of_nothing_written (render : β → String) (h : ∀ b, ¬ writes b (trim s.toList)) :
    (if hasNoDigits s then s else (read (trim s.toList)).elim s render) = s := by
  split
  · rfl
  · rename_i hdigits
    rw [hasNoDigits_iff, not_or] at hdigits
    cases hsome : read (trim s.toList) with
    | none => rfl
    | some b => exact absurd ((hread hdigits.1 hdigits.2).mp hsome) (h b)

end Written

/-- **The text of a word is shown as the number that it writes.** -/
theorem display_uint_of_wordText (h : WordText w (trim s.toList)) :
    display (.uint (.text s)) = w.repr := by
  rw [display_uint_eq]
  exact shown_of_written Word.readUnsigned_eq_some_iff Nat.repr (ne_of_wordText h) h

/-- **What writes no word is shown as it is.** -/
theorem display_uint_of_no_word (h : ∀ w, ¬ WordText w (trim s.toList)) :
    display (.uint (.text s)) = s := by
  rw [display_uint_eq]
  exact shown_of_nothing_written Word.readUnsigned_eq_some_iff Nat.repr h

/-! ## The highest bit -/

/-- A word with its highest bit set is written in hexadecimal. -/
theorem wordText_of_signBitSet {body : List Char} (h : SignBitSet w body) : WordText w body := by
  obtain ⟨digits, rfl, written, _, hsmall⟩ := h
  have hmark : (['0', 'x'], 16) ∈ Word.marks := by decide
  exact .spelled (.marked hmark written) hsmall

/-- A word whose highest bit is set is shown as it is, and less all words with a
sign. -/
theorem display_of_signBitSet (h : SignBitSet w (trim s.toList)) :
    display (.uint (.text s)) = w.repr ∧
      display (.int (.text s)) = ((w : Int) - 2 ^ 256).repr := by
  have hword := wordText_of_signBitSet h
  refine ⟨display_uint_of_wordText hword, ?_⟩
  obtain ⟨digits, hbody, written, hhigh, hsmall⟩ := h
  have hsigned : Word.toSigned w = (w : Int) - 2 ^ 256 := by
    rw [Word.toSigned_eq, if_neg (Nat.not_lt.mpr hhigh), Word.modulus_eq]
    rfl
  rw [display_int_eq, hasNoDigits_of_ne (ne_of_wordText hword), hbody,
    Word.readSigned_hex written hsmall, hsigned]
  rfl

/-- A word that is read after a lower-case `0x` has its highest bit set, or is the
same with a sign. -/
theorem toSigned_of_no_signBit {digits : List Char} (h : ¬ SignBitSet w ('0' :: 'x' :: digits))
    (hread : Word.readUnsigned ('0' :: 'x' :: digits) = some w) : Word.toSigned w = w := by
  rw [Word.toSigned_eq]
  refine if_pos (Nat.lt_of_not_le fun hhigh => h ?_)
  have hdigits : Word.readDigits 16 digits = some w := hread
  obtain ⟨hsmall, written | ⟨hzero, _⟩⟩ :=
    (Word.readDigits_eq_some_iff (by decide) (by decide)).mp hdigits
  · exact ⟨digits, rfl, written, hhigh, hsmall⟩
  · omega

/-- **Without a sign in front and without the highest bit both are shown alike.** -/
theorem display_int_of_no_signBit (hplus : (trim s.toList).head? ≠ some '+')
    (hminus : (trim s.toList).head? ≠ some '-') (h : ∀ w, ¬ SignBitSet w (trim s.toList)) :
    display (.int (.text s)) = display (.uint (.text s)) := by
  have hread : Word.readSigned (trim s.toList) =
      (Word.readUnsigned (trim s.toList)).map Int.ofNat := by
    cases hstrip : stripStart ['0', 'x'] (trim s.toList) with
    | none => exact Word.readSigned_of_unmarked hstrip hplus hminus
    | some digits =>
        have hbody : trim s.toList = '0' :: 'x' :: digits := eq_append_of_stripStart hstrip
        rw [hbody] at h ⊢
        rw [Word.readSigned_hexMark]
        refine Option.map_congr fun w hw => ?_
        exact toSigned_of_no_signBit (h w) hw
  rw [display_int_eq, display_uint_eq, hread]
  refine if_congr Iff.rfl rfl ?_
  cases Word.readUnsigned (trim s.toList) with
  | none => rfl
  | some n => rfl

/-- A negative integer is not shown as a natural number. -/
theorem repr_ne_repr_of_neg {i : Int} (hi : i < 0) (n : Nat) : i.repr ≠ n.repr := by
  intro heq
  have hdash : '-' ∈ n.repr.toList := by
    rw [← heq, ← ofList_intText, String.toList_ofList, Json.intText, if_pos hi]
    exact List.mem_cons_self
  rw [Nat.repr_eq_ofList_toDigits, String.toList_ofList] at hdash
  exact notMem_toDigits (by decide) (by decide) rfl hdash

/-- **A text without a sign is shown alike as an unsigned and as a signed integer,
exactly if it is no word that is written after a lower-case `0x` and whose highest
bit is set.**  Such a word is shown as it is and, with a sign, less all words.
Every other text of a word is shown as its number, and what writes no word,
malformed or too long, is shown as it is. -/
theorem signed_shown_as_unsigned_iff (s : String) (hplus : (trim s.toList).head? ≠ some '+')
    (hminus : (trim s.toList).head? ≠ some '-') :
    (display (.int (.text s)) = display (.uint (.text s)) ↔
        ∀ w, ¬ SignBitSet w (trim s.toList)) ∧
      (∀ w, SignBitSet w (trim s.toList) →
        display (.uint (.text s)) = w.repr ∧
          display (.int (.text s)) = ((w : Int) - 2 ^ 256).repr) ∧
      (∀ w, WordText w (trim s.toList) → display (.uint (.text s)) = w.repr) ∧
      ((∀ w, ¬ WordText w (trim s.toList)) →
        display (.int (.text s)) = s ∧ display (.uint (.text s)) = s) := by
  refine ⟨⟨fun halike w hbit => ?differ, display_int_of_no_signBit hplus hminus⟩,
    fun w => display_of_signBitSet, fun w => display_uint_of_wordText, fun hnone => ?unchanged⟩
  case differ =>
    obtain ⟨hunsigned, hsigned⟩ := display_of_signBitSet hbit
    obtain ⟨_, _, _, _, hsmall⟩ := hbit
    rw [hunsigned, hsigned] at halike
    exact repr_ne_repr_of_neg (by omega) w halike
  case unchanged =>
    have hbit : ∀ w, ¬ SignBitSet w (trim s.toList) :=
      fun w hbit => hnone w (wordText_of_signBitSet hbit)
    have hunsigned := display_uint_of_no_word hnone
    exact ⟨(display_int_of_no_signBit hplus hminus hbit).trans hunsigned, hunsigned⟩

/-- The word of 256 ones, after a blank. -/
def allOnes : String :=
  " 0xffffffffffffffffffffffffffffffffffffffffffffffffffffffffffffffff"

theorem signed_shown_as_unsigned_iff_sample :
    display (.uint (.text allOnes)) =
        "115792089237316195423570985008687907853269984665640564039457584007913129639935" ∧
      display (.int (.text allOnes)) = "-1" ∧
      display (.int (.text "0b12")) = "0b12" ∧ display (.uint (.text "0b12")) = "0b12" := by
  have hones : Underscored 16 (2 ^ 256 - 1) (List.replicate 64 'f') := ⟨0, by decide⟩
  have hnone : ∀ w, ¬ WordText w ['0', 'b', '1', '2'] := by
    intro w hword
    have hread := (Word.readUnsigned_eq_some_iff (by decide) (by decide)).mpr hword
    cases hread
  have hbit : SignBitSet (2 ^ 256 - 1) (trim allOnes.toList) :=
    ⟨_, rfl, hones, by decide, by decide⟩
  obtain ⟨hunsigned, hsigned⟩ :=
    (signed_shown_as_unsigned_iff allOnes (by decide) (by decide)).2.1 _ hbit
  exact ⟨hunsigned.trans (by decide), hsigned.trans (by decide),
    (signed_shown_as_unsigned_iff "0b12" (by decide) (by decide)).2.2.2 hnone⟩

end Token

end CallTree
