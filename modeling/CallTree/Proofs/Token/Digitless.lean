import CallTree.Proofs.Token.Signed

/-!
# Number texts without digits

A text may have the form of a number and still hold no digit: a sign, a mark and
underscores, each of which may be missing.  Readers of numbers take such a text for
zero.  Two of these texts are recognised before anything is read, the empty one and
a lower-case `0x` alone, and are shown as they are.  A sign before a mark is shown
as it is too, since it cannot be read at all.  All others are shown as `0`, although
nobody wrote a zero.

* `Digitless` — the texts without digits;
* `wordText_of_digitless`, `integerText_of_digitless` — which of them write zero;
* `no_integer_of_signed_mark` — which of them write nothing;
* `digitless_kept_iff` — which of them are shown as they are;
* `digitless_not_always_kept` — not all of them are.
-/

namespace CallTree

open Text

/-- The texts without blanks and without a sign that hold no digit: a mark or none,
and underscores. -/
def Digitless (body : List Char) : Prop :=
  ∃ mark base bars, (mark, base) ∈ Word.marks ∧ (∀ c ∈ bars, c = '_') ∧ body = mark ++ bars

/-- A text holds no digit where only underscores come after its mark. -/
theorem digitless_iff (body : List Char) :
    Digitless body ↔ ∀ c ∈ (Word.splitMark body).2, c = '_' := by
  constructor
  · rintro ⟨mark, base, bars, hmark, hbars, rfl⟩
    rw [Word.splitMark_append_of_notMem hmark fun c _ hbar hmem => hbar (hbars c hmem)]
    exact hbars
  · intro hbars
    obtain ⟨mark, hmark, hbody⟩ := Word.exists_mark body
    exact ⟨mark, _, _, hmark, hbars, hbody⟩

-- Only the characters of the text are looked at.
instance (body : List Char) : Decidable (Digitless body) :=
  letI : Decidable (∀ c ∈ (Word.splitMark body).2, c = '_') := List.decidableBAll _ _
  decidable_of_iff _ (digitless_iff body).symm

/-! ## What is written without digits -/

/-- A mark has a letter that is no decimal digit. -/
theorem letter_of_mem_marks {mark : List Char} {base : Nat} (h : (mark, base) ∈ Word.marks) :
    mark = [] ∨ ∃ c ∈ mark, digitIn? 10 c = none ∧ c ≠ '_' := by
  have hall : ∀ marked ∈ Word.marks, marked.1 = [] ∨
      marked.1.any fun c => (digitIn? 10 c).isNone && c != '_' := by
    decide
  simpa using hall _ h

section Reading

variable {body rest : List Char} {sign : Char} {factor : Int}

/-- **Without digits zero is written**, except where the text is recognised. -/
theorem wordText_of_digitless (h : Digitless body) (hempty : body ≠ []) (halone : body ≠ ['0', 'x']) :
    WordText 0 body := by
  obtain ⟨mark, base, bars, hmark, hbars, rfl⟩ := h
  exact .bare hmark hbars rfl hempty halone

theorem integerText_of_digitless (h : Digitless body) (hempty : body ≠ [])
    (halone : body ≠ ['0', 'x']) : IntegerText 0 body := by
  have hword := wordText_of_digitless h hempty halone
  cases hmark : stripStart ['0', 'x'] body with
  | none => exact .unsigned hword hmark rfl
  | some digits =>
      obtain rfl : body = '0' :: 'x' :: digits := eq_append_of_stripStart hmark
      exact .word hword rfl

/-- Behind a sign underscores write zero. -/
theorem integerText_of_signed_bars (hsign : (sign, factor) ∈ Word.signs)
    (hbars : ∀ c ∈ rest, c = '_') : IntegerText 0 (sign :: rest) :=
  .signed hsign (Or.inr ⟨rfl, hbars⟩) (Int.mul_zero factor).symm (by decide) (by decide)

/-- **Behind a sign a mark makes the text unreadable.** -/
theorem no_integer_of_signed_mark (hsign : (sign, factor) ∈ Word.signs) (h : Digitless rest)
    (hmarked : ∃ c ∈ rest, c ≠ '_') (i : Int) : ¬ IntegerText i (sign :: rest) := by
  intro hinteger
  obtain ⟨hempty, halone⟩ := Token.ne_of_integerText hinteger
  obtain ⟨n, hread, _⟩ :=
    (Word.readSigned_sign hsign).mp ((Word.readSigned_eq_some_iff hempty halone).mpr hinteger)
  obtain ⟨mark, base, bars, hmark, hbars, rfl⟩ := h
  rcases letter_of_mem_marks hmark with rfl | ⟨c, hc, hdigit, hbar⟩
  · obtain ⟨c, hc, hbar⟩ := hmarked
    exact hbar (hbars c hc)
  · exact Word.notMem_of_readDigits (by decide) (by decide) hread hdigit hbar
      (List.mem_append_left bars hc)

end Reading

/-! ## What is shown without digits -/

namespace Token

variable {s shown : String} {kept : Prop}

/-- Whether a text is shown as it is exactly under a condition, and else as zero. -/
def KeptOrZero (shown s : String) (kept : Prop) : Prop :=
  (shown = s ↔ kept) ∧ (¬ kept → shown = "0")

theorem keptOrZero_of_ne (hs : s ≠ "0") (hkept : kept → shown = s) (hzero : ¬ kept → shown = "0") :
    KeptOrZero shown s kept := by
  refine ⟨⟨fun hsame => ?_, hkept⟩, hzero⟩
  refine by_contra fun hnot => hs ?_
  exact hsame.symm.trans (hzero hnot)

/-- What is recognised is shown as it is. -/
theorem display_of_recognised (h : trim s.toList = [] ∨ trim s.toList = ['0', 'x']) :
    display (.uint (.text s)) = s ∧ display (.int (.text s)) = s := by
  have hdigits := (hasNoDigits_iff s).mpr h
  exact ⟨(display_uint_eq s).trans (if_pos hdigits), (display_int_eq s).trans (if_pos hdigits)⟩

/-- What holds no digit and is not recognised is shown as zero. -/
theorem display_of_digitless (h : Digitless (trim s.toList))
    (hnot : ¬ (trim s.toList = [] ∨ trim s.toList = ['0', 'x'])) :
    display (.uint (.text s)) = "0" ∧ display (.int (.text s)) = "0" := by
  obtain ⟨hempty, halone⟩ := not_or.mp hnot
  exact ⟨display_uint_of_wordText (wordText_of_digitless h hempty halone),
    display_int_of_integerText (integerText_of_digitless h hempty halone)⟩

/-- **Which texts without digits are shown as they are.**  Without a sign these are
the empty text and a lower-case `0x` alone, with blanks around them or not; behind a
sign, which only a signed integer may have, those with a mark.  All others are shown
as zero. -/
theorem digitless_kept_iff (s : String) :
    (Digitless (trim s.toList) →
      KeptOrZero (display (.uint (.text s))) s
          (trim s.toList = [] ∨ trim s.toList = ['0', 'x']) ∧
        KeptOrZero (display (.int (.text s))) s
          (trim s.toList = [] ∨ trim s.toList = ['0', 'x'])) ∧
      ∀ sign factor rest, (sign, factor) ∈ Word.signs → trim s.toList = sign :: rest →
        Digitless rest → KeptOrZero (display (.int (.text s))) s (∃ c ∈ rest, c ≠ '_') := by
  constructor
  case left =>
    intro h
    have hs : s ≠ "0" := by
      rintro rfl
      exact absurd h (by decide)
    exact ⟨keptOrZero_of_ne hs (fun hkept => (display_of_recognised hkept).1)
        fun hnot => (display_of_digitless h hnot).1,
      keptOrZero_of_ne hs (fun hkept => (display_of_recognised hkept).2)
        fun hnot => (display_of_digitless h hnot).2⟩
  case right =>
    intro sign factor rest hsign htrim h
    have hs : s ≠ "0" := by
      rintro rfl
      obtain rfl : '0' = sign := (List.cons.inj htrim).1
      simp [Word.mem_signs_iff] at hsign
    refine keptOrZero_of_ne hs (fun hmarked => ?_) fun hbars => ?_
    · refine display_int_of_no_integer ?_
      rw [htrim]
      exact no_integer_of_signed_mark hsign h hmarked
    · have hall : ∀ c ∈ rest, c = '_' := by simpa using hbars
      refine display_int_of_integerText (i := 0) ?_
      rw [htrim]
      exact integerText_of_signed_bars hsign hall

theorem digitless_kept_iff_samples :
    display (.uint (.text " 0x\n")) = " 0x\n" ∧ display (.uint (.text "0O_")) = "0" ∧
      display (.int (.text "+0b")) = "+0b" ∧ display (.int (.text "-_")) = "0" := by
  have hplus : ('+', 1) ∈ Word.signs := by decide
  have hminus : ('-', -1) ∈ Word.signs := by decide
  have hblank : Digitless (trim " 0x\n".toList) := by decide
  have hupper : Digitless (trim "0O_".toList) := by decide
  exact ⟨((digitless_kept_iff " 0x\n").1 hblank).1.1.mpr (by decide),
    ((digitless_kept_iff "0O_").1 hupper).1.2 (by decide),
    ((digitless_kept_iff "+0b").2 '+' 1 ['0', 'b'] hplus rfl (by decide)).1.mpr
      ⟨'b', by decide, by decide⟩,
    ((digitless_kept_iff "-_").2 '-' (-1) ['_'] hminus rfl (by decide)).2 (by simp)⟩

/-- **A text without digits is not always shown as it is.** -/
theorem digitless_not_always_kept :
    ¬ ∀ s : String,
      (Digitless (trim s.toList) →
        display (.uint (.text s)) = s ∧ display (.int (.text s)) = s) ∧
      ∀ sign factor rest, (sign, factor) ∈ Word.signs → trim s.toList = sign :: rest →
        Digitless rest → display (.int (.text s)) = s := by
  intro hall
  have hmark : Digitless (trim "0X".toList) := by decide
  have hkept := ((hall "0X").1 hmark).1
  rw [(display_of_digitless hmark (by decide)).1] at hkept
  exact absurd hkept (by decide)

end Token

end CallTree
