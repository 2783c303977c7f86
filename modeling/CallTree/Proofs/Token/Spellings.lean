import CallTree.Proofs.Text.Lines
import CallTree.Proofs.Text.Numerals
import CallTree.Token.Display
import Mathlib.Algebra.Group.Int.Defs

/-!
# The spellings of an integer

An integer is spelled in many ways: with or without blanks around it, in one of
four bases that a mark tells apart, with letters of either case, with zeros in
front and with underscores anywhere among the digits.  What is shown is the same
for all of them, the decimal digits; only what is no word of 256 bits is shown as
it is spelled.

Blanks go when the text is trimmed, the mark chooses the base, and underscores are
passed over, so that what is left are digits as they are read everywhere else.
Nothing of this can be mistaken for a text without digits.

* `Underscored` — digits with underscores among them;
* `UintSpelling`, `IntSpelling` — the spellings of integers without blanks, and
  `Padded` — a text with blanks around it;
* `UintSpelling.readUnsigned_eq`, `IntSpelling.readSigned_eq` — what they are read as;
* `integers_shown_in_every_spelling` — what they are shown as.
-/

namespace CallTree

open Text

/-! ## Spellings -/

/-- The digits of a number in a base, with underscores anywhere among them. -/
def Underscored (base n : Nat) (s : List Char) : Prop :=
  Numeral base n (s.filter (· != '_'))

/-- The marks that choose a base; decimal digits have none. -/
def Word.marks : List (List Char × Nat) :=
  [([], 10), (['0', 'x'], 16), (['0', 'X'], 16), (['0', 'o'], 8), (['0', 'O'], 8),
    (['0', 'b'], 2), (['0', 'B'], 2)]

/-- The spellings of an unsigned integer, without blanks. -/
inductive UintSpelling (n : Nat) : List Char → Prop where
  | marked {mark digits : List Char} {base : Nat} (hmark : (mark, base) ∈ Word.marks)
      (written : Underscored base n digits) : UintSpelling n (mark ++ digits)

/-- The decimal spellings of a signed integer, without blanks. -/
inductive IntSpelling (i : Int) : List Char → Prop where
  | unsigned {n : Nat} {digits : List Char} (value : i = n) (written : Underscored 10 n digits) :
      IntSpelling i digits
  | plus {n : Nat} {digits : List Char} (value : i = n) (written : Underscored 10 n digits) :
      IntSpelling i ('+' :: digits)
  | minus {n : Nat} {digits : List Char} (value : i = -n) (written : Underscored 10 n digits) :
      IntSpelling i ('-' :: digits)

/-- A text with blanks around it. -/
def Padded (body s : List Char) : Prop :=
  ∃ before after, (∀ c ∈ before, isBlank c = true) ∧ (∀ c ∈ after, isBlank c = true) ∧
    s = before ++ body ++ after

/-! ## Blanks -/

theorem padded_self (s : List Char) : Padded s s :=
  ⟨[], [], nofun, nofun, (List.append_nil s).symm⟩

/-- **What is trimmed off are the blanks around a text.** -/
theorem Padded.trim_eq {body s : List Char} (hpadded : Padded body s)
    (hsolid : ∀ c ∈ body, isBlank c = false) : trim s = body := by
  obtain ⟨before, after, hbefore, hafter, rfl⟩ := hpadded
  rw [trim_append_blanks hafter, trim_blanks_append hbefore, trim_of_solid hsolid]

/-! ## Digits and underscores -/

/-- **Underscores are passed over.** -/
theorem Word.readDigitsFrom_eq (base value : Nat) (s : List Char) :
    readDigitsFrom base value s = numberFrom base value (s.filter (· != '_')) := by
  induction s generalizing value with
  | nil => rfl
  | cons c s ih =>
      by_cases hc : c = '_'
      · subst hc
        rw [readDigitsFrom, if_pos rfl, ih]
        rfl
      · have hkept : (c != '_') = true := bne_iff_ne.mpr hc
        rw [readDigitsFrom, if_neg hc, List.filter_cons, if_pos hkept, numberFrom]
        cases digitIn? base c with
        | none => rfl
        | some d => exact ih (value * base + d)

theorem bases_of_mem_marks {mark : List Char} {base : Nat} (h : (mark, base) ∈ Word.marks) :
    1 < base ∧ base ≤ 16 := by
  have hall : ∀ marked ∈ Word.marks, 1 < marked.2 ∧ marked.2 ≤ 16 := by decide
  exact hall _ h

namespace Underscored

variable {base n : Nat} {digits : List Char}

/-- Digits without underscores. -/
theorem of_numeral (h : Numeral base n digits) (hlow : 1 < base) (hhigh : base ≤ 16) :
    Underscored base n digits := by
  have hdigits := h.exists_digitIn? hlow hhigh
  have hnone : digitIn? base '_' = none := rfl
  have hfilter : digits.filter (· != '_') = digits := by
    refine List.filter_eq_self.mpr fun c hc => bne_iff_ne.mpr ?_
    rintro rfl
    exact notMem_of_digits hdigits hnone hc
  rw [Underscored, hfilter]
  exact h

/-- Of a number there is at least one digit. -/
theorem ne_nil (h : Underscored base n digits) : digits ≠ [] := by
  rintro rfl
  exact Numeral.ne_nil h rfl

/-- There are only digits and underscores. -/
theorem notMem (h : Underscored base n digits) (hlow : 1 < base) (hhigh : base ≤ 16) {c : Char}
    (hc : digitIn? base c = none) (hbar : c ≠ '_') : c ∉ digits := by
  intro hmem
  have hdigits := Numeral.exists_digitIn? h hlow hhigh
  exact notMem_of_digits hdigits hc (List.mem_filter.mpr ⟨hmem, bne_iff_ne.mpr hbar⟩)

/-- Neither digits nor underscores are blank. -/
theorem solid (h : Underscored base n digits) (hlow : 1 < base) (hhigh : base ≤ 16) :
    ∀ c ∈ digits, isBlank c = false := by
  intro c hc
  by_cases hbar : c = '_'
  · rw [hbar]
    decide
  · have hkept : c ∈ digits.filter (· != '_') := List.mem_filter.mpr ⟨hc, bne_iff_ne.mpr hbar⟩
    obtain ⟨d, hd⟩ := Numeral.exists_digitIn? h hlow hhigh c hkept
    have hcode := code_of_digitIn? hd
    unfold isBlank
    simp
    omega

/-- **Digits are read as their number**, if it is a word. -/
theorem readDigits_eq (h : Underscored base n digits) (hlow : 1 < base) (hhigh : base ≤ 16) :
    Word.readDigits base digits = if n < Word.modulus then some n else none := by
  have hread : numberFrom base 0 (digits.filter (· != '_')) = some n :=
    Numeral.numberIn_eq h hlow hhigh
  rw [Word.readDigits, Word.readDigitsFrom_eq, hread]

end Underscored

/-! ## Marks and signs -/

namespace Word

theorem modulus_eq : modulus = 2 ^ 256 :=
  rfl

/-- A text that holds no letter of a mark begins with no mark. -/
theorem splitMark_of_notMem {s : List Char} (h : ∀ c ∈ "xXoObB".toList, c ∉ s) :
    splitMark s = (10, s) := by
  unfold splitMark
  split
  case h_7 => rfl
  all_goals exact absurd (List.mem_cons_of_mem _ List.mem_cons_self) (h _ (by decide))

theorem stripStart_of_notMem {s : List Char} (h : 'x' ∉ s) : stripStart ['0', 'x'] s = none := by
  cases hstrip : stripStart ['0', 'x'] s with
  | none => rfl
  | some rest =>
      rw [eq_append_of_stripStart hstrip] at h
      exact absurd (List.mem_cons_of_mem _ List.mem_cons_self) h

/-- **A mark chooses its base**, where only digits of the base and underscores come
after it. -/
theorem splitMark_append_of_notMem {mark digits : List Char} {base : Nat}
    (hmark : (mark, base) ∈ marks)
    (h : ∀ c, digitIn? base c = none → c ≠ '_' → c ∉ digits) :
    splitMark (mark ++ digits) = (base, digits) := by
  simp only [marks, List.mem_cons, Prod.mk.injEq, List.not_mem_nil, or_false] at hmark
  rcases hmark with ⟨rfl, rfl⟩ | ⟨rfl, rfl⟩ | ⟨rfl, rfl⟩ | ⟨rfl, rfl⟩ | ⟨rfl, rfl⟩ | ⟨rfl, rfl⟩ |
    ⟨rfl, rfl⟩
  case inl =>
    refine splitMark_of_notMem fun c hc => ?_
    have hletters : "xXoObB".toList.all fun c => (digitIn? 10 c).isNone && c != '_' := by decide
    have hletter := List.all_eq_true.mp hletters c hc
    rw [Bool.and_eq_true, Option.isNone_iff_eq_none, bne_iff_ne] at hletter
    exact h c hletter.1 hletter.2
  all_goals rfl

theorem splitMark_append {mark digits : List Char} {base n : Nat} (hmark : (mark, base) ∈ marks)
    (h : Underscored base n digits) : splitMark (mark ++ digits) = (base, digits) := by
  obtain ⟨hlow, hhigh⟩ := bases_of_mem_marks hmark
  exact splitMark_append_of_notMem hmark fun c => h.notMem hlow hhigh

/-- Digits do not begin with a sign. -/
theorem readDecimal_of_notMem {s : List Char} (hplus : '+' ∉ s) (hminus : '-' ∉ s) :
    readDecimal s = readDecimal.positive s := by
  unfold readDecimal
  split
  · exact absurd List.mem_cons_self hminus
  · exact absurd List.mem_cons_self hplus
  · rfl

end Word

/-- **Every spelling of an unsigned integer is read as it**, if it is a word. -/
theorem UintSpelling.readUnsigned_eq {n : Nat} {s : List Char} (h : UintSpelling n s) :
    Word.readUnsigned s = if n < Word.modulus then some n else none := by
  obtain ⟨hmark, written⟩ := h
  obtain ⟨hlow, hhigh⟩ := bases_of_mem_marks hmark
  rw [Word.readUnsigned, Word.splitMark_append hmark written]
  exact written.readDigits_eq hlow hhigh

/-- A number without a sign is read as it, if it is small enough. -/
theorem Underscored.positive_eq {n : Nat} {digits : List Char} (h : Underscored 10 n digits)
    (hn : n < 2 ^ 255) : Word.readDecimal.positive digits = some (n : Int) := by
  have hword : n < Word.modulus := Nat.lt_trans hn (by decide)
  rw [Word.readDecimal.positive, h.readDigits_eq (by decide) (by decide), if_pos hword]
  exact if_pos hn

/-- A spelling of a signed integer has no letter of a mark. -/
theorem IntSpelling.stripStart_eq {i : Int} {s : List Char} (h : IntSpelling i s) :
    stripStart ['0', 'x'] s = none := by
  cases h with
  | unsigned _ written =>
      exact Word.stripStart_of_notMem (written.notMem (by decide) (by decide) rfl (by decide))
  | plus _ _ => rfl
  | minus _ _ => rfl

/-- **Every spelling of a signed integer is read as it**, if it is in range. -/
theorem IntSpelling.readSigned_eq {i : Int} {s : List Char} (h : IntSpelling i s)
    (hlow : -2 ^ 255 ≤ i) (hhigh : i < 2 ^ 255) : Word.readSigned s = some i := by
  have hdecimal : Word.readDecimal s = some i := by
    cases h with
    | unsigned value written =>
        have hplus := written.notMem (by decide) (by decide) (c := '+') rfl (by decide)
        have hminus := written.notMem (by decide) (by decide) (c := '-') rfl (by decide)
        rw [Word.readDecimal_of_notMem hplus hminus, value]
        exact written.positive_eq (by omega)
    | plus value written =>
        rw [value]
        exact written.positive_eq (by omega)
    | @minus n digits value written =>
        have hn : n ≤ 2 ^ 255 := by omega
        have hread : Word.readDigits 10 digits = some n := by
          rw [written.readDigits_eq (by decide) (by decide)]
          exact if_pos (Nat.lt_of_le_of_lt hn (by decide))
        simp only [Word.readDecimal, hread, value]
        exact if_pos hn
  simp only [Word.readSigned, h.stripStart_eq, hdecimal]

/-! ## Showing -/

namespace Token

/-- A text without blanks that is no mark alone, so there are digits to be read
in it. -/
structure IsNumberText (body : List Char) : Prop where
  ne_nil : body ≠ []
  ne_mark : body ≠ ['0', 'x']
  solid : ∀ c ∈ body, isBlank c = false

/-- The text of an integer is the one that the library writes. -/
theorem ofList_intText (i : Int) : String.ofList (Json.intText i) = i.repr := by
  cases i with
  | ofNat n => rfl
  | negSucc n =>
      have hnegative : Int.negSucc n < 0 := Int.negSucc_lt_zero n
      rw [← String.toList_inj]
      simp [Json.intText, Int.repr, hnegative]

section Padded

variable {body : List Char} {s : String}

/-- A text with digits is not mistaken for one without, whatever blanks are around
it. -/
theorem hasNoDigits_eq_false (hpadded : Padded body s.toList) (hbody : IsNumberText body) :
    hasNoDigits s = false := by
  rw [hasNoDigits, hpadded.trim_eq hbody.solid, List.isEmpty_eq_false_iff]
  cases hstrip : stripStart ['0', 'x'] body with
  | none => exact hbody.ne_nil
  | some rest =>
      rintro rfl
      exact hbody.ne_mark (eq_append_of_stripStart hstrip)

theorem displayUint_of_readUnsigned (hpadded : Padded body s.toList) (hbody : IsNumberText body)
    {n : Nat} (h : Word.readUnsigned body = some n) : displayUint (.text s) = n.repr := by
  simp only [displayUint, hasNoDigits_eq_false hpadded hbody,
    hpadded.trim_eq hbody.solid, h]
  exact ofList_intText n

theorem displayUint_of_unread (hpadded : Padded body s.toList) (hbody : IsNumberText body)
    (h : Word.readUnsigned body = none) : displayUint (.text s) = s := by
  simp only [displayUint, hasNoDigits_eq_false hpadded hbody,
    hpadded.trim_eq hbody.solid, h]
  rfl

theorem displayInt_of_readSigned (hpadded : Padded body s.toList) (hbody : IsNumberText body)
    {i : Int} (h : Word.readSigned body = some i) : displayInt (.text s) = i.repr := by
  simp only [displayInt, hasNoDigits_eq_false hpadded hbody,
    hpadded.trim_eq hbody.solid, h]
  exact ofList_intText i

end Padded

/-- Every spelling of an unsigned integer has digits to be read. -/
theorem isNumberText_of_uintSpelling {n : Nat} {body : List Char} (h : UintSpelling n body) :
    IsNumberText body := by
  obtain ⟨hmark, written⟩ := h
  obtain ⟨hlow, hhigh⟩ := bases_of_mem_marks hmark
  constructor
  case ne_nil => exact fun hnil => written.ne_nil (List.append_eq_nil_iff.mp hnil).2
  case ne_mark =>
    intro heq
    have hsplit := Word.splitMark_append hmark written
    rw [heq] at hsplit
    exact written.ne_nil (congrArg Prod.snd hsplit).symm
  case solid =>
    have hmarks : ∀ marked ∈ Word.marks, marked.1.all (!isBlank ·) := by decide
    intro c hc
    rcases List.mem_append.mp hc with hc | hc
    · simpa using List.all_eq_true.mp (hmarks _ hmark) c hc
    · exact written.solid hlow hhigh c hc

theorem isNumberText_of_intSpelling {i : Int} {body : List Char} (h : IntSpelling i body) :
    IsNumberText body := by
  have hmark : body ≠ ['0', 'x'] := by
    rintro rfl
    cases h.stripStart_eq
  have hsigned {sign : Char} {n : Nat} {digits : List Char} (written : Underscored 10 n digits)
      (hsign : isBlank sign = false) : ∀ c ∈ sign :: digits, isBlank c = false :=
    List.forall_mem_cons.mpr ⟨hsign, written.solid (by decide) (by decide)⟩
  cases h with
  | unsigned _ written => exact ⟨written.ne_nil, hmark, written.solid (by decide) (by decide)⟩
  | plus _ written => exact ⟨List.cons_ne_nil _ _, hmark, hsigned written rfl⟩
  | minus _ written => exact ⟨List.cons_ne_nil _ _, hmark, hsigned written rfl⟩

/-- **An integer is shown in decimal, whatever its spelling.**  An unsigned integer
may be spelled in any base, with blanks around it, and is shown as it is spelled
only where it is no word of 256 bits; a signed one in range may be spelled in
decimal, with or without a sign. -/
theorem integers_shown_in_every_spelling :
    (∀ (n : Nat) (body : List Char) (s : String), UintSpelling n body → Padded body s.toList →
      (n < 2 ^ 256 → display (.uint (.text s)) = n.repr) ∧
        (2 ^ 256 ≤ n → display (.uint (.text s)) = s)) ∧
    ∀ (i : Int) (body : List Char) (s : String), IntSpelling i body → Padded body s.toList →
      -2 ^ 255 ≤ i → i < 2 ^ 255 → display (.int (.text s)) = i.repr := by
  constructor
  · intro n body s hspelling hpadded
    have hbody := isNumberText_of_uintSpelling hspelling
    have hread := hspelling.readUnsigned_eq
    rw [Word.modulus_eq] at hread
    rw [display]
    constructor
    · intro hn
      rw [if_pos hn] at hread
      exact displayUint_of_readUnsigned hpadded hbody hread
    · intro hn
      rw [if_neg (Nat.not_lt.mpr hn)] at hread
      exact displayUint_of_unread hpadded hbody hread
  · intro i body s hspelling hpadded hlow hhigh
    rw [display]
    exact displayInt_of_readSigned hpadded (isNumberText_of_intSpelling hspelling)
      (hspelling.readSigned_eq hlow hhigh)

theorem integers_shown_in_every_spelling_sample :
    display (.uint (.text "\u2003 0X_00fF_ ")) = "255" ∧
      display (.int (.text "-_5\n")) = "-5" := by
  have hmark : (['0', 'X'], 16) ∈ Word.marks := by decide
  have hletters : SameLetters ['0', '0', 'f', 'F'] ['0', '0', 'f', 'f'] := by decide
  have hhex : Underscored 16 255 ['_', '0', '0', 'f', 'F', '_'] := ⟨2, hletters⟩
  have hdecimal : Underscored 10 5 ['_', '5'] := ⟨0, by decide⟩
  constructor
  · exact (integers_shown_in_every_spelling.1 255 _ _ (.marked hmark hhex)
      ⟨['\u2003', ' '], [' '], List.all_eq_true.mp rfl, List.all_eq_true.mp rfl, rfl⟩).1
      (by decide)
  · exact integers_shown_in_every_spelling.2 (-5) _ _ (.minus rfl hdecimal)
      ⟨[], ['\n'], nofun, List.all_eq_true.mp rfl, rfl⟩ (by decide) (by decide)

end Token

end CallTree
