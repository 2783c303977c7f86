import CallTree.Json.Printer
import CallTree.Json.Reader
import CallTree.Proofs.Text.Numerals

/-!
# Strings of JSON text read back

Every character is written as itself or as an escape of its own, and the reader
takes what is written for one character back to that character.  The quote that
ends a string is never written inside of it, so a string ends where its writer
ended it.

* `stringBody_escapedChar` — what is written for a character reads as it;
* `string_stringText` — a written string reads back.
-/

namespace CallTree.Json

/-- The escape by number of a control character reads as the character. -/
theorem numberedEscape_control {n : Nat} (h : n < 0x20) (rest : List Char) :
    numberedEscape ('0' :: '0' :: hexDigit (n / 16) :: hexDigit (n % 16) :: rest) =
      .ok (Char.ofNat n, 4) := by
  have hzero : Text.digitIn? 16 '0' = some 0 := rfl
  have hhigh : Text.digitIn? 16 (hexDigit (n / 16)) = some (n / 16) :=
    Text.digitIn?_digitChar (by decide) (by omega)
  have hlow : Text.digitIn? 16 (hexDigit (n % 16)) = some (n % 16) :=
    Text.digitIn?_digitChar (by decide) (by omega)
  have hvalue : ((0 * 16 + 0) * 16 + n / 16) * 16 + n % 16 = n := by omega
  have hread : fourHexDigits
      ('0' :: '0' :: hexDigit (n / 16) :: hexDigit (n % 16) :: rest) = .ok n := by
    simp only [fourHexDigits, hzero, hhigh, hlow, hvalue]
  have hbelow : ¬ (0xDC00 ≤ n ∧ n ≤ 0xDFFF) := by omega
  have hplain : n < 0xD800 ∨ 0xDBFF < n := Or.inl (by omega)
  simp [numberedEscape, hread, hbelow, hplain, bind, Except.bind]

/-- An escape reads as its character, with the text after it. -/
theorem stringBody_escape {s : List Char} {c : Char} {taken : Nat}
    (h : escape s = .ok (c, taken)) :
    stringBody ('\\' :: s) =
      (stringBody (s.drop taken)).map fun (cs, rest) => (c :: cs, rest) := by
  rw [stringBody, h]

/-- An escape of one letter reads as its character. -/
theorem stringBody_letter {letter c : Char} (h : ∀ s, escape (letter :: s) = .ok (c, 1))
    (s : List Char) :
    stringBody ('\\' :: letter :: s) = (stringBody s).map fun (cs, rest) => (c :: cs, rest) :=
  stringBody_escape (h s)

/-- **What is written for a character reads as it.** -/
theorem stringBody_escapedChar (c : Char) (s : List Char) :
    stringBody (escapedChar c ++ s) =
      (stringBody s).map fun (cs, rest) => (c :: cs, rest) := by
  unfold escapedChar
  split
  case h_8 hquote hbackslash _ _ _ _ _ =>
    split
    · rename_i hcontrol
      have hread : escape ('u' :: '0' :: '0' :: hexDigit (c.toNat / 16) ::
          hexDigit (c.toNat % 16) :: s) = .ok (c, 5) := by
        rw [escape, numberedEscape_control hcontrol, Char.ofNat_toNat]
        rfl
      exact stringBody_escape hread
    · rename_i hplain
      rw [List.singleton_append, stringBody]
      · rw [if_neg hplain]
      · exact hquote
      · exact hbackslash
  all_goals exact stringBody_letter (fun _ => rfl) s

/-- The characters of a string read back, up to the quote after them. -/
theorem stringBody_flatMap (s rest : List Char) :
    stringBody (s.flatMap escapedChar ++ '"' :: rest) = .ok (s, rest) := by
  induction s with
  | nil => simp [stringBody]
  | cons c s ih =>
      rw [List.flatMap_cons, List.append_assoc, stringBody_escapedChar, ih]
      rfl

/-- **A written string reads back**, after its opening quote. -/
theorem string_stringText (s : String) :
    ∃ body, stringText s = '"' :: body ∧ ∀ rest, string (body ++ rest) = .ok (s, rest) := by
  refine ⟨s.toList.flatMap escapedChar ++ ['"'], rfl, fun rest => ?_⟩
  rw [string, List.append_assoc, List.singleton_append, stringBody_flatMap]
  simp [Except.map]

end CallTree.Json
