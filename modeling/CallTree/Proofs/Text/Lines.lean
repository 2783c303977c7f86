import CallTree.Text.Blank
import CallTree.Proofs.Text.Splitting
import Mathlib.Data.List.DropRight
import Mathlib.Data.List.Infix

/-!
# Lines and blanks

A line ends with a line feed, with or without a carriage return before it; what comes
after the last line feed is a line as well, unless it is empty.  A carriage return is
blank, so once they are trimmed the lines are the pieces between line feeds, and at most
an empty piece at the end is no line.

* `contains_iff` — what `contains` finds stands somewhere in the text;
* `trim_trim`, `trim_blanks_append`, `trim_append_blanks`, `trim_of_solid` — trimming
  again, trimming blanks at either end, and trimming a text without blanks;
* `segments_of_notMem` — a text without the separator is one piece;
* `find?_trimmed_lines` — the first line that passes a test, trimmed.
-/

namespace CallTree.Text

theorem contains_iff {part s : List Char} : contains part s = true ↔ part <:+: s := by
  induction s with
  | nil => rw [contains, List.isEmpty_iff, List.infix_nil]
  | cons c rest ih =>
      rw [contains, Bool.or_eq_true, List.isPrefixOf_iff_prefix, ih, List.infix_cons_iff]

/-! ## Blanks -/

theorem trim_eq_rdropWhile (s : List Char) :
    trim s = (s.dropWhile isBlank).rdropWhile isBlank :=
  rfl

theorem trim_sublist (s : List Char) : (trim s).Sublist s :=
  (List.rdropWhile_prefix isBlank _).sublist.trans (List.dropWhile_sublist isBlank)

/-- **A trimmed text is not trimmed again.** -/
theorem trim_trim (s : List Char) : trim (trim s) = trim s := by
  have hstart : (trim s).dropWhile isBlank = trim s := by
    rw [List.dropWhile_eq_self_iff]
    intro hpos
    -- what is left begins as the text without the blanks at its start
    have hpre : trim s <+: s.dropWhile isBlank := List.rdropWhile_prefix isBlank _
    rw [hpre.getElem hpos]
    exact List.dropWhile_get_zero_not isBlank s (Nat.lt_of_lt_of_le hpos hpre.length_le)
  rw [trim_eq_rdropWhile (trim s), hstart, trim_eq_rdropWhile, List.rdropWhile_idempotent]

/-- Blanks at the start are trimmed off. -/
theorem trim_blanks_append {before : List Char} (hbefore : ∀ c ∈ before, isBlank c = true)
    (s : List Char) : trim (before ++ s) = trim s := by
  rw [trim, trimStart, List.dropWhile_append_of_pos hbefore]
  rfl

/-- Blanks at the end are trimmed off. -/
theorem trim_append_blanks {after : List Char} (hafter : ∀ c ∈ after, isBlank c = true)
    (s : List Char) : trim (s ++ after) = trim s := by
  rw [trim_eq_rdropWhile, trim_eq_rdropWhile, List.dropWhile_append]
  split
  · rename_i hblank
    rw [List.isEmpty_iff.mp hblank, List.dropWhile_eq_nil_iff.mpr hafter]
  · rw [List.rdropWhile, List.rdropWhile, List.reverse_append,
      List.dropWhile_append_of_pos fun c hc => hafter c (List.mem_reverse.mp hc)]

/-- A text without blanks is left as it is. -/
theorem trim_of_solid {s : List Char} (h : ∀ c ∈ s, isBlank c = false) : trim s = s := by
  have hstart : s.dropWhile isBlank = s := by
    rw [List.dropWhile_eq_self_iff]
    intro hpos
    simp [h _ (List.getElem_mem hpos)]
  rw [trim_eq_rdropWhile, hstart, List.rdropWhile_eq_self_iff]
  intro hne
  simp [h _ (List.getLast_mem hne)]

/-! ## Lines -/

/-- What stands before a line feed, without a carriage return at its end. -/
def dropReturn (line : List Char) : List Char :=
  if line.getLast? = some '\r' then line.dropLast else line

/-- The lines of a text, without the ends of lines. -/
def lines (s : List Char) : List (List Char) :=
  (segments '\n' s).dropLast.map dropReturn ++ (segments '\n' s).getLast?.toList.filter (· ≠ [])

example : lines "a\r\nb\r\n\r".toList = [['a'], ['b'], ['\r']] := by decide

/-- A text without the separator is one piece. -/
theorem segments_of_notMem {sep : Char} {s : List Char} (h : sep ∉ s) : segments sep s = [s] := by
  induction s with
  | nil => rfl
  | cons c rest ih =>
      have hc : c ≠ sep := fun heq => h (heq ▸ List.mem_cons_self)
      have hrest : sep ∉ rest := fun hmem => h (List.mem_cons_of_mem c hmem)
      rw [segments, if_neg hc, ih hrest]

theorem trim_dropReturn (line : List Char) : trim (dropReturn line) = trim line := by
  rw [dropReturn]
  split
  · rename_i hlast
    have hreturn : ∀ c ∈ ['\r'], isBlank c = true := List.all_eq_true.mp rfl
    rw [← trim_append_blanks hreturn line.dropLast, List.dropLast_append_getLast? '\r' hlast]
  · rfl

/-- **The first line that passes a test, trimmed,** is the first such piece between line
feeds, for a test that an empty line does not pass. -/
theorem find?_trimmed_lines {test : List Char → Bool} (hempty : test [] = false)
    (s : List Char) :
    ((lines s).map trim).find? test = ((segments '\n' s).map trim).find? test := by
  obtain ⟨front, last, hpieces⟩ :=
    (List.eq_nil_or_concat (segments '\n' s)).resolve_left (segments_ne_nil '\n' s)
  have hfront : (front.map dropReturn).map trim = front.map trim := by
    rw [List.map_map]
    exact List.map_congr_left fun line _ => trim_dropReturn line
  have hlast : (([last].filter (· ≠ [])).map trim).find? test = ([last].map trim).find? test := by
    by_cases hnil : last = []
    · subst hnil
      simp [show trim [] = [] from rfl, hempty]
    · simp [hnil]
  rw [lines, hpieces, List.concat_eq_append, List.dropLast_concat, List.getLast?_concat,
    Option.toList_some, List.map_append, List.map_append, List.find?_append, List.find?_append,
    hfront, hlast]

end CallTree.Text
