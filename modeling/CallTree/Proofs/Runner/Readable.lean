import CallTree.Runner.ErrorPage
import CallTree.Proofs.Text.Lines

/-!
# What is shown of an error text

A text without the mark of a web page is shown as it is.  Of a web page the first text
line is shown, or the whole page if it has none.

The line that is shown may hold such a mark in its middle, so that it counts as a page
itself when it is looked at again.  But it is a single line that is already trimmed: as a
page it has that one line, which is a text line.  So looking again changes nothing.

* `isPage_iff`, `isTextLine_iff` — the two tests;
* `readable_of_firstTextLine`, `readable_of_no_textLine` — the outcomes for a page;
* `FirstTextLine.one_line` — what is shown of a page is one trimmed line;
* `readable_picks_textLine` — the four properties of what is shown.
-/

namespace CallTree.Runner

/-- Whether a text has one of the marks of a web page. -/
def HasMark (s : List Char) : Prop :=
  "<!doctype html>".toList <:+: s ∨ "<html>".toList <:+: s

/-- Whether a trimmed line is text to be read: neither empty nor a tag nor the name of
one. -/
structure TextLine (line : List Char) : Prop where
  nonempty : line ≠ []
  start : line.head? ≠ some '<'
  finish : line.getLast? ≠ some '>'
  not_html : line ≠ "html".toList
  not_body : line ≠ "body".toList

/-- Whether a line is the first text line of a text, trimmed. -/
def FirstTextLine (s line : List Char) : Prop :=
  TextLine line ∧ ∃ before after, (Text.lines s).map Text.trim = before ++ line :: after ∧
    ∀ other ∈ before, ¬ TextLine other

variable {s line : List Char}

theorem isPage_iff : isPage s = true ↔ HasMark s := by
  rw [isPage, Bool.or_eq_true, Text.contains_iff, Text.contains_iff, HasMark]

theorem isTextLine_iff : isTextLine line = true ↔ TextLine line := by
  simp only [isTextLine, Bool.and_eq_true, Bool.not_eq_true', List.isEmpty_eq_false_iff,
    bne_iff_ne]
  constructor
  · rintro ⟨⟨⟨⟨nonempty, start⟩, finish⟩, not_html⟩, not_body⟩
    exact ⟨nonempty, start, finish, not_html, not_body⟩
  · intro h
    exact ⟨⟨⟨⟨h.nonempty, h.start⟩, h.finish⟩, h.not_html⟩, h.not_body⟩

/-! ## The line that is found -/

/-- An empty line is no text line, so it does not matter that an empty piece after the
last line feed is no line. -/
theorem find?_trimmedLines (s : List Char) :
    (trimmedLines s).find? isTextLine = ((Text.lines s).map Text.trim).find? isTextLine :=
  (Text.find?_trimmed_lines rfl s).symm

theorem find?_trimmedLines_eq_some_iff :
    (trimmedLines s).find? isTextLine = some line ↔ FirstTextLine s line := by
  simp only [find?_trimmedLines, List.find?_eq_some_iff_append, isTextLine_iff,
    Bool.not_eq_true', ← Bool.not_eq_true, FirstTextLine]

theorem find?_trimmedLines_eq_none_iff :
    (trimmedLines s).find? isTextLine = none ↔
      ∀ line ∈ (Text.lines s).map Text.trim, ¬ TextLine line := by
  simp only [find?_trimmedLines, List.find?_eq_none, isTextLine_iff]

theorem readable_of_firstTextLine {text : String} (hmark : HasMark text.toList)
    (hfirst : FirstTextLine text.toList line) : readable text = String.ofList line := by
  rw [readable, if_pos (isPage_iff.mpr hmark), find?_trimmedLines_eq_some_iff.mpr hfirst]

theorem readable_of_no_textLine {text : String}
    (hnone : ∀ line ∈ (Text.lines text.toList).map Text.trim, ¬ TextLine line) :
    readable text = text := by
  rw [readable, find?_trimmedLines_eq_none_iff.mpr hnone, ite_self]

theorem readable_of_no_mark {text : String} (hmark : ¬ HasMark text.toList) :
    readable text = text := by
  rw [readable, if_neg (mt isPage_iff.mp hmark)]

/-- **A text line that is found is, taken as a text, one trimmed line.** -/
theorem FirstTextLine.one_line (h : FirstTextLine s line) : trimmedLines line = [line] := by
  obtain ⟨piece, hpiece, rfl⟩ :=
    List.mem_map.mp (List.mem_of_find?_eq_some (find?_trimmedLines_eq_some_iff.mpr h))
  have hbreak : '\n' ∉ Text.trim piece := fun hmem =>
    Text.notMem_of_mem_segments hpiece ((Text.trim_sublist piece).subset hmem)
  rw [trimmedLines, Text.segments_of_notMem hbreak, List.map_singleton, Text.trim_trim]

/-- What is found is found again, whether or not it counts as a page. -/
theorem FirstTextLine.readable_again (h : FirstTextLine s line) :
    readable (String.ofList line) = String.ofList line := by
  rw [readable, String.toList_ofList, h.one_line,
    List.find?_cons_of_pos (isTextLine_iff.mpr h.1), ite_self]

/-- **What is shown of a page** is its first text line, or the page if it has none. -/
theorem readable_of_mark {text : String} (hmark : HasMark text.toList) :
    (∃ line, FirstTextLine text.toList line ∧ readable text = String.ofList line) ∨
      (∀ line ∈ (Text.lines text.toList).map Text.trim, ¬ TextLine line) ∧ readable text = text := by
  cases hfind : (trimmedLines text.toList).find? isTextLine with
  | some line =>
      have hfirst := find?_trimmedLines_eq_some_iff.mp hfind
      exact .inl ⟨line, hfirst, readable_of_firstTextLine hmark hfirst⟩
  | none =>
      have hnone := find?_trimmedLines_eq_none_iff.mp hfind
      exact .inr ⟨hnone, readable_of_no_textLine hnone⟩

/-- What is shown is the text, or a line found in it. -/
theorem readable_cases (text : String) : readable text = text ∨
    ∃ line, FirstTextLine text.toList line ∧ readable text = String.ofList line := by
  by_cases hmark : HasMark text.toList
  · exact (readable_of_mark hmark).symm.imp_left And.right
  · exact .inl (readable_of_no_mark hmark)

/-- **An error text is shown as it is unless it is a web page.**  Of a page the first line
is shown that, trimmed, is neither empty nor a tag nor the name of one, or the whole page
if there is none.  What is shown is empty just for the empty text, and it would be shown
as it is. -/
theorem readable_picks_textLine (text : String) :
    (¬ HasMark text.toList → readable text = text) ∧
      (HasMark text.toList →
        (∃ line, FirstTextLine text.toList line ∧ readable text = String.ofList line) ∨
          (∀ line ∈ (Text.lines text.toList).map Text.trim, ¬ TextLine line) ∧
            readable text = text) ∧
      (readable text = "" ↔ text = "") ∧
      readable (readable text) = readable text := by
  refine ⟨readable_of_no_mark, readable_of_mark, ⟨fun hempty => ?_, ?_⟩, ?_⟩
  · rcases readable_cases text with hsame | ⟨line, hfirst, hline⟩
    · rw [← hsame, hempty]
    · have hnil : line = [] := String.ofList_eq_empty_iff.mp (hline.symm.trans hempty)
      exact absurd hnil hfirst.1.nonempty
  · rintro rfl
    rfl
  · rcases readable_cases text with hsame | ⟨line, hfirst, hline⟩
    · rw [hsame, hsame]
    · rw [hline, hfirst.readable_again]

/-- A page with returns at the ends of its lines, whose text line is a page itself. -/
theorem readable_picks_textLine_sample :
    HasMark "<html>\r\n<b>\r\n a <html> b \r\n</html>".toList ∧
      readable "<html>\r\n<b>\r\n a <html> b \r\n</html>" = "a <html> b" ∧
      HasMark "a <html> b".toList ∧ readable "a <html> b" = "a <html> b" := by
  have hpicked : readable "<html>\r\n<b>\r\n a <html> b \r\n</html>" = "a <html> b" := by
    decide +kernel
  obtain ⟨-, -, -, hagain⟩ :=
    readable_picks_textLine "<html>\r\n<b>\r\n a <html> b \r\n</html>"
  rw [hpicked] at hagain
  exact ⟨isPage_iff.mp (by decide +kernel), hpicked, isPage_iff.mp (by decide +kernel), hagain⟩

end CallTree.Runner
