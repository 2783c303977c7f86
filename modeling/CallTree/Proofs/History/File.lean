import CallTree.History
import CallTree.Proofs.Files.Directories
import CallTree.Proofs.Json.RoundTrip

/-!
# The history file

The text of a history reads back as its entries, each under its label; the
integers of a trace come back as they are.  A history that was saved once can be
saved again at the same path, since the directories around the file stay, and
what is loaded from there is what was saved last.

* `entriesOfText_text` — the text of a history reads back;
* `Writable.exists_save` — a history can be saved where a text can be written;
* `stored_of_save` — a saved history stands in its file;
* `Stored.exists_save` — and can be saved again.
-/

namespace CallTree.History

open Json (Fits NumberInRange WholeNumber)

/-! ## The text of the file -/

/-- Entries that the reader of the file can take: nested one level less deep
than a whole text may be, with numbers in range. -/
def Storable (entries : KeyMap Json) : Prop :=
  ∀ entry ∈ entries.entries, Fits NumberInRange (Json.maxLevels - 1) entry.2

/-- The entries as they come back from the file. -/
def reread (entries : KeyMap Json) : KeyMap Json where
  entries := Json.mapNumbersOfFields Json.rereadNumber entries.entries
  increasing := by
    rw [Json.keysOf_mapNumbersOfFields]
    exact entries.increasing

theorem get?_reread (entries : KeyMap Json) (label : String) :
    (reread entries).get? label = (entries.get? label).map Json.reread :=
  Json.lookup_mapNumbersOfFields entries.entries label

/-- The text of a history is not blank. -/
theorem text_ne_blank (h : History) : (Text.trim h.text.toList).isEmpty = false := by
  have hbrace : ∃ body, h.text.toList = '{' :: body := by
    rw [text, Json.toList_indented]
    rcases h.entries.entries with _ | ⟨⟨key, item⟩, fields⟩
    · exact ⟨['}'], rfl⟩
    · exact ⟨_, by rw [Json.write]; rfl⟩
  obtain ⟨body, hbody⟩ := hbrace
  rw [hbody, List.isEmpty_eq_false_iff]
  exact Text.trim_ne_nil (by decide) body

/-- **The text of a history reads back.** -/
theorem entriesOfText_text {h : History} (hstorable : Storable h.entries) :
    entriesOfText h.text = .ok (reread h.entries) := by
  have hfits : Fits NumberInRange Json.maxLevels (.obj h.entries.entries) :=
    .obj h.entries.increasing hstorable
  have hread := Json.readObject_indented hfits
  rw [entriesOfText, text_ne_blank, if_neg Bool.false_ne_true, text, hread, Except.map]
  exact congrArg Except.ok (KeyMap.ofList_entries (reread h.entries))

/-- Entries without doubles come back as they are. -/
theorem reread_eq_self {entries : KeyMap Json}
    (h : ∀ entry ∈ entries.entries, entry.2.Numbers WholeNumber) : reread entries = entries := by
  refine KeyMap.eq_of_entries ?_
  change Json.mapNumbersOfFields Json.rereadNumber entries.entries = entries.entries
  rw [Json.mapNumbersOfFields_eq_map, List.map_congr_left (g := id), List.map_id]
  intro entry hmem
  exact Prod.ext rfl (Json.reread_eq_self (h entry hmem))

/-! ## The file -/

variable {files later : Files} {path content : String}

/-- The directory of the file is the one of its path. -/
theorem makeParent_iff {h : History} {parent : String} (hparent : Path.parent? h.path = some parent)
    (hnamed : parent ≠ "") :
    h.makeParent files = (.ok (), later) ↔ files.makeDirs parent = (.ok (), later) := by
  have hmade : h.makeParent files =
      ((files.makeDirs parent).1.mapError fun e =>
        .because ("failed to create " ++ parent) e.message, (files.makeDirs parent).2) := by
    simp [makeParent, hparent]
  rw [hmade]
  rcases files.makeDirs parent with ⟨made, middle⟩
  cases made <;> simp [Except.mapError]

/-- The file needs no directory, or that of its path. -/
theorem makeParent_cases (h : History) :
    (∀ files, h.makeParent files = (.ok (), files)) ∨
      ∃ parent, Path.parent? h.path = some parent ∧ parent ≠ "" := by
  by_cases hnone : ∃ parent, Path.parent? h.path = some parent ∧ parent ≠ ""
  · exact Or.inr hnone
  · refine Or.inl fun files => ?_
    unfold makeParent
    grind

/-- Making the directory of the file again changes nothing. -/
theorem makeParent_again {h : History} {after : Files}
    (hmade : h.makeParent files = (.ok (), later)) (hkeeps : later.KeepsDirectories after) :
    h.makeParent after = (.ok (), after) := by
  rcases h.makeParent_cases with hnone | ⟨parent, hparent, hnamed⟩
  · exact hnone after
  · rw [makeParent_iff hparent hnamed] at hmade ⊢
    exact Files.makeDirs_again hmade hkeeps

/-- Making the directory of the file leaves all directories where they are. -/
theorem keepsDirectories_makeParent {h : History} (hmade : h.makeParent files = (.ok (), later)) :
    files.KeepsDirectories later := by
  rcases h.makeParent_cases with hnone | ⟨parent, hparent, hnamed⟩
  · rw [hnone files] at hmade
    cases hmade
    exact .refl files
  · rw [makeParent_iff hparent hnamed] at hmade
    exact Files.keepsDirectories_makeNested hmade

/-- The text of a history in its file, which can be written again. -/
structure Stored (files : Files) (path content : String) : Prop where
  file : files.Holds path content
  parent : ∀ entries, (History.mk path entries).makeParent files = (.ok (), files)

/-- What is loaded from a file is what its text says. -/
theorem Stored.load (h : Stored files path content) {entries : KeyMap Json}
    (hread : entriesOfText content = .ok entries) :
    History.load files path = .ok ⟨path, entries⟩ := by
  rw [History.load, h.file.has, if_pos rfl, h.file.read]
  simp only [hread]

/-- **A saved history stands in its file.** -/
theorem stored_of_save {h : History} (hsave : h.save files = (.ok (), later)) :
    Stored later h.path h.text := by
  unfold save at hsave
  split at hsave
  · cases hsave
  · rename_i made hmade
    split at hsave
    · rename_i written hwrite
      cases hsave
      obtain ⟨hfile, hkeeps⟩ := Files.holds_of_write hwrite
      exact ⟨hfile, fun _ => makeParent_again hmade hkeeps⟩
    · cases hsave

/-- A path at which a history can be saved: the directory of the file is there or
can be made, and a text can then be written. -/
def Writable (files : Files) (path : String) : Prop :=
  ∃ made, (History.mk path KeyMap.empty).makeParent files = (.ok (), made) ∧
    ∃ later, made.write path "" = .ok later

/-- **At a writable path every history can be saved.** -/
theorem Writable.exists_save {h : History} (hwritable : Writable files h.path) :
    ∃ later, h.save files = (.ok (), later) := by
  obtain ⟨made, hmade, _, hwrite⟩ := hwritable
  obtain ⟨later, hlater⟩ := Files.exists_write_of_write hwrite h.text
  have hmade' : h.makeParent files = (.ok (), made) := hmade
  refine ⟨later, ?_⟩
  rw [save, hmade']
  simp only [hlater]

/-- **A history can be saved where one stands.** -/
theorem Stored.exists_save {h : History} (hstored : Stored files path content)
    (hpath : h.path = path) : ∃ later, h.save files = (.ok (), later) := by
  subst hpath
  obtain ⟨later, hwrite⟩ := hstored.file.exists_write h.text
  refine ⟨later, ?_⟩
  rw [save, hstored.parent h.entries]
  simp [hwrite]

end CallTree.History
