import CallTree.Files.Basic

/-!
# Directories that stay

A file that is written takes no place of a directory, so every path that led
somewhere still leads there, and directories that were made are found again:
making them a second time changes nothing.

* `KeepsDirectories.follow` — paths still lead to their places;
* `makeDirs_again` — directories that were made stay made;
* `Holds.write` — what is written at a path is read there, and can be written
  again.
-/

namespace CallTree.Files

variable {files later : Files} {place dest : Place} {path : String} {names : List String}

theorem isAbove_eq_false_of_at? (h : files.at? place ≠ some .directory) :
    isAbove place = false := by
  cases habove : isAbove place with
  | false => rfl
  | true => exact absurd (if_pos habove) h

/-- What was put at a place is there, unless the place is a directory for good. -/
theorem at?_put_self (h : files.at? place ≠ some .directory) (file : File) :
    (files.put place file).at? place = some file := by
  rw [at?, isAbove_eq_false_of_at? h, if_neg Bool.false_ne_true]
  exact KeyMap.get?_insert_self files.entries (key place) file

/-- Every directory is still a directory. -/
def KeepsDirectories (files later : Files) : Prop :=
  ∀ place, files.at? place = some .directory → later.at? place = some .directory

theorem KeepsDirectories.refl (files : Files) : files.KeepsDirectories files :=
  fun _ h => h

theorem KeepsDirectories.trans {after : Files} (h : files.KeepsDirectories later)
    (h' : later.KeepsDirectories after) : files.KeepsDirectories after :=
  fun place hat => h' place (h place hat)

/-- A file that takes no place of a directory keeps them all. -/
theorem keepsDirectories_put (h : files.at? place ≠ some .directory) (file : File) :
    files.KeepsDirectories (files.put place file) := by
  intro other hother
  by_cases habove : isAbove other = true
  · exact if_pos habove
  · have hdifferent : key other ≠ key place := by
      intro heq
      rw [at?, if_neg habove, heq] at hother
      rw [at?, isAbove_eq_false_of_at? h, if_neg Bool.false_ne_true] at h
      exact h hother
    rw [at?, if_neg habove] at hother ⊢
    exact (KeyMap.get?_insert_of_ne files.entries hdifferent file).trans hother

/-! ## Paths -/

theorem follow_nil (place : Place) : files.follow place [] = .ok place := rfl

/-- Names are followed one after the other. -/
theorem follow_append (place : Place) (names more : List String) :
    files.follow place (names ++ more) =
      (files.follow place names).bind fun dest => files.follow dest more := by
  induction names generalizing place with
  | nil => rfl
  | cons name names ih =>
      rw [List.cons_append, follow, follow]
      split
      · split
        · rfl
        · exact ih (enter place name)
      · rfl
      · rfl

/-- A name is followed from a directory, if it is no longer than names may be. -/
theorem follow_cons_iff {name : String} :
    files.follow place (name :: names) = .ok dest ↔
      files.at? place = some .directory ∧ ¬ name.utf8ByteSize > maxNameLength ∧
        files.follow (enter place name) names = .ok dest := by
  cases hat : files.at? place with
  | none => simp [follow, hat]
  | some file =>
      cases file with
      | directory =>
          by_cases hlong : name.utf8ByteSize > maxNameLength
          · simp [follow, hat, hlong]
          · simp [follow, hat, hlong]
      | text content => simp [follow, hat]
      | binary bytes => simp [follow, hat]

/-- **Names still lead to the place that they led to.** -/
theorem KeepsDirectories.follow (hkeeps : files.KeepsDirectories later)
    (h : files.follow place names = .ok dest) : later.follow place names = .ok dest := by
  induction names generalizing place with
  | nil => exact h
  | cons name names ih =>
      obtain ⟨hat, hlong, h⟩ := follow_cons_iff.mp h
      exact follow_cons_iff.mpr ⟨hkeeps place hat, hlong, ih h⟩

theorem KeepsDirectories.locateBy (hkeeps : files.KeepsDirectories later)
    (h : files.locateBy path names = .ok dest) : later.locateBy path names = .ok dest := by
  unfold Files.locateBy at h ⊢
  split at h
  · cases h
  · split at h
    · cases h
    · split at h
      · cases h
      · rename_i hzero hempty hlong
        rw [if_neg hzero, if_neg hempty, if_neg hlong]
        exact hkeeps.follow h

/-- **A path still leads to the place that it led to.** -/
theorem KeepsDirectories.locate (hkeeps : files.KeepsDirectories later)
    (h : files.locate path = .ok dest) : later.locate path = .ok dest :=
  hkeeps.locateBy h

theorem look_eq_directory_iff :
    files.look path = some .directory ↔
      ∃ place, files.locate path = .ok place ∧ files.at? place = some .directory := by
  unfold look
  cases files.locate path with
  | error e => simp
  | ok place => simp

theorem KeepsDirectories.look (hkeeps : files.KeepsDirectories later)
    (h : files.look path = some .directory) : later.look path = some .directory := by
  obtain ⟨place, hlocate, hat⟩ := look_eq_directory_iff.mp h
  exact look_eq_directory_iff.mpr ⟨place, hkeeps.locate hlocate, hkeeps place hat⟩

/-! ## Making directories -/

theorem locateBy_append (path : String) (names more : List String) :
    files.locateBy path (names ++ more) =
      (files.locateBy path names).bind fun dest => files.follow dest more := by
  unfold locateBy
  split
  · rfl
  · split
    · rfl
    · split
      · rfl
      · exact follow_append _ names more

/-- The last name of a path, and the names before it. -/
theorem exists_pieces_reverse (path : String) :
    ∃ name rest, (Path.pieces path).reverse = name :: rest ∧
      Path.pieces path = rest.reverse ++ [name] := by
  cases hpieces : (Path.pieces path).reverse with
  | nil =>
      have hnil : Path.pieces path = [] := List.reverse_eq_nil_iff.mp hpieces
      exact absurd (List.map_eq_nil_iff.mp hnil) (Text.segments_ne_nil '/' path.toList)
  | cons name rest =>
      refine ⟨name, rest, rfl, ?_⟩
      rw [← List.reverse_reverse (Path.pieces path), hpieces, List.reverse_cons]

/-- A path that leads somewhere leads first to what is above that. -/
theorem locate_eq_ok_iff {name : String} {rest : List String}
    (hpieces : Path.pieces path = rest.reverse ++ [name]) :
    files.locate path = .ok dest ↔
      ∃ above, files.locateBy path rest.reverse = .ok above ∧
        files.at? above = some .directory ∧ ¬ name.utf8ByteSize > maxNameLength ∧
          enter above name = dest := by
  rw [locate, hpieces, locateBy_append]
  cases files.locateBy path rest.reverse with
  | error e => simp [Except.bind]
  | ok above => simp [Except.bind, follow_cons_iff, follow_nil]

/-- A directory that is there cannot be made. -/
theorem makeDir_of_look (h : files.look path = some .directory) :
    files.makeDir path = .error .alreadyExists := by
  obtain ⟨name, rest, hreverse, hpieces⟩ := exists_pieces_reverse path
  obtain ⟨place, hlocate, hat⟩ := look_eq_directory_iff.mp h
  obtain ⟨above, habove, hdirectory, hlong, rfl⟩ := (locate_eq_ok_iff hpieces).mp hlocate
  simp [makeDir, hreverse, habove, hdirectory, hlong, hat, bind, Except.bind]

/-- A directory that was made is there, and the others still are. -/
theorem look_of_makeDir (h : files.makeDir path = .ok later) :
    later.look path = some .directory ∧ files.KeepsDirectories later := by
  obtain ⟨name, rest, hreverse, hpieces⟩ := exists_pieces_reverse path
  unfold makeDir at h
  rw [hreverse] at h
  dsimp only at h
  cases habove : files.locateBy path rest.reverse with
  | error e =>
      rw [habove] at h
      cases h
  | ok above =>
      rw [habove] at h
      simp only [bind, Except.bind] at h
      split at h
      · cases h
      · rename_i hdirectory
        split at h
        · cases h
        · rename_i hlong
          split at h
          · cases h
          · rename_i hfree
            cases h
            have hnone : files.at? (enter above name) ≠ some .directory := by
              intro hat
              rw [hat] at hfree
              exact hfree rfl
            have hkeeps := keepsDirectories_put hnone .directory
            have hlocate := (locate_eq_ok_iff hpieces).mpr
              ⟨above, hkeeps.locateBy habove, hkeeps above hdirectory, hlong, rfl⟩
            exact ⟨look_eq_directory_iff.mpr ⟨_, hlocate, at?_put_self hnone .directory⟩, hkeeps⟩
      · cases h

/-- A directory that was made sure of is there, and the others still are. -/
theorem look_of_ensureDir (h : files.ensureDir path = (.ok (), later)) :
    later.look path = some .directory ∧ files.KeepsDirectories later := by
  unfold ensureDir at h
  split at h
  · rename_i hmade
    cases h
    exact look_of_makeDir hmade
  · obtain ⟨hresult, rfl⟩ := Prod.mk.inj h
    split at hresult
    · rename_i hlook
      exact ⟨hlook, .refl files⟩
    · cases hresult

/-- Making directories one around the other keeps those that are there. -/
theorem keepsDirectories_makeNested {paths : List String}
    (h : files.makeNested paths = (.ok (), later)) : files.KeepsDirectories later := by
  induction paths generalizing later with
  | nil =>
      cases h
      exact .refl files
  | cons path above ih =>
      rw [makeNested] at h
      split at h
      · split at h
        · rename_i habove
          exact (ih habove).trans (look_of_ensureDir h).2
        · rename_i hfailed
          exact absurd h (hfailed later)
      · exact (look_of_ensureDir h).2

/-- The innermost of directories that were made is there. -/
theorem look_of_makeNested {above : List String}
    (h : files.makeNested (path :: above) = (.ok (), later)) :
    later.look path = some .directory := by
  rw [makeNested] at h
  split at h
  · split at h
    · exact (look_of_ensureDir h).1
    · rename_i hfailed
      exact absurd h (hfailed later)
  · exact (look_of_ensureDir h).1

/-- Directories of which the innermost is there are there already. -/
theorem makeNested_of_look {above : List String} (h : files.look path = some .directory) :
    files.makeNested (path :: above) = (.ok (), files) := by
  have hmake := makeDir_of_look h
  rw [makeNested, hmake]
  simp only [ensureDir, hmake, if_pos h]

/-- **Directories that were made stay made**: to make them again changes nothing. -/
theorem makeDirs_again {after : Files} (h : files.makeDirs path = (.ok (), later))
    (hkeeps : later.KeepsDirectories after) : after.makeDirs path = (.ok (), after) := by
  unfold makeDirs at h ⊢
  cases hnest : Path.nest path with
  | nil => rfl
  | cons inner above =>
      rw [hnest] at h
      exact makeNested_of_look (hkeeps.look (look_of_makeNested h))

/-! ## Writing and reading -/

/-- A path at which a text stands, and nothing forbids to write there. -/
structure Holds (files : Files) (path content : String) : Prop where
  plain : path.toList.getLast? ≠ some '/'
  stands : ∃ place, files.locate path = .ok place ∧ files.at? place = some (.text content)

/-- **A text can be written** where no directory stands and the path does not ask
for one. -/
theorem write_eq_ok_iff {content : String} :
    files.write path content = .ok later ↔
      path.toList.getLast? ≠ some '/' ∧ ∃ place, files.locate path = .ok place ∧
        files.at? place ≠ some .directory ∧ files.put place (.text content) = later := by
  unfold write
  by_cases hslash : path.toList.getLast? = some '/'
  · rw [if_pos hslash]
    cases files.locateBy path (namesAbove path) <;> simp [bind, Except.bind, hslash]
  · rw [if_neg hslash]
    cases files.locate path with
    | error e => simp [bind, Except.bind]
    | ok place =>
        cases hat : files.at? place with
        | none => simp [bind, Except.bind, hslash, hat]
        | some file => cases file <;> simp [bind, Except.bind, hslash, hat]

/-- Where one text can be written every text can be. -/
theorem exists_write_of_write {content : String} (h : files.write path content = .ok later)
    (next : String) : ∃ after, files.write path next = .ok after := by
  obtain ⟨hslash, place, hlocate, hfree, _⟩ := write_eq_ok_iff.mp h
  exact ⟨_, write_eq_ok_iff.mpr ⟨hslash, place, hlocate, hfree, rfl⟩⟩

/-- Nothing is written where a directory stands. -/
theorem look_ne_of_write {content : String} (h : files.write path content = .ok later) :
    files.look path ≠ some .directory := by
  obtain ⟨_, place, hlocate, hfree, _⟩ := write_eq_ok_iff.mp h
  intro hlook
  obtain ⟨place', hlocate', hat⟩ := look_eq_directory_iff.mp hlook
  rw [hlocate] at hlocate'
  cases hlocate'
  exact hfree hat

/-- **What was written at a path is there**, and all directories still are. -/
theorem holds_of_write {content : String} (h : files.write path content = .ok later) :
    later.Holds path content ∧ files.KeepsDirectories later := by
  obtain ⟨hslash, place, hlocate, hfree, rfl⟩ := write_eq_ok_iff.mp h
  have hkeeps := keepsDirectories_put hfree (.text content)
  exact ⟨⟨hslash, place, hkeeps.locate hlocate, at?_put_self hfree _⟩, hkeeps⟩

/-- Where a text stands another one can be written. -/
theorem Holds.exists_write {content : String} (h : files.Holds path content) (next : String) :
    ∃ later, files.write path next = .ok later := by
  obtain ⟨place, hlocate, hat⟩ := h.stands
  exact ⟨_, write_eq_ok_iff.mpr ⟨h.plain, place, hlocate, by simp [hat], rfl⟩⟩

theorem Holds.look {content : String} (h : files.Holds path content) :
    files.look path = some (.text content) := by
  obtain ⟨place, hlocate, hat⟩ := h.stands
  simp [Files.look, hlocate, hat]

theorem Holds.has {content : String} (h : files.Holds path content) : files.has path = true := by
  rw [Files.has, h.look]
  rfl

theorem Holds.read {content : String} (h : files.Holds path content) :
    files.read path = .ok content := by
  obtain ⟨place, hlocate, hat⟩ := h.stands
  simp [Files.read, hlocate, hat, bind, Except.bind]

end CallTree.Files
