import CallTree.Proofs.Files.Directories
import CallTree.Proofs.Text.Splitting

/-!
# Files beside the one that is written

Different places are kept under different texts, as no name in a place is empty
or has a slash.  So a file that is written at one place leaves what stands at every
other place, and as it makes no directory and takes the place of none, a path
leads where it led before.  What is seen at a path stays as it was unless the path
leads to the very place that was written.

* `Named` — the places that paths lead to;
* `key_injective` — they are kept apart;
* `SameFile` — two paths that lead to one place;
* `look_of_write` — what is seen at a path that does not lead to the file that was
  written.
-/

namespace CallTree.Files

variable {files later : Files} {place other dest : Place} {path : String} {names others : List String}

/-! ## Places that paths lead to -/

/-- Whether a name can stand in a place. -/
def PlainName (name : String) : Prop :=
  name ≠ "" ∧ '/' ∉ name.toList

/-- A place that a path can lead to: plain names, and at their end perhaps the
root. -/
inductive Named : Place → Prop where
  | inside {names : List String} (plain : ∀ name ∈ names, PlainName name) : Named names
  | outside {names : List String} (plain : ∀ name ∈ names, PlainName name) :
      Named (names ++ ["/"])

theorem Named.cons {name : String} (hname : PlainName name) (h : Named place) :
    Named (name :: place) := by
  cases h with
  | inside plain => exact .inside (List.forall_mem_cons.mpr ⟨hname, plain⟩)
  | outside plain => exact .outside (List.forall_mem_cons.mpr ⟨hname, plain⟩)

/-- What is left of a place without its innermost name, if that is not the root. -/
theorem Named.tail {above : String} {rest : Place} (h : Named (above :: rest))
    (hroot : above :: rest ≠ ["/"]) : Named rest := by
  generalize hplace : above :: rest = place at h hroot
  cases h with
  | inside plain =>
      subst hplace
      exact .inside (List.forall_mem_cons.mp plain).2
  | @outside names plain =>
      rcases names with _ | ⟨first, names⟩
      · exact absurd rfl hroot
      · obtain ⟨rfl, rfl⟩ := List.cons.inj hplace
        exact .outside (List.forall_mem_cons.mp plain).2

/-- A name of a path leads on from a place to another one. -/
theorem Named.enter (h : Named place) {name : String} (hslash : '/' ∉ name.toList) :
    Named (enter place name) := by
  unfold Files.enter
  split
  · exact h
  · rename_i hidle
    have hname : PlainName name := ⟨by grind, hslash⟩
    split
    · split
      · exact h
      · rename_i hroot
        split
        · exact h.cons hname
        · exact h.tail (by grind)
      · exact h.cons hname
    · exact h.cons hname

/-- Names without slashes lead from a place to another one. -/
theorem Named.follow (h : Named place) (hslash : ∀ name ∈ names, '/' ∉ name.toList)
    (hfollow : files.follow place names = .ok dest) : Named dest := by
  induction names generalizing place with
  | nil =>
      cases hfollow
      exact h
  | cons name names ih =>
      obtain ⟨hname, hnames⟩ := List.forall_mem_cons.mp hslash
      obtain ⟨_, _, hrest⟩ := follow_cons_iff.mp hfollow
      exact ih (h.enter hname) hnames hrest

/-- **A path leads to a place of names.** -/
theorem named_of_locate (h : files.locate path = .ok place) : Named place := by
  have hpieces : ∀ name ∈ Path.pieces path, '/' ∉ name.toList := by
    intro name hmem
    obtain ⟨piece, hpiece, rfl⟩ := List.mem_map.mp hmem
    rw [String.toList_ofList]
    exact Text.notMem_of_mem_segments hpiece
  unfold locate locateBy at h
  split at h
  · cases h
  · split at h
    · cases h
    · split at h
      · cases h
      · refine Named.follow ?_ hpieces h
        split
        · exact .outside (List.forall_mem_nil PlainName)
        · exact .inside nofun

/-! ## The texts of places -/

/-- The names of a place in the working directory are what stands between the
slashes of its text. -/
theorem splitOn_key (hplain : ∀ name ∈ names, PlainName name) :
    ((key names).toList.splitOn '/').filter (· ≠ []) = names.reverse.map String.toList := by
  by_cases hnil : names = []
  · subst hnil
    rfl
  · have hslash : ∀ piece ∈ names.reverse.map String.toList, '/' ∉ piece := by
      intro piece hmem
      obtain ⟨name, hname, rfl⟩ := List.mem_map.mp hmem
      exact (hplain name (List.mem_reverse.mp hname)).2
    have hsplit := List.splitOn_intercalate '/' hslash (by simpa using hnil)
    rw [key, String.toList_intercalate]
    refine (congrArg _ hsplit).trans (List.filter_eq_self.mpr fun piece hmem => ?_)
    obtain ⟨name, hname, rfl⟩ := List.mem_map.mp hmem
    have hempty := (hplain name (List.mem_reverse.mp hname)).1
    simpa using hempty

/-- The text of a place outside the working directory begins with slashes. -/
theorem key_outside (names : List String) :
    key (names ++ ["/"]) = if names = [] then "/" else "/" ++ ("/" ++ key names) := by
  rw [key, List.reverse_append, List.reverse_singleton, List.singleton_append]
  by_cases hnil : names = []
  · subst hnil
    rfl
  · have hreverse : names.reverse ≠ [] := fun h => hnil (List.reverse_eq_nil_iff.mp h)
    rw [String.intercalate_cons_of_ne_nil hreverse, if_neg hnil, String.append_assoc]
    rfl

/-- Those of a place outside stand between its slashes as well. -/
theorem splitOn_key_outside (hplain : ∀ name ∈ names, PlainName name) :
    ((key (names ++ ["/"])).toList.splitOn '/').filter (· ≠ []) =
      names.reverse.map String.toList := by
  rw [key_outside]
  split
  · rename_i hnil
    subst hnil
    rfl
  · have hslashes : ("/" ++ ("/" ++ key names)).toList.splitOn '/' =
        [] :: [] :: (key names).toList.splitOn '/' := by
      simp [List.splitOn, List.splitOnP_cons_eq_if_modifyHead]
    rw [hslashes]
    exact splitOn_key hplain

/-- The text of a place in the working directory does not begin with a slash. -/
theorem head?_key_ne (hplain : ∀ name ∈ names, PlainName name) :
    (key names).toList.head? ≠ some '/' := by
  rw [key, String.toList_intercalate]
  cases hreverse : names.reverse with
  | nil => simp
  | cons first rest =>
      have hmem : first ∈ names := List.mem_reverse.mp (hreverse ▸ List.mem_cons_self)
      obtain ⟨hempty, hslash⟩ := hplain first hmem
      obtain ⟨c, letters, hletters⟩ := List.exists_cons_of_ne_nil
        (fun hnil => hempty (String.toList_eq_nil_iff.mp hnil))
      have hc : c ≠ '/' := fun hc => hslash (by rw [hletters, hc]; exact List.mem_cons_self)
      cases rest with
      | nil => simp [hletters, hc]
      | cons second rest => simp [hletters, hc, List.intercalate_cons_cons]

/-- That of a place outside does. -/
theorem head?_key_outside (names : List String) :
    (key (names ++ ["/"])).toList.head? = some '/' := by
  rw [key_outside]
  split
  · rfl
  · rw [String.toList_append]
    rfl

theorem eq_of_map_toList (h : names.reverse.map String.toList = others.reverse.map String.toList) :
    names = others :=
  List.reverse_inj.mp ((List.map_inj_right fun _ _ => String.toList_inj.mp).mp h)

/-- **Different places are kept under different texts.** -/
theorem key_injective (hplace : Named place) (hother : Named other) (h : key place = key other) :
    place = other := by
  cases hplace with
  | inside plain =>
      cases hother with
      | inside plain' =>
          have hsplit := splitOn_key plain
          rw [h, splitOn_key plain'] at hsplit
          exact (eq_of_map_toList hsplit).symm
      | outside plain' => exact absurd (h ▸ head?_key_outside _) (head?_key_ne plain)
  | outside plain =>
      cases hother with
      | inside plain' => exact absurd (h ▸ head?_key_outside _) (head?_key_ne plain')
      | outside plain' =>
          have hsplit := splitOn_key_outside plain
          rw [h, splitOn_key_outside plain'] at hsplit
          rw [eq_of_map_toList hsplit]

/-! ## Writing beside a file -/

/-- Two paths that lead to one place. -/
def SameFile (files : Files) (path other : String) : Prop :=
  ∃ place, files.locate path = .ok place ∧ files.locate other = .ok place

/-- A text that is put somewhere makes no directory. -/
theorem keepsDirectories_of_put (files : Files) (place : Place) (content : String) :
    (files.put place (.text content)).KeepsDirectories files := by
  intro other hother
  by_cases habove : isAbove other = true
  · exact if_pos habove
  · by_cases hkey : key other = key place
    · rw [at?, if_neg habove, hkey, put, KeyMap.get?_insert_self] at hother
      cases hother
    · rw [at?, if_neg habove, put, KeyMap.get?_insert_of_ne _ hkey] at hother
      rw [at?, if_neg habove]
      exact hother

/-- What stands at another place stays as it is. -/
theorem at?_put_of_ne (hplace : Named place) (hother : Named other) (hne : other ≠ place)
    (file : File) : (files.put place file).at? other = files.at? other := by
  have hkey : key other ≠ key place := fun h => hne (key_injective hother hplace h)
  unfold at?
  rw [put, KeyMap.get?_insert_of_ne _ hkey]

/-- **What is seen at a path stays as it was** when a file is written, unless the
path leads to that file. -/
theorem look_of_write {content other : String} (h : files.write path content = .ok later)
    (hother : ¬ later.SameFile path other) : later.look other = files.look other := by
  obtain ⟨_, place, hlocate, hfree, rfl⟩ := write_eq_ok_iff.mp h
  have hkeeps := keepsDirectories_put hfree (.text content)
  have hkept := keepsDirectories_of_put files place content
  have hplace := hkeeps.locate hlocate
  unfold look
  cases hdest : (files.put place (.text content)).locate other with
  | ok dest =>
      have hne : dest ≠ place := fun heq => hother ⟨place, hplace, heq ▸ hdest⟩
      rw [hkept.locate hdest]
      exact at?_put_of_ne (named_of_locate hplace) (named_of_locate hdest) hne _
  | error e =>
      cases hbefore : files.locate other with
      | error e' => rfl
      | ok dest =>
          rw [hkeeps.locate hbefore] at hdest
          cases hdest

end CallTree.Files
