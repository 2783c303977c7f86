import CallTree.Proofs.Runner.Resolving

/-!
# How a catalog is listed

Sources are listed by their labels and tests by their names, whatever the case of the
letters.  Names that differ only in case are not told apart by that order, and the
order is stable: such names stay as they stood before.  The sources of a catalog stand
in the order of their full names, so these decide between labels that differ only in
case; the tests of a source stand as the runner lists them.

The removal of neighbours that are equal comes after the ordering and disturbs neither,
since names of one upper-case form stand together by then.

* `labelOf_eq_iff` — a label is what stands behind the last `/`;
* `perm_sources` — every full name is listed once;
* `pairwise_sources` — the order of the sources;
* `filter_testsFor` — the order of tests whose names differ only in case;
* `listings_complete_and_ordered` — sources and tests together.
-/

namespace CallTree.Runner

open scoped List
open Text (upper utf8 utf8_lt_utf8 utf8_le_utf8_iff)

/-! ## Labels -/

/-- The part of a text behind its last `/`, which is all of it where it has none. -/
inductive LastPart : (full label : String) → Prop
  | whole {label : String} (bare : '/' ∉ label.toList) : LastPart label label
  | behind (front : String) {label : String} (bare : '/' ∉ label.toList) :
      LastPart (front ++ "/" ++ label) label

theorem LastPart.labelOf_eq {full label : String} (h : LastPart full label) :
    labelOf full = label := by
  have hsolid (bare : '/' ∉ label.toList) :
      ∀ c ∈ label.toList.reverse, (c != '/') = true := by
    intro c hc
    rw [bne_iff_ne]
    rintro rfl
    exact bare (List.mem_reverse.mp hc)
  apply String.toList_inj.mp
  rw [labelOf, String.toList_ofList]
  cases h with
  | whole bare =>
      rw [List.takeWhile_eq_self_iff.mpr (hsolid bare), List.reverse_reverse]
  | behind front bare =>
      have hreverse : (front ++ "/" ++ label).toList.reverse =
          label.toList.reverse ++ '/' :: front.toList.reverse := by simp
      rw [hreverse, List.takeWhile_append_of_pos (hsolid bare), List.takeWhile_cons]
      simp

/-- Every text has a part behind its last `/`. -/
theorem lastPart_labelOf (full : String) : LastPart full (labelOf full) := by
  have hbare : '/' ∉ (labelOf full).toList := by
    intro hmem
    rw [labelOf, String.toList_ofList, List.mem_reverse] at hmem
    have hne := List.mem_takeWhile_imp hmem
    simp at hne
  have hparts := List.takeWhile_append_dropWhile (p := (· != '/')) (l := full.toList.reverse)
  cases hrest : full.toList.reverse.dropWhile (· != '/') with
  | nil =>
      have hwhole : labelOf full = full := by
        rw [hrest, List.append_nil] at hparts
        rw [labelOf, hparts, List.reverse_reverse, String.ofList_toList]
      have hlast := LastPart.whole hbare
      rwa [hwhole] at hlast ⊢
  | cons c rest =>
      obtain rfl : c = '/' := by
        have hstop := List.head?_dropWhile_not (· != '/') full.toList.reverse
        rw [hrest] at hstop
        simpa using hstop
      have hbehind : full = String.ofList rest.reverse ++ "/" ++ labelOf full := by
        apply String.toList_inj.mp
        rw [hrest] at hparts
        rw [← List.reverse_reverse full.toList, ← hparts]
        simp [labelOf]
      have hlast := LastPart.behind (String.ofList rest.reverse) hbare
      rwa [← hbehind] at hlast

/-- **A label is what stands behind the last `/`.** -/
theorem labelOf_eq_iff {full label : String} : labelOf full = label ↔ LastPart full label := by
  constructor
  · rintro rfl
    exact lastPart_labelOf full
  · exact LastPart.labelOf_eq

/-- Whether one source goes before another one: its label is the smaller one in upper
case, or both are alike and its full name is. -/
def Source.Before (a b : Source) : Prop :=
  utf8 (upper a.label) < utf8 (upper b.label) ∨
    upper a.label = upper b.label ∧ utf8 a.full < utf8 b.full

namespace Catalog

variable {c : Catalog} {full : String} {names : List String}

/-! ## Sources -/

/-- **Every full name is listed once.** -/
theorem perm_sources (c : Catalog) : (c.sources.map Source.full).Perm c.tests.keys := by
  have hordered := (List.mergeSort_perm
    (c.tests.keys.map fun full => (⟨labelOf full, full⟩ : Source))
    fun a b => caselessLe a.label b.label).map Source.full
  have hnames : (c.tests.keys.map fun full => (⟨labelOf full, full⟩ : Source)).map Source.full =
      c.tests.keys := by
    rw [List.map_map]
    exact List.map_id _
  rwa [hnames] at hordered

/-- Sources whose labels differ only in case are in the order of their full names. -/
theorem full_lt_of_alike {a b : Source} (h : [a, b] <+ c.sources)
    (halike : upper a.label = upper b.label) : a.full < b.full := by
  have hkey : [a, b].filter (fun s => upper s.label = upper b.label) = [a, b] := by
    simp [halike]
  have hsub := h.filter fun s => decide (upper s.label = upper b.label)
  rw [hkey, sources, filter_mergeSort] at hsub
  have hunordered := hsub.trans List.filter_sublist
  have hincreasing : (c.tests.keys.map fun full => (⟨labelOf full, full⟩ : Source)).Pairwise
      fun a b => a.full < b.full := by
    rw [List.pairwise_map]
    exact c.tests.increasing
  exact List.pairwise_iff_forall_sublist.mp hincreasing hunordered

/-- **The order of the sources.** -/
theorem pairwise_sources (c : Catalog) : c.sources.Pairwise Source.Before := by
  have hsorted : c.sources.Pairwise fun a b => caselessLe a.label b.label = true := by
    apply List.pairwise_mergeSort
    · exact fun a b d => caselessLe_trans a.label b.label d.label
    · exact fun a b => caselessLe_total a.label b.label
  rw [List.pairwise_iff_forall_sublist]
  intro a b hpair
  have hle := List.pairwise_iff_forall_sublist.mp hsorted hpair
  rw [caselessLe_iff] at hle
  by_cases halike : upper a.label = upper b.label
  · exact Or.inr ⟨halike, utf8_lt_utf8 (full_lt_of_alike hpair halike)⟩
  · have hlt : upper a.label < upper b.label :=
      String.not_le.mp fun hge => halike (String.le_antisymm hle hge)
    exact Or.inl (utf8_lt_utf8 hlt)

/-! ## Tests -/

theorem get?_of_mem (h : (full, names) ∈ c.tests.entries) : c.tests.get? full = some names :=
  KeyMap.lookup_of_mem c.tests.nodup_keys h

/-- The tests of a source are those that the runner lists for it, in order and without
neighbours that are equal. -/
theorem testsFor_of_mem (h : (full, names) ∈ c.tests.entries) :
    c.testsFor full = (names.mergeSort caselessLe).eraseReps := by
  have hfound := get?_of_mem h
  have hfind : c.find? full = some full := find?_of_mem (KeyMap.mem_keys_iff.mpr ⟨names, hfound⟩)
  rw [testsFor, hfind]
  dsimp only
  rw [listed, hfound, Option.getD_some]

/-- **Tests whose names differ only in case stand as the runner lists them**; of
neighbours that are equal one stays. -/
theorem filter_testsFor (h : (full, names) ∈ c.tests.entries) (form : String) :
    (c.testsFor full).filter (upper · = form) = (names.filter (upper · = form)).eraseReps := by
  have hsorted := List.pairwise_mergeSort caselessLe_trans caselessLe_total names
  have htogether : ∀ a b d, [a, b, d] <+ names.mergeSort caselessLe →
      decide (upper a = form) = true → decide (upper d = form) = true →
        decide (upper b = form) = true := by
    intro a b d hsub ha hd
    have horder := hsorted.sublist hsub
    simp only [List.pairwise_cons, List.mem_cons, List.not_mem_nil, or_false, forall_eq_or_imp,
      forall_eq, caselessLe_iff] at horder
    rw [decide_eq_true_iff] at ha hd ⊢
    have hfirst : form ≤ upper b := ha ▸ horder.1.1
    have hlast : upper b ≤ form := hd ▸ horder.2.1
    exact String.le_antisymm hlast hfirst
  have hordered : (names.mergeSort caselessLe).filter (upper · = form) =
      names.filter (upper · = form) := filter_mergeSort id names form
  rw [testsFor_of_mem h, filter_eraseReps _ htogether, hordered]

/-- **How a catalog is listed.**  Every full name stands among the sources once, with
what is behind its last `/` for a label; the sources are in the order of their labels
in upper case, and of their full names where these do not differ.  The tests of a
source are those that the runner lists for it, in the order of their names in upper
case; names of one form stand as the runner lists them, where of neighbours that are
equal one stays. -/
theorem listings_complete_and_ordered (c : Catalog) :
    ((c.sources.map Source.full).Nodup ∧
        ∀ full, full ∈ c.sources.map Source.full ↔ ∃ names, (full, names) ∈ c.tests.entries) ∧
      (∀ s ∈ c.sources, LastPart s.full s.label) ∧
      c.sources.Pairwise Source.Before ∧
      ∀ full names, (full, names) ∈ c.tests.entries →
        (∀ test, test ∈ c.testsFor full ↔ test ∈ names) ∧
          ((c.testsFor full).Pairwise fun a b => utf8 (upper a) ≤ utf8 (upper b)) ∧
          ∀ form, (c.testsFor full).filter (upper · = form) =
            (names.filter (upper · = form)).eraseReps := by
  refine ⟨⟨?once, fun full => ?all⟩, ?labels, pairwise_sources c, fun full names hmem =>
    ⟨fun test => ?tests, ?order, filter_testsFor hmem⟩⟩
  case once => exact (perm_sources c).nodup_iff.mpr c.tests.nodup_keys
  case all =>
    rw [(perm_sources c).mem_iff, KeyMap.keys, KeyMap.keysOf, List.mem_map]
    simp
  case labels =>
    intro s hs
    obtain ⟨_, hlabel⟩ := mem_sources_iff.mp hs
    exact labelOf_eq_iff.mp hlabel.symm
  case tests => rw [testsFor_of_mem hmem, mem_eraseReps, List.mem_mergeSort]
  case order =>
    have hsorted := pairwise_testsFor c full
    simpa only [utf8_le_utf8_iff] using hsorted

/-- Two sources whose labels differ only in case; one lists tests that do. -/
def mixedCase : Catalog :=
  ⟨KeyMap.ofList [("src/B.t", ["b", "a", "A", "a"]), ("lib/b.t", ["t"])]⟩

theorem listings_complete_and_ordered_mixedCase :
    ("src/B.t", ["b", "a", "A", "a"]) ∈ mixedCase.tests.entries ∧
      ⟨"B.t", "src/B.t"⟩ ∈ mixedCase.sources ∧ LastPart "src/B.t" "B.t" ∧
      (∀ test, test ∈ mixedCase.testsFor "src/B.t" ↔ test ∈ ["b", "a", "A", "a"]) ∧
      (mixedCase.testsFor "src/B.t").filter (upper · = "A") = ["a", "A", "a"] := by
  have hmem : ("src/B.t", ["b", "a", "A", "a"]) ∈ mixedCase.tests.entries := by decide
  have hsource : ⟨"B.t", "src/B.t"⟩ ∈ mixedCase.sources :=
    mem_sources_iff.mpr ⟨List.mem_map.mpr ⟨_, hmem, rfl⟩, by decide⟩
  obtain ⟨_, hlabels, _, htests⟩ := listings_complete_and_ordered mixedCase
  obtain ⟨hsame, _, hforms⟩ := htests _ _ hmem
  have hthinned : (["b", "a", "A", "a"].filter (upper · = "A")).eraseReps = ["a", "A", "a"] := by
    decide
  exact ⟨hmem, hsource, hlabels _ hsource, hsame, (hforms "A").trans hthinned⟩

end Catalog

end CallTree.Runner
