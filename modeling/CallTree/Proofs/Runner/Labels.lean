import CallTree.Proofs.KeyMap
import CallTree.Proofs.Runner.Listing
import Mathlib.Data.List.TakeWhile

/-!
# Sources and their labels

A test is asked for by its own name and a name of its source, which is the full
name or the label.  A full name always leads to its source.  A label may belong to
several sources and leads to one of them, which goes before the others: the source
whose full name is the label itself, or else the first one by full name.  A test of
another source with that label is not found under it, even where the source that
goes first has no test of that name.

* `find?_eq_some_iff` — where a name leads;
* `exists_goesFirst` — every label leads to a source that bears it;
* `shown_tests_resolve` — what every test that is shown resolves to, under the full
  name of its source and under the label;
* `label_leads_elsewhere` — a label that leads to another source.
-/

namespace CallTree.Runner

/-! ## Labels -/

/-- A label has no `/` in it, so it is its own label. -/
theorem labelOf_labelOf (full : String) : labelOf (labelOf full) = labelOf full := by
  simp [labelOf, List.takeWhile_idem]

namespace Catalog

variable {c : Catalog} {src full test : String} {s : Source}

/-- The sources are the full names under their labels. -/
theorem mem_sources_iff : s ∈ c.sources ↔ s.full ∈ c.tests.keys ∧ s.label = labelOf s.full := by
  obtain ⟨label, full⟩ := s
  simp [sources, List.mem_mergeSort, eq_comm]

/-! ## Where a name leads -/

/-- A full name is looked up first, and then the labels. -/
theorem find?_eq (c : Catalog) (src : String) :
    c.find? src =
      if src ∈ c.tests.keys then some src
      else c.tests.keys.find? fun full => labelOf full == src := by
  unfold find?
  cases hsrc : c.tests.get? src with
  | some tests => rw [if_pos (KeyMap.mem_keys_iff.mpr ⟨tests, hsrc⟩)]
  | none =>
      have hnot : src ∉ c.tests.keys := by
        intro hmem
        obtain ⟨tests, hfound⟩ := KeyMap.mem_keys_iff.mp hmem
        rw [hsrc] at hfound
        cases hfound
      rw [if_neg hnot]

/-- **A name leads to the source of that full name, or else to the first one by full
name that has it as its label.** -/
theorem find?_eq_some_iff :
    c.find? src = some full ↔
      src ∈ c.tests.keys ∧ full = src ∨
        src ∉ c.tests.keys ∧ full ∈ c.tests.keys ∧ labelOf full = src ∧
          ∀ other ∈ c.tests.keys, labelOf other = src → full ≤ other := by
  rw [find?_eq]
  split
  case isTrue hmem => simp [hmem, eq_comm]
  case isFalse hnot => simp [hnot, KeyMap.find?_keys_eq_some_iff]

/-- A name leads nowhere where it is neither a full name nor a label. -/
theorem find?_eq_none_iff :
    c.find? src = none ↔ src ∉ c.tests.keys ∧ ∀ full ∈ c.tests.keys, labelOf full ≠ src := by
  rw [find?_eq]
  split
  case isTrue hmem => simp [hmem]
  case isFalse hnot => simp [hnot]

theorem find?_of_mem (h : src ∈ c.tests.keys) : c.find? src = some src :=
  find?_eq_some_iff.mpr (Or.inl ⟨h, rfl⟩)

/-- The source that a name leads to goes by its full name, too. -/
theorem find?_of_find? (h : c.find? src = some full) : c.find? full = some full := by
  rcases find?_eq_some_iff.mp h with ⟨hmem, rfl⟩ | ⟨_, hmem, _⟩
  · exact find?_of_mem hmem
  · exact find?_of_mem hmem

/-- Whether a source goes before all others with its label: its full name is the
label, or no full name is and its own comes first. -/
def GoesFirst (c : Catalog) (s : Source) : Prop :=
  s.full = s.label ∨
    ∀ other ∈ c.sources, other.label = s.label → other.full ≠ s.label ∧ s.full ≤ other.full

/-- **A label leads to the source that goes before the others with it.** -/
theorem find?_label_iff (hs : s ∈ c.sources) : c.find? s.label = some s.full ↔ c.GoesFirst s := by
  obtain ⟨hkey, hlabel⟩ := mem_sources_iff.mp hs
  have hsource {other : String} (h : other ∈ c.tests.keys) (hother : labelOf other = s.label) :
      ⟨s.label, other⟩ ∈ c.sources :=
    mem_sources_iff.mpr ⟨h, hother.symm⟩
  rw [find?_eq_some_iff]
  constructor
  · rintro (⟨_, hself⟩ | ⟨hnot, _, _, hleast⟩)
    · exact Or.inl hself
    · refine Or.inr fun other hother heq => ?_
      obtain ⟨hmem, hof⟩ := mem_sources_iff.mp hother
      have hfull : other.full ≠ s.label := fun h => hnot (h ▸ hmem)
      exact ⟨hfull, hleast other.full hmem (hof.symm.trans heq)⟩
  · rintro (hself | hfirst)
    · exact Or.inl ⟨hself ▸ hkey, hself⟩
    · refine Or.inr ⟨fun hmem => ?_, hkey, hlabel.symm, fun other hmem hother => ?_⟩
      · have hof : labelOf s.label = s.label := by rw [hlabel, labelOf_labelOf]
        exact (hfirst _ (hsource hmem hof) rfl).1 rfl
      · exact (hfirst _ (hsource hmem hother) rfl).2

/-- **Every label leads to a source that bears it.** -/
theorem exists_goesFirst (hs : s ∈ c.sources) :
    ∃ first ∈ c.sources, first.label = s.label ∧ c.GoesFirst first ∧
      c.find? s.label = some first.full := by
  obtain ⟨hkey, hlabel⟩ := mem_sources_iff.mp hs
  cases hfind : c.find? s.label with
  | none =>
      have hunknown := (find?_eq_none_iff.mp hfind).2
      exact absurd hlabel.symm (hunknown s.full hkey)
  | some full =>
      have hfirst : ⟨s.label, full⟩ ∈ c.sources := by
        rcases find?_eq_some_iff.mp hfind with ⟨hmem, rfl⟩ | ⟨_, hmem, hof, _⟩
        · exact mem_sources_iff.mpr ⟨hmem, by rw [hlabel, labelOf_labelOf]⟩
        · exact mem_sources_iff.mpr ⟨hmem, hof.symm⟩
      exact ⟨⟨s.label, full⟩, hfirst, rfl, (find?_label_iff hfirst).mp hfind, rfl⟩

/-! ## Tests that are shown -/

theorem resolve_of_find? (h : c.find? src = some full) (test : String) :
    c.resolve src test =
      if test ∈ c.testsFor full then .ok ⟨full, test⟩ else .error (.unknownTest full test) := by
  have hlisted : test ∈ c.testsFor full ↔ test ∈ c.listed full := by
    rw [mem_testsFor_iff, find?_of_find? h]
    simp
  rw [resolve, h]
  exact if_congr hlisted.symm rfl rfl

/-- **A test that is shown resolves under the full name of its source, and under the
label exactly if the source goes before all others with that label**, so wherever
there is no other.  In any case the label leads to the source that goes first, where
a test of the name is found or not. -/
theorem shown_tests_resolve (c : Catalog) :
    ∀ s ∈ c.sources, ∀ test ∈ c.testsFor s.full,
      c.resolve s.full test = .ok ⟨s.full, test⟩ ∧
        (c.resolve s.label test = .ok ⟨s.full, test⟩ ↔ c.GoesFirst s) ∧
        ((∀ other ∈ c.sources, other.label = s.label → other = s) →
          c.resolve s.label test = .ok ⟨s.full, test⟩) ∧
        ∃ first ∈ c.sources, first.label = s.label ∧ c.GoesFirst first ∧
          c.resolve s.label test =
            if test ∈ c.testsFor first.full then .ok ⟨first.full, test⟩
            else .error (.unknownTest first.full test) := by
  intro s hs test htest
  obtain ⟨hkey, _⟩ := mem_sources_iff.mp hs
  obtain ⟨first, hfirst, hlabel, hgoes, hfind⟩ := exists_goesFirst hs
  have hresolve := resolve_of_find? hfind test
  have hiff : c.resolve s.label test = .ok ⟨s.full, test⟩ ↔ c.GoesFirst s := by
    rw [← find?_label_iff hs, hfind, hresolve, Option.some.injEq]
    constructor
    · intro h
      split at h
      · exact (TestRef.mk.inj (Except.ok.inj h)).1
      · cases h
    · intro h
      rw [h, if_pos htest]
  refine ⟨?full, hiff, fun hunique => hiff.mpr ?unique, first, hfirst, hlabel, hgoes, hresolve⟩
  case full => rw [resolve_of_find? (find?_of_mem hkey), if_pos htest]
  case unique =>
    rw [← hunique first hfirst hlabel]
    exact hgoes

/-- Two sources of one label, each with a test `t`. -/
def sharedLabel : Catalog :=
  ⟨KeyMap.ofList [("a/x", ["t"]), ("b/x", ["t"])]⟩

theorem sources_sharedLabel :
    ∀ full ∈ ["a/x", "b/x"], ⟨"x", full⟩ ∈ sharedLabel.sources ∧ "t" ∈ sharedLabel.testsFor full := by
  intro full hfull
  have hkeys : ∀ full ∈ ["a/x", "b/x"], full ∈ sharedLabel.tests.keys ∧ "x" = labelOf full ∧
      "t" ∈ sharedLabel.listed full := by
    decide
  obtain ⟨hkey, hlabel, hlisted⟩ := hkeys full hfull
  exact ⟨mem_sources_iff.mpr ⟨hkey, hlabel⟩,
    (mem_testsFor_iff _ _ _).mpr ⟨full, find?_of_mem hkey, hlisted⟩⟩

/-- The first source in order goes first. -/
theorem find?_sharedLabel : sharedLabel.find? "x" = some "a/x" := by
  decide

theorem shown_tests_resolve_sharedLabel :
    sharedLabel.resolve "b/x" "t" = .ok ⟨"b/x", "t"⟩ ∧
      sharedLabel.resolve "x" "t" = .ok ⟨"a/x", "t"⟩ := by
  obtain ⟨hfirst, hfirstTest⟩ := sources_sharedLabel "a/x" (by decide)
  obtain ⟨hsecond, hsecondTest⟩ := sources_sharedLabel "b/x" (by decide)
  exact ⟨(shown_tests_resolve sharedLabel _ hsecond _ hsecondTest).1,
    (shown_tests_resolve sharedLabel _ hfirst _ hfirstTest).2.1.mpr
      ((find?_label_iff hfirst).mp find?_sharedLabel)⟩

/-- **A label may lead to another source**: no answer under it could be the right one
for both. -/
theorem label_leads_elsewhere :
    ¬ ∀ (c : Catalog), ∀ s ∈ c.sources, ∀ test ∈ c.testsFor s.full,
      c.resolve s.full test = .ok ⟨s.full, test⟩ ∧
        c.resolve s.label test = .ok ⟨s.full, test⟩ := by
  intro hall
  obtain ⟨hsource, htest⟩ := sources_sharedLabel "b/x" (by decide)
  have hlabel := (hall sharedLabel _ hsource _ htest).2
  rw [resolve_of_find? find?_sharedLabel] at hlabel
  split at hlabel
  · exact absurd (TestRef.mk.inj (Except.ok.inj hlabel)).1 (by decide)
  · cases hlabel

end Catalog

end CallTree.Runner
