import CallTree.Proofs.Runner.Labels
import CallTree.Proofs.Text.ByteOrder

/-!
# Asking for a test

A test is asked for by a name of its source and its own name.  The tests of a source
are also listed, in order and without neighbours that are equal.  Both ways begin with
the same look-up of the source, and neither the order nor the repetitions matter for
what is found: a test is there exactly if it is listed.

A name leads to the source of that full name; if there is none, to the source with
the least full name, byte by byte, among those that have the name as their label.

* `LeadsTo`, `IsNamed` — where a name leads, and whether it leads anywhere;
* `find?_eq_some_iff_leadsTo`, `exists_leadsTo_iff` — the look-up of a source is that;
* `resolve_agrees_with_testsFor` — what is answered, in terms of the listing.
-/

namespace CallTree

namespace Text

/-- **The order of texts is the order of their bytes.** -/
theorem utf8_le_utf8_iff {a b : String} : utf8 a ≤ utf8 b ↔ a ≤ b := by
  constructor
  · intro hbytes
    apply String.not_lt.mp
    intro hlt
    exact hbytes (utf8_lt_utf8 hlt)
  · intro hle hbytes
    by_cases heq : a = b
    · subst heq
      exact List.lt_irrefl _ hbytes
    · have hlt : a < b := String.not_le.mp fun hge => heq (String.le_antisymm hle hge)
      exact List.lt_asymm hbytes (utf8_lt_utf8 hlt)

end Text

namespace Runner.Catalog

open Text

variable {c : Catalog} {src full test : String}

/-- Where a name of a source leads. -/
inductive LeadsTo (c : Catalog) (src : String) : String → Prop
  /-- A full name leads to its source. -/
  | fullName (known : src ∈ c.tests.keys) : LeadsTo c src src
  /-- Any other name leads to the source with the least full name among those with
  the name as their label. -/
  | label {full : String} (unknown : src ∉ c.tests.keys) (known : full ∈ c.tests.keys)
      (bears : labelOf full = src)
      (least : ∀ other ∈ c.tests.keys, labelOf other = src → utf8 full ≤ utf8 other) :
      LeadsTo c src full

/-- Whether a name is a full name or a label. -/
def IsNamed (c : Catalog) (src : String) : Prop :=
  src ∈ c.tests.keys ∨ ∃ full ∈ c.tests.keys, labelOf full = src

/-! ## The look-up of a source -/

theorem find?_eq_some_iff_leadsTo : c.find? src = some full ↔ c.LeadsTo src full := by
  rw [find?_eq_some_iff]
  constructor
  · rintro (⟨hknown, rfl⟩ | ⟨hunknown, hknown, hbears, hleast⟩)
    · exact .fullName hknown
    · refine .label hunknown hknown hbears ?_
      intro other hother hof
      exact utf8_le_utf8_iff.mpr (hleast other hother hof)
  · intro hleads
    cases hleads with
    | fullName hknown => exact Or.inl ⟨hknown, rfl⟩
    | label hunknown hknown hbears hleast =>
        refine Or.inr ⟨hunknown, hknown, hbears, ?_⟩
        intro other hother hof
        exact utf8_le_utf8_iff.mp (hleast other hother hof)

/-- **Exactly the full names and the labels lead to a source.** -/
theorem exists_leadsTo_iff : (∃ full, c.LeadsTo src full) ↔ c.IsNamed src := by
  have hnowhere : c.find? src = none ↔ ¬ c.IsNamed src := by
    rw [find?_eq_none_iff, IsNamed]
    simp
  simp only [← find?_eq_some_iff_leadsTo]
  rw [← Option.ne_none_iff_exists', ne_eq, hnowhere, not_not]

/-! ## Listed tests are the ones that are found -/

/-- Under a name that leads nowhere nothing is found and nothing is listed. -/
theorem resolve_of_not_isNamed (h : ¬ c.IsNamed src) (test : String) :
    c.resolve src test = .error (.unknownSource src) ∧ c.testsFor src = [] := by
  have hfind : c.find? src = none := by
    refine Option.eq_none_iff_forall_ne_some.mpr ?_
    intro full hfull
    exact h (exists_leadsTo_iff.mp ⟨full, find?_eq_some_iff_leadsTo.mp hfull⟩)
  constructor
  · rw [resolve, hfind]
  · rw [testsFor, hfind]

/-- The tests that are listed under a name are those of the source that it leads to. -/
theorem LeadsTo.testsFor_eq (h : c.LeadsTo src full) : c.testsFor src = c.testsFor full := by
  have hfind := find?_eq_some_iff_leadsTo.mpr h
  rw [testsFor, testsFor, hfind, find?_of_find? hfind]

/-- Under a name that leads to a source the listed tests of the source are found. -/
theorem LeadsTo.resolve_eq (h : c.LeadsTo src full) (test : String) :
    c.resolve src test =
      if test ∈ c.testsFor src then .ok ⟨full, test⟩ else .error (.unknownTest full test) := by
  rw [h.testsFor_eq]
  exact resolve_of_find? (find?_eq_some_iff_leadsTo.mpr h) test

/-- **What is found** is listed, and is a test of the source that the name leads to. -/
theorem resolve_eq_ok_iff {ref : TestRef} :
    c.resolve src test = .ok ref ↔
      test ∈ c.testsFor src ∧ ref.test = test ∧ c.LeadsTo src ref.src := by
  constructor
  · intro hok
    by_cases hnamed : c.IsNamed src
    · obtain ⟨full, hleads⟩ := exists_leadsTo_iff.mpr hnamed
      rw [hleads.resolve_eq] at hok
      split at hok
      case isTrue hlisted =>
        obtain rfl : ⟨full, test⟩ = ref := Except.ok.inj hok
        exact ⟨hlisted, rfl, hleads⟩
      case isFalse => cases hok
    · rw [(resolve_of_not_isNamed hnamed test).1] at hok
      cases hok
  · rintro ⟨hlisted, rfl, hleads⟩
    rw [hleads.resolve_eq, if_pos hlisted]

/-- **What is not found** is under a name that leads nowhere, or is not listed. -/
theorem resolve_eq_error_iff {e : CatalogError} :
    c.resolve src test = .error e ↔
      ¬ c.IsNamed src ∧ e = .unknownSource src ∨
        test ∉ c.testsFor src ∧ ∃ full, c.LeadsTo src full ∧ e = .unknownTest full test := by
  constructor
  · intro herror
    by_cases hnamed : c.IsNamed src
    · obtain ⟨full, hleads⟩ := exists_leadsTo_iff.mpr hnamed
      rw [hleads.resolve_eq] at herror
      split at herror
      case isTrue => cases herror
      case isFalse hmissing => exact Or.inr ⟨hmissing, full, hleads, (Except.error.inj herror).symm⟩
    · rw [(resolve_of_not_isNamed hnamed test).1] at herror
      exact Or.inl ⟨hnamed, (Except.error.inj herror).symm⟩
  · rintro (⟨hunnamed, rfl⟩ | ⟨hmissing, full, hleads, rfl⟩)
    · exact (resolve_of_not_isNamed hunnamed test).1
    · rw [hleads.resolve_eq, if_neg hmissing]

/-- Something is listed only under a name that leads to a source. -/
theorem exists_leadsTo_of_mem (h : test ∈ c.testsFor src) : ∃ full, c.LeadsTo src full := by
  rw [exists_leadsTo_iff]
  by_contra hunnamed
  rw [(resolve_of_not_isNamed hunnamed test).2] at h
  exact List.not_mem_nil h

/-- **A test resolves exactly if it is listed**, to the source that the name leads to
and to the test of that name.  A name that is neither a full name nor a label is an
unknown source, for which nothing is listed; a test that is not listed for a known
source is an unknown test of that source. -/
theorem resolve_agrees_with_testsFor (c : Catalog) (src test : String) :
    ((∃ ref, c.resolve src test = .ok ref) ↔ test ∈ c.testsFor src) ∧
      (∀ ref, c.resolve src test = .ok ref ↔
        test ∈ c.testsFor src ∧ ref.test = test ∧ c.LeadsTo src ref.src) ∧
      (c.resolve src test = .error (.unknownSource src) ↔ ¬ c.IsNamed src) ∧
      (∀ e, c.resolve src test = .error e ↔
        ¬ c.IsNamed src ∧ e = .unknownSource src ∨
          test ∉ c.testsFor src ∧ ∃ full, c.LeadsTo src full ∧ e = .unknownTest full test) ∧
      (c.IsNamed src ∨ c.testsFor src = []) := by
  refine ⟨?found, fun _ => resolve_eq_ok_iff, ?unknown, fun _ => resolve_eq_error_iff, ?nothing⟩
  case found =>
    constructor
    · rintro ⟨ref, hok⟩
      exact (resolve_eq_ok_iff.mp hok).1
    · intro hlisted
      obtain ⟨full, hleads⟩ := exists_leadsTo_of_mem hlisted
      exact ⟨⟨full, test⟩, resolve_eq_ok_iff.mpr ⟨hlisted, rfl, hleads⟩⟩
  case unknown =>
    constructor
    · intro herror
      rcases resolve_eq_error_iff.mp herror with ⟨hunnamed, _⟩ | ⟨_, _, _, hother⟩
      · exact hunnamed
      · cases hother
    · intro hunnamed
      exact (resolve_of_not_isNamed hunnamed test).1
  case nothing =>
    by_cases hnamed : c.IsNamed src
    · exact Or.inl hnamed
    · exact Or.inr (resolve_of_not_isNamed hnamed test).2

end Runner.Catalog

end CallTree
