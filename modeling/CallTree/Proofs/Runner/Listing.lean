import CallTree.Runner.Catalog
import Mathlib.Data.List.Destutter

/-!
# The tests of a source, listed by name

The tests of a source are ordered by name, whatever the case of their letters, and
of neighbours that are equal one stays.  The order is stable: names that differ
only in case keep the order in which the runner lists them.  So a test that the
runner lists twice stands twice in a row, and is listed once, unless another name
that differs from it only in case was listed in between; then it is listed twice.

* `filter_mergeSort` — ordering does not move what is equal to the order;
* `sublist_eraseReps_iff` — of a list without repeated neighbours nothing is lost
  when neighbours that are equal become one;
* `twice_testsFor_iff` — which tests are listed twice;
* `tests_listed_once_iff` — when every test is listed once.
-/

namespace CallTree.Runner

open List (Sublist)
open scoped List

/-! ## Neighbours that are equal -/

section Neighbours

variable {α : Type} [DecidableEq α] {a : α} {xs kept : List α}

/-- Of neighbours that are equal one stays. -/
theorem eraseReps_eq_destutter (xs : List α) : xs.eraseReps = xs.destutter (· ≠ ·) := by
  have hrun (a : α) (xs kept : List α) :
      List.eraseRepsBy.loop (· == ·) a xs kept = kept.reverse ++ xs.destutter' (· ≠ ·) a := by
    induction xs generalizing a kept with
    | nil => simp [List.eraseRepsBy.loop]
    | cons b xs ih =>
        by_cases hab : a = b
        · simp [List.eraseRepsBy.loop, hab, ih]
        · have hbeq : (a == b) = false := beq_eq_false_iff_ne.mpr hab
          simp [List.eraseRepsBy.loop, hab, hbeq, ih]
  cases xs with
  | nil => rfl
  | cons a xs => exact hrun a xs []

/-- A list without repeated neighbours is kept. -/
theorem sublist_destutter' (hkept : kept.IsChain (· ≠ ·)) (hsub : kept <+ a :: xs) :
    kept <+ xs.destutter' (· ≠ ·) a := by
  induction xs generalizing a kept with
  | nil => exact hsub
  | cons b xs ih =>
      by_cases hab : a = b
      · subst hab
        rw [List.destutter'_cons_neg _ (not_not.mpr rfl)]
        refine ih hkept ?_
        -- one of two neighbours that are equal is not needed
        cases hsub with
        | cons _ hsub => exact hsub
        | cons_cons _ hsub =>
            cases hsub with
            | cons _ hsub => exact hsub.cons_cons a
            | cons_cons _ _ => exact absurd rfl (List.isChain_cons_cons.mp hkept).1
      · rw [List.destutter'_cons_pos _ hab]
        cases hsub with
        | cons _ hsub => exact (ih hkept hsub).cons a
        | cons_cons _ hsub => exact (ih hkept.tail hsub).cons_cons a

/-- **Nothing without repeated neighbours is lost** when of neighbours that are
equal one stays. -/
theorem sublist_eraseReps_iff (hkept : kept.IsChain (· ≠ ·)) :
    kept <+ xs.eraseReps ↔ kept <+ xs := by
  rw [eraseReps_eq_destutter]
  refine ⟨fun h => h.trans (xs.destutter_sublist _), fun h => ?_⟩
  cases xs with
  | nil => exact h
  | cons b xs => exact sublist_destutter' hkept h

theorem mem_eraseReps : a ∈ xs.eraseReps ↔ a ∈ xs := by
  rw [← List.singleton_sublist, ← List.singleton_sublist,
    sublist_eraseReps_iff (List.isChain_singleton a)]

omit [DecidableEq α] in
/-- Without repeated neighbours, something else stands between what is equal. -/
theorem exists_between (hxs : xs.IsChain (· ≠ ·)) (htwice : [a, a] <+ xs) :
    ∃ b, b ≠ a ∧ [a, b, a] <+ xs := by
  induction xs with
  | nil => cases htwice
  | cons first xs ih =>
      cases htwice with
      | cons _ htwice =>
          obtain ⟨b, hb, hbetween⟩ := ih hxs.tail htwice
          exact ⟨b, hb, hbetween.cons first⟩
      | cons_cons _ hagain =>
          cases xs with
          | nil => cases hagain
          | cons b xs =>
              have hne : a ≠ b := (List.isChain_cons_cons.mp hxs).1
              have hlater : a ∈ xs :=
                List.mem_of_ne_of_mem hne (List.singleton_sublist.mp hagain)
              exact ⟨b, hne.symm, ((List.singleton_sublist.mpr hlater).cons_cons b).cons_cons a⟩

/-- **What is left of a list holds something twice exactly if something else stands
in between.** -/
theorem twice_eraseReps_iff : [a, a] <+ xs.eraseReps ↔ ∃ b, b ≠ a ∧ [a, b, a] <+ xs := by
  have hchain {b : α} (hb : b ≠ a) : [a, b, a].IsChain (· ≠ ·) := by
    simp [hb, hb.symm]
  constructor
  · intro htwice
    have hxs : xs.eraseReps.IsChain (· ≠ ·) := by
      rw [eraseReps_eq_destutter]
      exact xs.isChain_destutter _
    obtain ⟨b, hb, hbetween⟩ := exists_between hxs htwice
    exact ⟨b, hb, (sublist_eraseReps_iff (hchain hb)).mp hbetween⟩
  · rintro ⟨b, hb, hbetween⟩
    have houter : [a, a] <+ [a, b, a] := ((List.Sublist.refl [a]).cons b).cons_cons a
    exact houter.trans ((sublist_eraseReps_iff (hchain hb)).mpr hbetween)

/-- **What passes a test is thinned out as in the whole list**, if it stands together
there. -/
theorem filter_eraseReps {test : α → Bool} (xs : List α)
    (htogether : ∀ a b c, [a, b, c] <+ xs → test a = true → test c = true → test b = true) :
    xs.eraseReps.filter test = (xs.filter test).eraseReps := by
  rw [eraseReps_eq_destutter, eraseReps_eq_destutter]
  cases xs with
  | nil => rfl
  | cons a xs =>
      rw [List.destutter_cons']
      induction xs generalizing a with
      | nil => by_cases ha : test a = true <;> simp [ha]
      | cons b xs ih =>
          by_cases hab : a = b
          · subst hab
            rw [List.destutter'_cons_neg _ (not_not.mpr rfl),
              ih a fun _ _ _ h => htogether _ _ _ (h.cons a)]
            by_cases ha : test a = true
            · simp [ha, List.destutter_cons']
            · simp [ha]
          · have hlater := ih b fun _ _ _ h => htogether _ _ _ (h.cons a)
            rw [List.destutter'_cons_pos _ hab]
            by_cases ha : test a = true
            · rw [List.filter_cons_of_pos ha, List.filter_cons_of_pos ha, hlater,
                List.destutter_cons']
              by_cases hb : test b = true
              · rw [List.filter_cons_of_pos hb, List.destutter_cons',
                  List.destutter'_cons_pos _ hab]
              · -- nothing behind `b` passes the test
                have hnone : (b :: xs).filter test = [] := by
                  rw [List.filter_eq_nil_iff]
                  intro c hc hpasses
                  rcases List.mem_cons.mp hc with rfl | hc
                  · exact hb hpasses
                  · have hsub : [a, b, c] <+ a :: b :: xs :=
                      ((List.singleton_sublist.mpr hc).cons_cons b).cons_cons a
                    exact hb (htogether a b c hsub ha hpasses)
                rw [hnone]
                rfl
            · rw [List.filter_cons_of_neg ha, List.filter_cons_of_neg ha, hlater]

end Neighbours

/-! ## The order of names -/

theorem caselessLe_iff (a b : String) : caselessLe a b = true ↔ Text.upper a ≤ Text.upper b :=
  decide_eq_true_iff

theorem caselessLe_trans (a b c : String) (hab : caselessLe a b = true)
    (hbc : caselessLe b c = true) : caselessLe a c = true := by
  rw [caselessLe_iff] at *
  exact String.le_trans hab hbc

theorem caselessLe_total (a b : String) : (caselessLe a b || caselessLe b a) = true := by
  rw [Bool.or_eq_true, caselessLe_iff, caselessLe_iff]
  exact String.le_total (Text.upper a) (Text.upper b)

section Order

variable {names kept : List String} {key : String}

/-- **Ordering things by their names does not move those whose names differ only in
case.** -/
theorem filter_mergeSort {α : Type} (name : α → String) (items : List α) (key : String) :
    ((items.mergeSort fun a b => caselessLe (name a) (name b)).filter fun item =>
        Text.upper (name item) = key) =
      items.filter fun item => Text.upper (name item) = key := by
  have hkey {item : α} (h : item ∈ items.filter fun item => Text.upper (name item) = key) :
      Text.upper (name item) = key := by
    simpa using (List.mem_filter.mp h).2
  have hpairwise : (items.filter fun item => Text.upper (name item) = key).Pairwise fun a b =>
      caselessLe (name a) (name b) = true := by
    refine List.pairwise_of_forall_mem_list fun a ha b hb => ?_
    have halike : Text.upper (name b) = Text.upper (name a) := (hkey hb).trans (hkey ha).symm
    rw [caselessLe_iff]
    exact String.not_lt.mp fun hlt => String.ne_of_lt hlt halike
  have hsub : (items.filter fun item => Text.upper (name item) = key) <+
      items.mergeSort fun a b => caselessLe (name a) (name b) := by
    apply List.sublist_mergeSort _ _ hpairwise List.filter_sublist
    · exact fun a b c => caselessLe_trans (name a) (name b) (name c)
    · exact fun a b => caselessLe_total (name a) (name b)
  have hfiltered := hsub.filter fun item => Text.upper (name item) = key
  simp only [List.filter_filter, Bool.and_self] at hfiltered
  have hperm := (List.mergeSort_perm items fun a b => caselessLe (name a) (name b)).filter
    fun item => Text.upper (name item) = key
  exact (hfiltered.eq_of_length hperm.length_eq.symm).symm

/-- Names that differ only in case stand in the order in which they are listed. -/
theorem sublist_mergeSort_iff (hkey : ∀ name ∈ kept, Text.upper name = key) :
    kept <+ names.mergeSort caselessLe ↔ kept <+ names := by
  have hkept : kept.filter (Text.upper · = key) = kept :=
    List.filter_eq_self.mpr fun name hname => decide_eq_true (hkey name hname)
  have hfilter (list : List String) :
      kept <+ list ↔ kept <+ list.filter (Text.upper · = key) := by
    refine ⟨fun h => ?_, fun h => h.trans List.filter_sublist⟩
    have hsub := h.filter (Text.upper · = key)
    rwa [hkept] at hsub
  have hordered : (names.mergeSort caselessLe).filter (Text.upper · = key) =
      names.filter (Text.upper · = key) := filter_mergeSort id names key
  rw [hfilter, hordered, ← hfilter]

/-- A name that stands between two others that are equal differs from them only in
case. -/
theorem upper_eq_of_between {test other : String}
    (h : [test, other, test] <+ names.mergeSort caselessLe) :
    Text.upper other = Text.upper test := by
  have hsorted := (List.pairwise_mergeSort caselessLe_trans caselessLe_total names).sublist h
  simp only [List.pairwise_cons, List.mem_cons, List.not_mem_nil, or_false, forall_eq_or_imp,
    forall_eq, caselessLe_iff] at hsorted
  exact String.le_antisymm hsorted.2.1 hsorted.1.1

end Order

/-! ## Tests that are listed twice -/

/-- Whether a test is listed again after another one whose name differs from its own
only in case. -/
def Interrupted (test : String) (names : List String) : Prop :=
  ∃ other, other ≠ test ∧ Text.upper other = Text.upper test ∧ [test, other, test] <+ names

/-- **A test stands twice in the list exactly if it is interrupted.** -/
theorem twice_eraseReps_mergeSort_iff (names : List String) (test : String) :
    [test, test] <+ (names.mergeSort caselessLe).eraseReps ↔ Interrupted test names := by
  have hlisted {other : String} (hcase : Text.upper other = Text.upper test) :
      [test, other, test] <+ names.mergeSort caselessLe ↔ [test, other, test] <+ names := by
    have hkey : ∀ name ∈ [test, other, test], Text.upper name = Text.upper test := by simp [hcase]
    exact sublist_mergeSort_iff hkey
  rw [twice_eraseReps_iff]
  constructor
  · rintro ⟨other, hne, hbetween⟩
    have hcase := upper_eq_of_between hbetween
    exact ⟨other, hne, hcase, (hlisted hcase).mp hbetween⟩
  · rintro ⟨other, hne, hcase, hbetween⟩
    exact ⟨other, hne, (hlisted hcase).mpr hbetween⟩

namespace Catalog

variable (c : Catalog) (src test : String)

/-- The tests of a source are the ones that the runner lists for it. -/
theorem mem_testsFor_iff :
    test ∈ c.testsFor src ↔ ∃ full, c.find? src = some full ∧ test ∈ c.listed full := by
  unfold testsFor
  cases c.find? src with
  | none => simp
  | some full => simp [mem_eraseReps, List.mem_mergeSort]

/-- **The tests that are listed twice.** -/
theorem twice_testsFor_iff :
    [test, test] <+ c.testsFor src ↔
      ∃ full, c.find? src = some full ∧ Interrupted test (c.listed full) := by
  unfold testsFor
  cases c.find? src with
  | none => simp
  | some full => simp [twice_eraseReps_mergeSort_iff]

/-- The tests of a source are in the order of their names. -/
theorem pairwise_testsFor :
    (c.testsFor src).Pairwise fun a b => Text.upper a ≤ Text.upper b := by
  unfold testsFor
  cases c.find? src with
  | none => exact List.Pairwise.nil
  | some full =>
      have hsorted := List.pairwise_mergeSort caselessLe_trans caselessLe_total (c.listed full)
      simp only [caselessLe_iff] at hsorted
      dsimp only
      rw [eraseReps_eq_destutter]
      exact hsorted.sublist (List.destutter_sublist _ _)

/-- **Every test is listed once, exactly if the runner interrupts none**: if it
lists no test again after another one whose name differs only in case.  In any case
the tests are those that the runner lists, in the order of their names. -/
theorem tests_listed_once_iff :
    ((c.testsFor src).Nodup ↔
        ∀ full, c.find? src = some full → ∀ test, ¬ Interrupted test (c.listed full)) ∧
      (∀ test, test ∈ c.testsFor src ↔
        ∃ full, c.find? src = some full ∧ test ∈ c.listed full) ∧
      (c.testsFor src).Pairwise fun a b => Text.upper a ≤ Text.upper b := by
  refine ⟨?_, mem_testsFor_iff c src, pairwise_testsFor c src⟩
  rw [List.nodup_iff_sublist]
  constructor
  · intro honce full hfull test hinterrupted
    exact honce test ((twice_testsFor_iff c src test).mpr ⟨full, hfull, hinterrupted⟩)
  · intro hnone test htwice
    obtain ⟨full, hfull, hinterrupted⟩ := (twice_testsFor_iff c src test).mp htwice
    exact hnone full hfull test hinterrupted

/-- A source for which the runner lists `a` again after `A`. -/
def listedAgain : Catalog :=
  ⟨KeyMap.ofList [("s", ["a", "A", "a"])]⟩

/-- **A test that is interrupted is listed twice.** -/
theorem interrupted_test_listed_twice : ¬ (listedAgain.testsFor "s").Nodup := by
  have hinterrupted : Interrupted "a" ["a", "A", "a"] := ⟨"A", by decide, by decide, by decide⟩
  rw [List.nodup_iff_sublist, not_forall_not]
  exact ⟨"a", (twice_testsFor_iff listedAgain "s" "a").mpr ⟨"s", rfl, hinterrupted⟩⟩

end Catalog

end CallTree.Runner
