import CallTree.Text.Segments

/-!
# Cutting at the first and at the last separator

`splitFirst` leaves no separator in the front part and `splitLast` none in the
back part, and each finds the cut of every text that was put together so.

* `splitFirst_append`, `splitLast_append` — the cut of a text put together;
* `eq_append_of_splitFirst`, `eq_append_of_splitLast` — a text is put together
  from its parts;
* `notMem_of_mem_segments` — no piece of a text that is cut everywhere holds the
  separator.
-/

namespace CallTree.Text

variable {sep : Char}

/-- A front without the separator is cut off whole. -/
theorem splitFirst_append {before : List Char} (hsep : sep ∉ before) (after : List Char) :
    splitFirst sep (before ++ sep :: after) = some (before, after) := by
  induction before with
  | nil => simp [splitFirst]
  | cons c before ih =>
      have hc : c ≠ sep := fun h => hsep (h ▸ List.mem_cons_self)
      have hrest : sep ∉ before := fun h => hsep (List.mem_cons_of_mem _ h)
      simp [splitFirst, hc, ih hrest]

/-- A back without the separator is cut off whole. -/
theorem splitLast_append (before : List Char) {after : List Char} (hsep : sep ∉ after) :
    splitLast sep (before ++ sep :: after) = some (before, after) := by
  have hrev : (before ++ sep :: after).reverse =
      after.reverse ++ sep :: before.reverse := by simp
  have hback : sep ∉ after.reverse := by simpa using hsep
  have hfirst := splitFirst_append hback before.reverse
  simp [splitLast, hrev, hfirst]

/-- The parts of a cut and the separator between them are the text. -/
theorem eq_append_of_splitFirst {s before after : List Char}
    (h : splitFirst sep s = some (before, after)) : s = before ++ sep :: after := by
  induction s generalizing before with
  | nil => simp [splitFirst] at h
  | cons c s ih =>
      simp only [splitFirst] at h
      split at h
      · rename_i hc
        obtain ⟨rfl, rfl⟩ := Prod.mk.inj (Option.some.inj h)
        simp [hc]
      · obtain ⟨⟨front, back⟩, hcut, hparts⟩ := Option.map_eq_some_iff.mp h
        obtain ⟨rfl, rfl⟩ := Prod.mk.inj hparts
        rw [ih hcut, List.cons_append]

/-- The parts of a cut at the end and the separator between them are the text. -/
theorem eq_append_of_splitLast {s before after : List Char}
    (h : splitLast sep s = some (before, after)) : s = before ++ sep :: after := by
  obtain ⟨⟨back, front⟩, hcut, hparts⟩ := Option.map_eq_some_iff.mp h
  obtain ⟨rfl, rfl⟩ := Prod.mk.inj hparts
  have hrev := congrArg List.reverse (eq_append_of_splitFirst hcut)
  simpa using hrev

/-- The pieces between separators have no separator. -/
theorem notMem_of_mem_segments {s piece : List Char}
    (h : piece ∈ segments sep s) : sep ∉ piece := by
  induction s generalizing piece with
  | nil =>
      obtain rfl := List.mem_singleton.mp h
      exact List.not_mem_nil
  | cons c rest ih =>
      rw [segments] at h
      by_cases hc : c = sep
      · rw [if_pos hc] at h
        rcases List.mem_cons.mp h with rfl | hlater
        · exact List.not_mem_nil
        · exact ih hlater
      · rw [if_neg hc] at h
        have hne := segments_ne_nil sep rest
        cases hrest : segments sep rest with
        | nil => exact absurd hrest hne
        | cons first pieces =>
            rw [hrest] at h
            have hfirst : sep ∉ first := ih (by simp [hrest])
            rcases List.mem_cons.mp h with rfl | hlater
            · simp [hfirst, Ne.symm hc]
            · exact ih (by simp [hrest, hlater])

end CallTree.Text
