import CallTree.Proofs.Json.Number
import CallTree.Proofs.Json.Value

/-!
# What the reader of JSON text gives

Whatever the text, a value that was read is nested no deeper than the reader
goes, its objects list their keys in increasing order, and its numbers are in
range.  The steps of the reader call each other with less fuel each time, so all
of them are treated at once, by induction on the fuel.

* `fits_of_value` — what was read fits;
* `fits_of_read`, `fits_of_readObject` — so does the value of a whole text.
-/

namespace CallTree.Json

variable {levels : Nat} {s rest : List Char} {j : Json}

/-- What is read in two steps. -/
theorem ok_of_bind {α β : Type} {read : Except Fault α} {next : α → Except Fault β} {result : β}
    (h : (read >>= next) = .ok result) : ∃ a, read = .ok a ∧ next a = .ok result := by
  cases read with
  | error fault => cases h
  | ok a => exact ⟨a, rfl, h⟩

/-- What is read and then changed. -/
theorem ok_of_map {ε α β : Type} {read : Except ε α} {f : α → β} {result : β}
    (h : read.map f = .ok result) : ∃ a, read = .ok a ∧ f a = result := by
  cases read with
  | error fault => cases h
  | ok a => exact ⟨a, rfl, Except.ok.inj h⟩

/-- A value without parts fits. -/
theorem fits_of_scalar (h : scalar s = .ok (j, rest)) : Fits NumberInRange levels j := by
  unfold scalar at h
  split at h
  · cases h
  · obtain ⟨_, _, heq⟩ := ok_of_map h
    cases heq
    exact .null
  · obtain ⟨_, _, heq⟩ := ok_of_map h
    cases heq
    exact .bool true
  · obtain ⟨_, _, heq⟩ := ok_of_map h
    cases heq
    exact .bool false
  · obtain ⟨_, _, heq⟩ := ok_of_map h
    cases heq
    exact .str _
  · obtain ⟨_, hnumber, heq⟩ := ok_of_map h
    cases heq
    exact .num (inRange_of_number hnumber)
  · split at h
    · obtain ⟨_, hnumber, heq⟩ := ok_of_map h
      cases heq
      exact .num (inRange_of_number hnumber)
    · cases h

/-- The object of fields that fit fits one level further out. -/
theorem fits_ofFields {fields : List (String × Json)}
    (h : ∀ field ∈ fields, Fits NumberInRange levels field.2) :
    Fits NumberInRange (levels + 1) (ofFields fields) :=
  .obj (KeyMap.foldl_insertEntry_increasing fields) fun field hmem =>
    h field (KeyMap.mem_of_mem_foldl_insertEntry hmem)

/-- Every step of the reader gives values that fit. -/
structure StepsFit (fuel : Nat) : Prop where
  value : ∀ {levels s j rest}, value fuel levels s = .ok (j, rest) → Fits NumberInRange levels j
  firstItem : ∀ {levels s items rest}, firstItem fuel levels s = .ok (items, rest) →
    ∀ item ∈ items, Fits NumberInRange levels item
  moreItems : ∀ {levels s items rest}, moreItems fuel levels s = .ok (items, rest) →
    ∀ item ∈ items, Fits NumberInRange levels item
  firstField : ∀ {levels s fields rest}, firstField fuel levels s = .ok (fields, rest) →
    ∀ field ∈ fields, Fits NumberInRange levels field.2
  moreFields : ∀ {levels s fields rest}, moreFields fuel levels s = .ok (fields, rest) →
    ∀ field ∈ fields, Fits NumberInRange levels field.2

theorem stepsFit_zero : StepsFit 0 where
  value h := by rw [value] at h; cases h
  firstItem h := by rw [firstItem] at h; cases h
  moreItems h := by rw [moreItems] at h; cases h
  firstField h := by rw [firstField] at h; cases h
  moreFields h := by rw [moreFields] at h; cases h

/-- An item and the items after it. -/
theorem StepsFit.items {fuel : Nat} (ih : StepsFit fuel) {items : List Json}
    (h : (do
      let (item, rest) ← Json.value fuel levels s
      let (items, rest) ← Json.moreItems fuel levels rest
      pure (item :: items, rest)) = .ok (items, rest)) :
    ∀ item ∈ items, Fits NumberInRange levels item := by
  obtain ⟨⟨item, _⟩, hitem, h⟩ := ok_of_bind h
  obtain ⟨⟨more, _⟩, hmore, h⟩ := ok_of_bind h
  cases h
  exact List.forall_mem_cons.mpr ⟨ih.value hitem, ih.moreItems hmore⟩

/-- A field and the fields after it. -/
theorem StepsFit.fields {fuel : Nat} (ih : StepsFit fuel) {fields : List (String × Json)}
    (h : (do
      let (key, rest) ← string s
      let rest ← colon rest
      let (item, rest) ← Json.value fuel levels rest
      let (fields, rest) ← Json.moreFields fuel levels rest
      pure ((key, item) :: fields, rest)) = .ok (fields, rest)) :
    ∀ field ∈ fields, Fits NumberInRange levels field.2 := by
  obtain ⟨⟨key, _⟩, _, h⟩ := ok_of_bind h
  obtain ⟨_, _, h⟩ := ok_of_bind h
  obtain ⟨⟨item, _⟩, hitem, h⟩ := ok_of_bind h
  obtain ⟨⟨more, _⟩, hmore, h⟩ := ok_of_bind h
  cases h
  exact List.forall_mem_cons.mpr ⟨ih.value hitem, ih.moreFields hmore⟩

theorem StepsFit.succ {fuel : Nat} (ih : StepsFit fuel) : StepsFit (fuel + 1) where
  value h := by
    rw [Json.value] at h
    split at h
    · split at h
      · cases h
      · obtain ⟨_, hitems, heq⟩ := ok_of_map h
        cases heq
        exact .arr (ih.firstItem hitems)
    · split at h
      · cases h
      · obtain ⟨_, hfields, heq⟩ := ok_of_map h
        cases heq
        exact fits_ofFields (ih.firstField hfields)
    · exact fits_of_scalar h
  firstItem h := by
    rw [Json.firstItem] at h
    split at h
    · cases h
    · cases h
      simp
    · exact ih.items h
  moreItems h := by
    rw [Json.moreItems] at h
    split at h
    · cases h
    · cases h
      simp
    · split at h
      · cases h
      · cases h
      · exact ih.items h
    · cases h
  firstField h := by
    rw [Json.firstField] at h
    split at h
    · cases h
    · cases h
      simp
    · exact ih.fields h
    · cases h
  moreFields h := by
    rw [Json.moreFields] at h
    split at h
    · cases h
    · cases h
      simp
    · split at h
      · cases h
      · cases h
      · exact ih.fields h
      · cases h
    · cases h

theorem stepsFit (fuel : Nat) : StepsFit fuel := by
  induction fuel with
  | zero => exact stepsFit_zero
  | succ fuel ih => exact ih.succ

/-- **What was read as a value fits.** -/
theorem fits_of_value {fuel : Nat} (h : value fuel levels s = .ok (j, rest)) :
    Fits NumberInRange levels j :=
  (stepsFit fuel).value h

/-- A text was read to its end by the reader of its parts. -/
theorem ok_of_finish {α : Type} {text : List Char} {read : Except Fault (α × List Char)}
    {result : α} (h : finish text read = .ok result) : ∃ rest, read = .ok (result, rest) := by
  cases read with
  | error fault => cases h
  | ok read =>
      obtain ⟨found, rest⟩ := read
      refine ⟨rest, ?_⟩
      unfold finish at h
      simp only [bind, Except.bind] at h
      split at h
      · cases h
        rfl
      · cases h

/-- **A value that was read from a text fits.** -/
theorem fits_of_read {text : String} (h : read text = .ok j) :
    Fits NumberInRange maxLevels j := by
  obtain ⟨rest, hvalue⟩ := ok_of_finish h
  exact fits_of_value hvalue

/-- **The fields that were read from a text fit.** -/
theorem fits_of_readObject {text : String} {fields : List (String × Json)}
    (h : readObject text = .ok fields) : Fits NumberInRange maxLevels (.obj fields) := by
  obtain ⟨rest, h⟩ := ok_of_finish h
  split at h
  · obtain ⟨⟨read, _⟩, hread, heq⟩ := ok_of_map h
    cases heq
    exact fits_ofFields ((stepsFit _).firstField hread)
  · cases h
  · obtain ⟨_, _, h⟩ := ok_of_bind h
    cases h

end CallTree.Json
