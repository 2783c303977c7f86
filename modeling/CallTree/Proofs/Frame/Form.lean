import CallTree.Tree.Build
import CallTree.Proofs.Json.Value
import Mathlib.Data.List.Forall2

/-!
# Which values are traces

A trace may be wrapped in objects that hold it under `trace`.  What is left
without these wrappers is a trace if it is an object, which is one frame, or a
list of frames; and a frame is an object, or a list that is not longer than a
frame has parts.  So only the outermost containers decide.  What they hold never
makes a trace fail, however deep it stands and whatever is wrong with it.

* `mapM_eq_ok_iff` — a list is read item by item;
* `ofJson_isOk_iff` — the forms of a frame;
* `listOfItems_eq_ok_iff` — frames are read one by one;
* `traceOfJson_of_unwraps` — wrappers make no difference;
* `trace_reads_iff_form` — which values are traces, and what is read from them.
-/

namespace CallTree

/-! ## Reading item by item -/

/-- The items of a list are read one by one. -/
theorem mapM_eq_ok_iff {ε α β : Type} (read : α → Except ε β) (items : List α) (found : List β) :
    items.mapM read = .ok found ↔ List.Forall₂ (fun item x => read item = .ok x) items found := by
  induction items generalizing found with
  | nil =>
      rw [List.mapM_nil, List.forall₂_nil_left_iff]
      constructor
      · rintro ⟨⟩
        rfl
      · rintro rfl
        rfl
  | cons item items ih =>
      rw [List.mapM_cons, List.forall₂_cons_left_iff]
      constructor
      · intro h
        cases hitem : read item with
        | error e =>
            rw [hitem] at h
            cases h
        | ok x =>
            cases hitems : items.mapM read with
            | error e =>
                rw [hitem, hitems] at h
                cases h
            | ok rest =>
                rw [hitem, hitems] at h
                cases h
                exact ⟨x, rest, rfl, (ih rest).mp hitems, rfl⟩
      · rintro ⟨x, rest, hitem, hrest, rfl⟩
        rw [hitem, (ih rest).mpr hrest]
        rfl

/-- A list stands in a relation to some list where each of its items does to some
item. -/
theorem exists_forall₂_iff {α β : Type} {rel : α → β → Prop} (items : List α) :
    (∃ found, List.Forall₂ rel items found) ↔ ∀ item ∈ items, ∃ x, rel item x := by
  induction items with
  | nil => simp
  | cons item items ih =>
      rw [List.forall_mem_cons, ← ih]
      constructor
      · rintro ⟨found, hfound⟩
        obtain ⟨x, rest, hitem, hrest, rfl⟩ := List.forall₂_cons_left_iff.mp hfound
        exact ⟨⟨x, hitem⟩, rest, hrest⟩
      · rintro ⟨⟨x, hitem⟩, rest, hrest⟩
        exact ⟨x :: rest, List.Forall₂.cons hitem hrest⟩

/-! ## Wrappers -/

/-- What is left of a value when an object with the key `trace` is replaced by
what it holds under that key, for as long as there is one. -/
inductive Json.Unwraps : Json → Json → Prop
  | bare {j : Json} (h : j.get? "trace" = none) : Unwraps j j
  | wrapped {j inner core : Json} (h : j.get? "trace" = some inner) (rest : Unwraps inner core) :
      Unwraps j core

/-- Only one value is left without the wrappers. -/
theorem Json.Unwraps.unique {j core other : Json} (h : j.Unwraps core) (h' : j.Unwraps other) :
    other = core := by
  induction h with
  | bare h =>
      cases h' with
      | bare _ => rfl
      | wrapped hinner _ =>
          rw [h] at hinner
          cases hinner
  | wrapped h _ ih =>
      cases h' with
      | bare hbare =>
          rw [hbare] at h
          cases h
      | wrapped hinner rest =>
          rw [h] at hinner
          cases hinner
          exact ih rest

/-! ## Forms -/

namespace Frame

/-- The forms of a frame. -/
inductive Form : Json → Prop
  | object (fields : List (String × Json)) : Form (.obj fields)
  | parts (items : List Json) (h : items.length ≤ 10) : Form (.arr items)

/-- The forms of a trace without wrappers. -/
inductive TraceForm : Json → Prop
  | single (fields : List (String × Json)) : TraceForm (.obj fields)
  | list (items : List Json) (h : ∀ item ∈ items, Form item) : TraceForm (.arr items)

/-- The values that write the frames of a trace without wrappers. -/
def writtenIn : Json → List Json
  | .arr items => items
  | single => [single]

/-- A frame is read where the value has the form of one, whatever is inside. -/
theorem ofJson_isOk_iff (j : Json) : (∃ frame, ofJson j = .ok frame) ↔ Form j := by
  constructor
  · rintro ⟨frame, hframe⟩
    cases j with
    | obj fields => exact Form.object fields
    | arr items =>
        rw [ofJson] at hframe
        split at hframe
        · rename_i hlength
          exact Form.parts items hlength
        · cases hframe
    | _ => cases hframe
  · rintro (fields | ⟨items, hlength⟩)
    · exact ⟨_, rfl⟩
    · have hparts : items.length ≤ partNames.length := hlength
      refine ⟨ofParts (fun key => (partNames.zip items).lookup key) (innerAt innerPlace items), ?_⟩
      rw [ofJson, if_pos hparts]

theorem listOfItems_eq_mapM (items : List Json) : listOfItems items = items.mapM ofJson := by
  induction items with
  | nil => rfl
  | cons item items ih =>
      rw [listOfItems, ih, List.mapM_cons]
      cases ofJson item with
      | error e => rfl
      | ok frame =>
          cases items.mapM ofJson with
          | error e => rfl
          | ok frames => rfl

/-- **Frames are read one by one.** -/
theorem listOfItems_eq_ok_iff (items : List Json) (frames : List Frame) :
    listOfItems items = .ok frames ↔
      List.Forall₂ (fun item frame => ofJson item = .ok frame) items frames := by
  rw [listOfItems_eq_mapM, mapM_eq_ok_iff]

/-- Frames are read where every value has the form of one. -/
theorem listOfItems_isOk_iff (items : List Json) :
    (∃ frames, listOfItems items = .ok frames) ↔ ∀ item ∈ items, Form item := by
  simp only [listOfItems_eq_ok_iff, exists_forall₂_iff, ofJson_isOk_iff]

/-- An object is a trace as what it holds under `trace` is, and without that key
as a frame. -/
theorem traceOfJson_obj (fields : List (String × Json)) :
    traceOfJson (.obj fields) =
      match fields.lookup "trace" with
      | some inner => traceOfJson inner
      | none => ((ofJson (.obj fields)).map fun frame => [frame]).mapError .frame := by
  have hunder (whole : Json) : traceUnder fields whole =
      match fields.lookup "trace" with
      | some inner => traceOfJson inner
      | none => ((ofJson whole).map fun frame => [frame]).mapError .frame := by
    induction fields with
    | nil => rw [traceUnder, List.lookup_nil]
    | cons field fields ih =>
        obtain ⟨key, value⟩ := field
        rw [traceUnder]
        by_cases hkey : key = "trace"
        · rw [if_pos hkey, hkey, List.lookup_cons_self]
        · have hbeq : ("trace" == key) = false := beq_eq_false_iff_ne.mpr (Ne.symm hkey)
          rw [if_neg hkey, ih, List.lookup_cons, hbeq]
  rw [traceOfJson, hunder]

/-- **Wrappers make no difference.** -/
theorem traceOfJson_of_unwraps {j core : Json} (h : j.Unwraps core) :
    traceOfJson j = traceOfJson core ∧ core.get? "trace" = none := by
  induction h with
  | bare h => exact ⟨rfl, h⟩
  | @wrapped j inner core h _ ih =>
      obtain ⟨hsame, hbare⟩ := ih
      refine ⟨?_, hbare⟩
      cases j with
      | obj fields =>
          have hlookup : fields.lookup "trace" = some inner := h
          rw [traceOfJson_obj, hlookup]
          exact hsame
      | _ => cases h

/-- Every value has something left without its wrappers. -/
theorem exists_unwraps (j : Json) : ∃ core, j.Unwraps core := by
  induction j using Json.valueInduction with
  | obj fields ih =>
      cases hinner : fields.lookup "trace" with
      | none => exact ⟨.obj fields, .bare hinner⟩
      | some inner =>
          obtain ⟨core, hcore⟩ := ih ("trace", inner) (KeyMap.mem_of_lookup hinner)
          exact ⟨core, .wrapped hinner hcore⟩
  | null => exact ⟨.null, .bare rfl⟩
  | bool b => exact ⟨.bool b, .bare rfl⟩
  | num n => exact ⟨.num n, .bare rfl⟩
  | str s => exact ⟨.str s, .bare rfl⟩
  | arr items => exact ⟨.arr items, .bare rfl⟩

/-- A value without wrappers is read as its frames are. -/
theorem traceOfJson_eq_ok_iff {core : Json} (hbare : core.get? "trace" = none)
    (frames : List Frame) :
    traceOfJson core = .ok frames ↔
      TraceForm core ∧
        List.Forall₂ (fun item frame => ofJson item = .ok frame) (writtenIn core) frames := by
  cases core with
  | obj fields =>
      have hlookup : fields.lookup "trace" = none := hbare
      obtain ⟨frame, hframe⟩ := (ofJson_isOk_iff (.obj fields)).mpr (Form.object fields)
      simp only [traceOfJson_obj, hlookup, hframe, writtenIn, List.forall₂_cons_left_iff]
      constructor
      · rintro ⟨⟩
        exact ⟨TraceForm.single fields, frame, [], rfl, List.Forall₂.nil, rfl⟩
      · rintro ⟨_, frame', rest, hframe', hrest, rfl⟩
        cases hframe'
        cases hrest
        rfl
  | arr items =>
      rw [traceOfJson, writtenIn, ← listOfItems_eq_ok_iff]
      constructor
      · intro h
        cases hitems : listOfItems items with
        | error e =>
            rw [hitems] at h
            cases h
        | ok read =>
            rw [hitems] at h
            cases h
            exact ⟨TraceForm.list items ((listOfItems_isOk_iff items).mp ⟨_, hitems⟩), rfl⟩
      · rintro ⟨_, hitems⟩
        rw [hitems]
        rfl
  | _ =>
      constructor
      · rintro ⟨⟩
      · rintro ⟨⟨⟩, _⟩

/-- A value without wrappers is read where it has the form of a trace. -/
theorem traceOfJson_isOk_iff {core : Json} (hbare : core.get? "trace" = none) :
    (∃ frames, traceOfJson core = .ok frames) ↔ TraceForm core := by
  simp only [traceOfJson_eq_ok_iff hbare]
  constructor
  · rintro ⟨_, hform, _⟩
    exact hform
  · intro hform
    have hitems : ∀ item ∈ writtenIn core, Form item := by
      cases hform with
      | single fields => simp [writtenIn, Form.object]
      | list items h => exact h
    obtain ⟨frames, hframes⟩ := (listOfItems_isOk_iff _).mpr hitems
    exact ⟨frames, hform, (listOfItems_eq_ok_iff _ frames).mp hframes⟩

/-- A trace has a tree where it is read and has a frame. -/
theorem ofTrace_isOk_iff (style : Tree.Style) (j : Json) :
    (∃ tree, Tree.ofTrace style j = .ok tree) ↔
      ∃ frames, traceOfJson j = .ok frames ∧ frames ≠ [] := by
  rw [Tree.ofTrace]
  cases traceOfJson j with
  | error e => simp
  | ok frames =>
      cases frames with
      | nil => simp [Tree.ofFrames]
      | cons frame frames => simp [Tree.ofFrames]

/-- **Which values are traces.**  What is left of a value without its wrappers
decides whether it is a trace: it has to be an object or a list of frames, where
a frame is an object or a list of at most ten parts.  Its frames are then read
one by one in their order, and the trace has a tree if there is one at all. -/
theorem trace_reads_iff_form (j : Json) :
    ∃ core, j.Unwraps core ∧ (∀ other, j.Unwraps other → other = core) ∧
      ((∃ frames, traceOfJson j = .ok frames) ↔ TraceForm core) ∧
      (∀ frames, traceOfJson j = .ok frames →
        List.Forall₂ (fun item frame => ofJson item = .ok frame) (writtenIn core) frames) ∧
      ∀ style, (∃ tree, Tree.ofTrace style j = .ok tree) ↔
        ∃ frames, traceOfJson j = .ok frames ∧ frames ≠ [] := by
  obtain ⟨core, hcore⟩ := exists_unwraps j
  obtain ⟨hsame, hbare⟩ := traceOfJson_of_unwraps hcore
  refine ⟨core, hcore, fun other hother => hcore.unique hother, ?_, ?_, ?_⟩
  · rw [hsame]
    exact traceOfJson_isOk_iff hbare
  · intro frames hframes
    rw [hsame] at hframes
    exact ((traceOfJson_eq_ok_iff hbare frames).mp hframes).2
  · exact fun style => ofTrace_isOk_iff style j

end Frame

end CallTree
