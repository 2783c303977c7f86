import CallTree.Proofs.Json.Number
import CallTree.Proofs.Json.Text
import CallTree.Proofs.Json.Value
import Mathlib.Data.List.DropRight

/-!
# Written JSON values read back

The reader takes back what the printer wrote, with any blank characters between
the parts: a value is read up to where its text ends, and the reader stands
before what follows.  Containers are read item by item, each with less fuel than
twice the text that is left.

Objects come back with the fields they were written with, since their keys stand
in increasing order.  Integers come back as they are, finite doubles as finite
doubles.

* `value_write` — a written value reads back;
* `read_indented`, `readObject_indented` — so does the text of a whole value.
-/

namespace CallTree.Json

/-! ## Blank characters -/

/-- A spacing of blank characters alone. -/
structure Spacing.Blank (space : Spacing) : Prop where
  line : ∀ depth, ∀ c ∈ space.line depth, isSpace c = true
  colon : ∀ c ∈ space.colon, isSpace c = true

theorem Spacing.blank_indented : Spacing.indented.Blank where
  line := by
    intro depth c hc
    rcases List.mem_cons.mp hc with rfl | hc
    · decide
    · rw [List.eq_of_mem_replicate hc]
      decide
  colon := List.forall_mem_cons.mpr ⟨rfl, nofun⟩

theorem skipSpace_append {blank : List Char} (h : ∀ c ∈ blank, isSpace c = true)
    (s : List Char) : skipSpace (blank ++ s) = skipSpace s :=
  List.dropWhile_append_of_pos h

theorem skipSpace_cons {c : Char} (hc : isSpace c = false) (s : List Char) :
    skipSpace (c :: s) = c :: s := by
  rw [skipSpace, List.dropWhile_cons, hc]
  rfl

theorem skipSpace_skipSpace (s : List Char) : skipSpace (skipSpace s) = skipSpace s :=
  List.dropWhile_idempotent _ s

/-- Blank characters do not go on with a number. -/
theorem ended_append {blank s : List Char} (h : ∀ c ∈ blank, isSpace c = true) (hs : Ended s) :
    Ended (blank ++ s) := by
  cases blank with
  | nil => exact hs
  | cons c blank =>
      have hc : isSpace c = true := h c List.mem_cons_self
      refine ended_cons ?_ (blank ++ s)
      simp only [isSpace, Bool.or_eq_true, beq_iff_eq] at hc
      rcases hc with ((rfl | rfl) | rfl) | rfl <;> decide

/-- Only the text after the blank characters at its start counts for a value. -/
theorem value_congr {s t : List Char} (h : skipSpace s = skipSpace t) {fuel : Nat}
    (hfuel : 0 < fuel) (levels : Nat) : value fuel levels s = value fuel levels t := by
  obtain ⟨fuel, rfl⟩ : ∃ below, fuel = below + 1 := ⟨fuel - 1, by omega⟩
  rw [value, value, h]

/-- What reads as a value begins neither with the end of the text nor with that
of a container. -/
theorem head_of_value {fuel levels : Nat} {s : List Char} {read : Json × List Char}
    (h : value fuel levels s = .ok read) :
    ∃ c tail, skipSpace s = c :: tail ∧ c ≠ ']' ∧ value fuel levels (c :: tail) = .ok read := by
  cases fuel with
  | zero =>
      rw [value] at h
      cases h
  | succ fuel =>
      have hcongr := value_congr (skipSpace_skipSpace s) (Nat.succ_pos fuel) levels
      cases hskip : skipSpace s with
      | nil =>
          rw [value, hskip] at h
          cases h
      | cons c tail =>
          rw [hskip] at hcongr
          refine ⟨c, tail, rfl, ?_, hcongr.trans h⟩
          rintro rfl
          rw [value, hskip] at h
          cases h

/-! ## Containers -/

variable {space : Spacing} {levels : Nat} {rest : List Char}

/-- The value that a written value reads as. -/
def reread (j : Json) : Json :=
  j.mapNumbers rereadNumber

/-- A value without doubles reads as itself. -/
theorem reread_eq_self {j : Json} (h : j.Numbers WholeNumber) : j.reread = j := by
  refine mapNumbers_eq_self (f := rereadNumber) ?_
  induction h with
  | null => exact .null
  | bool b => exact .bool b
  | num h => exact .num h.reread
  | str s => exact .str s
  | arr _ ih => exact .arr ih
  | obj _ ih => exact .obj ih

/-- A value of which the text reads back, with enough fuel. -/
def ReadsBack (space : Spacing) (levels : Nat) (j : Json) : Prop :=
  ∀ (depth fuel : Nat) (rest : List Char), Ended rest →
    2 * (write space depth j ++ rest).length + 2 ≤ fuel →
      value fuel levels (write space depth j ++ rest) = .ok (j.reread, rest)

theorem ended_writeItems (hspace : space.Blank) (depth : Nat) (items : List Json) :
    Ended (writeItems space depth items ++ rest) := by
  cases items with
  | nil =>
      rw [writeItems, List.append_assoc]
      exact ended_append (hspace.line depth) (ended_cons (by decide) rest)
  | cons item items => exact ended_cons (by decide) _

theorem ended_writeFields (hspace : space.Blank) (depth : Nat) (fields : List (String × Json)) :
    Ended (writeFields space depth fields ++ rest) := by
  cases fields with
  | nil =>
      rw [writeFields, List.append_assoc]
      exact ended_append (hspace.line depth) (ended_cons (by decide) rest)
  | cons field fields => exact ended_cons (by decide) _

/-- The items after the first one read back. -/
theorem moreItems_write (hspace : space.Blank) {items : List Json}
    (hitems : ∀ item ∈ items, ReadsBack space levels item) (depth fuel : Nat) (rest : List Char)
    (hfuel : 2 * (writeItems space depth items ++ rest).length + 1 ≤ fuel) :
    moreItems fuel levels (writeItems space depth items ++ rest) =
      .ok (mapNumbersOfItems rereadNumber items, rest) := by
  induction items generalizing fuel with
  | nil =>
      obtain ⟨fuel, rfl⟩ : ∃ below, fuel = below + 1 := ⟨fuel - 1, by omega⟩
      rw [writeItems, List.append_assoc, moreItems, skipSpace_append (hspace.line depth)]
      rfl
  | cons item items ih =>
      obtain ⟨hitem, hitems⟩ := List.forall_mem_cons.mp hitems
      obtain ⟨fuel, rfl⟩ : ∃ below, fuel = below + 1 := ⟨fuel - 1, by omega⟩
      set back := writeItems space depth items ++ rest with hback
      have htext : writeItems space depth (item :: items) ++ rest =
          ',' :: (space.line (depth + 1) ++ (write space (depth + 1) item ++ back)) := by
        simp only [writeItems, hback, List.append_assoc, List.cons_append]
      rw [htext] at hfuel ⊢
      simp only [List.length_cons, List.length_append] at hfuel
      have hread := hitem (depth + 1) fuel back (ended_writeItems hspace depth items)
        (by simp only [List.length_append]; omega)
      obtain ⟨c, tail, hskip, hc, hvalue⟩ := head_of_value hread
      rw [moreItems, skipSpace_cons (by decide)]
      simp only [skipSpace_append (hspace.line (depth + 1)), hskip]
      split
      · contradiction
      · rename_i heq
        exact absurd (List.cons.inj heq).1 hc
      · rw [hvalue]
        simp only [bind, Except.bind, ih hitems fuel (show 2 * back.length + 1 ≤ fuel by omega)]
        rfl

theorem firstItem_close (fuel : Nat) (rest : List Char) :
    firstItem (fuel + 1) levels (']' :: rest) = .ok ([], rest) := by
  rw [firstItem, skipSpace_cons (by decide)]
  rfl

/-- **The items of an array read back**, after its opening bracket. -/
theorem firstItem_write (hspace : space.Blank) {items : List Json}
    (hitems : ∀ item ∈ items, ReadsBack space levels item) (depth : Nat) :
    ∃ body, write space depth (.arr items) = '[' :: body ∧
      ∀ (fuel : Nat) (rest : List Char), 2 * (body ++ rest).length + 3 ≤ fuel →
        firstItem fuel levels (body ++ rest) =
          .ok (mapNumbersOfItems rereadNumber items, rest) := by
  cases items with
  | nil =>
      refine ⟨[']'], rfl, fun fuel rest hfuel => ?_⟩
      obtain ⟨fuel, rfl⟩ : ∃ below, fuel = below + 1 := ⟨fuel - 1, by omega⟩
      exact firstItem_close fuel rest
  | cons item items =>
      obtain ⟨hitem, hitems⟩ := List.forall_mem_cons.mp hitems
      refine ⟨space.line (depth + 1) ++ (write space (depth + 1) item ++
        writeItems space depth items), ?_, fun fuel rest hfuel => ?_⟩
      · simp only [write, List.append_assoc, List.cons_append]
      obtain ⟨fuel, rfl⟩ : ∃ below, fuel = below + 1 := ⟨fuel - 1, by omega⟩
      rw [List.append_assoc, List.append_assoc] at hfuel ⊢
      have hmore := moreItems_write hspace hitems depth fuel rest
        (by simp only [List.length_append] at hfuel ⊢; omega)
      set back := writeItems space depth items ++ rest with hback
      have hread := hitem (depth + 1) fuel back (ended_writeItems hspace depth items)
        (by simp only [List.length_append] at hfuel ⊢; omega)
      obtain ⟨c, tail, hskip, hc, hvalue⟩ := head_of_value hread
      rw [firstItem, skipSpace_append (hspace.line (depth + 1)), hskip]
      split
      · contradiction
      · rename_i heq
        exact absurd (List.cons.inj heq).1 hc
      · rw [hvalue]
        simp only [bind, Except.bind, hmore]
        rfl

theorem colon_cons (s : List Char) : colon (':' :: s) = .ok s := by
  rw [colon, skipSpace_cons (by decide)]
  rfl

/-- A value may stand after blank characters. -/
theorem value_append {blank : List Char} (h : ∀ c ∈ blank, isSpace c = true) (s : List Char)
    {fuel : Nat} (hfuel : 0 < fuel) (levels : Nat) :
    value fuel levels (blank ++ s) = value fuel levels s :=
  value_congr (skipSpace_append h s) hfuel levels

/-- The fields after the first one read back. -/
theorem moreFields_write (hspace : space.Blank) {fields : List (String × Json)}
    (hfields : ∀ field ∈ fields, ReadsBack space levels field.2) (depth fuel : Nat)
    (rest : List Char)
    (hfuel : 2 * (writeFields space depth fields ++ rest).length + 1 ≤ fuel) :
    moreFields fuel levels (writeFields space depth fields ++ rest) =
      .ok (mapNumbersOfFields rereadNumber fields, rest) := by
  induction fields generalizing fuel with
  | nil =>
      obtain ⟨fuel, rfl⟩ : ∃ below, fuel = below + 1 := ⟨fuel - 1, by omega⟩
      rw [writeFields, List.append_assoc, moreFields, skipSpace_append (hspace.line depth)]
      rfl
  | cons field fields ih =>
      obtain ⟨key, item⟩ := field
      obtain ⟨hitem, hfields⟩ := List.forall_mem_cons.mp hfields
      obtain ⟨fuel, rfl⟩ : ∃ below, fuel = below + 1 := ⟨fuel - 1, by omega⟩
      obtain ⟨body, hkey, hstring⟩ := string_stringText key
      set back := writeFields space depth fields ++ rest with hback
      have htext : writeFields space depth ((key, item) :: fields) ++ rest =
          ',' :: (space.line (depth + 1) ++ '"' :: (body ++ ':' :: (space.colon ++
            (write space (depth + 1) item ++ back)))) := by
        simp only [writeFields, hkey, hback, List.append_assoc, List.cons_append]
      rw [htext] at hfuel ⊢
      simp only [List.length_cons, List.length_append] at hfuel
      have hread := hitem (depth + 1) fuel back (ended_writeFields hspace depth fields)
        (by simp only [List.length_append]; omega)
      rw [← value_append hspace.colon _ (by omega)] at hread
      rw [moreFields, skipSpace_cons (by decide)]
      simp only [skipSpace_append (hspace.line (depth + 1)),
        skipSpace_cons (show isSpace '"' = false by decide), hstring, colon_cons, hread,
        ih hfields fuel (show 2 * back.length + 1 ≤ fuel by omega), bind, Except.bind]
      rfl

theorem firstField_close (fuel : Nat) (rest : List Char) :
    firstField (fuel + 1) levels ('}' :: rest) = .ok ([], rest) := by
  rw [firstField, skipSpace_cons (by decide)]
  rfl

/-- **The fields of an object read back**, after its opening brace. -/
theorem firstField_write (hspace : space.Blank) {fields : List (String × Json)}
    (hfields : ∀ field ∈ fields, ReadsBack space levels field.2) (depth : Nat) :
    ∃ body, write space depth (.obj fields) = '{' :: body ∧
      ∀ (fuel : Nat) (rest : List Char), 2 * (body ++ rest).length + 1 ≤ fuel →
        firstField fuel levels (body ++ rest) =
          .ok (mapNumbersOfFields rereadNumber fields, rest) := by
  rcases fields with _ | ⟨⟨key, item⟩, fields⟩
  · refine ⟨['}'], rfl, fun fuel rest hfuel => ?_⟩
    obtain ⟨fuel, rfl⟩ : ∃ below, fuel = below + 1 := ⟨fuel - 1, by omega⟩
    exact firstField_close fuel rest
  · obtain ⟨hitem, hfields⟩ := List.forall_mem_cons.mp hfields
    obtain ⟨name, hkey, hstring⟩ := string_stringText key
    refine ⟨space.line (depth + 1) ++ '"' :: (name ++ ':' :: (space.colon ++
      (write space (depth + 1) item ++ writeFields space depth fields))), ?_,
      fun fuel rest hfuel => ?_⟩
    · simp only [write, hkey, List.append_assoc, List.cons_append]
    obtain ⟨fuel, rfl⟩ : ∃ below, fuel = below + 1 := ⟨fuel - 1, by omega⟩
    simp only [List.append_assoc, List.cons_append, List.length_append, List.length_cons]
      at hfuel ⊢
    have hmore := moreFields_write hspace hfields depth fuel rest
      (by simp only [List.length_append]; omega)
    set back := writeFields space depth fields ++ rest with hback
    have hlength : back.length = (writeFields space depth fields).length + rest.length :=
      List.length_append
    have hread := hitem (depth + 1) fuel back (ended_writeFields hspace depth fields)
      (by simp only [List.length_append]; omega)
    rw [← value_append hspace.colon _ (by omega)] at hread
    rw [firstField, skipSpace_append (hspace.line (depth + 1)), skipSpace_cons (by decide)]
    simp only [hstring, colon_cons, hread, hmore, bind, Except.bind]
    rfl

/-! ## Values -/

/-- The reader goes on to the items of an array. -/
theorem value_bracket (fuel : Nat) (s : List Char) :
    value (fuel + 1) (levels + 1) ('[' :: s) =
      (firstItem fuel levels s).map fun (items, rest) => (.arr items, rest) := by
  rw [value, skipSpace_cons (by decide)]
  rfl

/-- The reader goes on to the fields of an object. -/
theorem value_brace (fuel : Nat) (s : List Char) :
    value (fuel + 1) (levels + 1) ('{' :: s) =
      (firstField fuel levels s).map fun (fields, rest) => (ofFields fields, rest) := by
  rw [value, skipSpace_cons (by decide)]
  rfl

/-- The object of fields with increasing keys lists them as they are. -/
theorem ofFields_of_increasing {fields : List (String × Json)}
    (h : (KeyMap.keysOf fields).Pairwise (· < ·)) : ofFields fields = .obj fields :=
  congrArg Json.obj (KeyMap.foldl_insertEntry_of_increasing fields h)

/-- The reader goes on to a value that is no container. -/
theorem value_scalar {fuel : Nat} {c : Char} {s : List Char} (hspace : isSpace c = false)
    (harray : c ≠ '[') (hobject : c ≠ '{') :
    value (fuel + 1) levels (c :: s) = scalar (c :: s) := by
  rw [value, skipSpace_cons hspace]
  split
  · rename_i heq
    exact absurd (List.cons.inj heq).1 harray
  · rename_i heq
    exact absurd (List.cons.inj heq).1 hobject
  · rfl

/-- What reads as a number begins with a digit or a sign. -/
theorem head_of_scalar {s : List Char} {n : Number} (h : scalar s = .ok (.num n, rest)) :
    ∃ c tail, s = c :: tail ∧ (c = '-' ∨ c.isDigit = true) := by
  unfold scalar at h
  split at h
  case h_6 => exact ⟨'-', _, rfl, Or.inl rfl⟩
  case h_7 c tail _ _ _ _ _ =>
    split at h
    · rename_i hc
      exact ⟨c, tail, rfl, Or.inr hc⟩
    · cases h
  · cases h
  all_goals
    exfalso
    revert h
    simp only [Except.map]
    split <;> simp

/-- A digit or a sign is neither blank nor the start of a container. -/
theorem value_number {fuel : Nat} {c : Char} {s : List Char} (hc : c = '-' ∨ c.isDigit = true) :
    value (fuel + 1) levels (c :: s) = scalar (c :: s) := by
  have hother : ∀ c', (c' == '-' || c'.isDigit) = false → c ≠ c' := by
    rintro c' hc' rfl
    rcases hc with rfl | hc
    · simp at hc'
    · simp [hc] at hc'
  refine value_scalar ?_ (hother _ (by decide)) (hother _ (by decide))
  have hblank := fun c' h => beq_eq_false_iff_ne.mpr (hother c' h)
  rw [isSpace, hblank ' ' (by decide), hblank '\n' (by decide), hblank '\t' (by decide),
    hblank '\r' (by decide)]
  rfl

/-- **A written value reads back**, up to where its text ends. -/
theorem readsBack_of_fits (hspace : space.Blank) {j : Json} (h : Fits NumberInRange levels j) :
    ReadsBack space levels j := by
  induction h with
  | null =>
      intro depth fuel rest _ hfuel
      obtain ⟨fuel, rfl⟩ : ∃ below, fuel = below + 1 := ⟨fuel - 1, by omega⟩
      exact (value_scalar (by decide) (by decide) (by decide)).trans rfl
  | bool b =>
      intro depth fuel rest _ hfuel
      obtain ⟨fuel, rfl⟩ : ∃ below, fuel = below + 1 := ⟨fuel - 1, by omega⟩
      cases b <;> exact (value_scalar (by decide) (by decide) (by decide)).trans rfl
  | num hn =>
      intro depth fuel rest hrest hfuel
      obtain ⟨fuel, rfl⟩ : ∃ below, fuel = below + 1 := ⟨fuel - 1, by omega⟩
      have hread := scalar_numberText hn hrest
      obtain ⟨c, tail, htext, hc⟩ := head_of_scalar hread
      rw [write, htext, value_number hc, ← htext, hread]
      rfl
  | str s =>
      intro depth fuel rest _ hfuel
      obtain ⟨fuel, rfl⟩ : ∃ below, fuel = below + 1 := ⟨fuel - 1, by omega⟩
      obtain ⟨body, hbody, hstring⟩ := string_stringText s
      rw [write, hbody, List.cons_append, value_scalar (by decide) (by decide) (by decide), scalar,
        hstring]
      rfl
  | @arr levels items _ ih =>
      intro depth fuel rest _ hfuel
      obtain ⟨fuel, rfl⟩ : ∃ below, fuel = below + 1 := ⟨fuel - 1, by omega⟩
      obtain ⟨body, htext, hread⟩ := firstItem_write hspace ih depth
      rw [htext, List.cons_append] at hfuel ⊢
      rw [List.length_cons] at hfuel
      rw [value_bracket, hread fuel rest (by omega)]
      rfl
  | @obj levels fields increasing _ ih =>
      intro depth fuel rest _ hfuel
      obtain ⟨fuel, rfl⟩ : ∃ below, fuel = below + 1 := ⟨fuel - 1, by omega⟩
      obtain ⟨body, htext, hread⟩ := firstField_write hspace ih depth
      rw [htext, List.cons_append] at hfuel ⊢
      rw [List.length_cons] at hfuel
      rw [← keysOf_mapNumbersOfFields (f := rereadNumber)] at increasing
      rw [value_brace, hread fuel rest (by omega)]
      simp only [Except.map, ofFields_of_increasing increasing, reread, mapNumbers]

/-! ## Whole texts -/

theorem toList_indented (j : Json) : j.indented.toList = write Spacing.indented 0 j :=
  String.toList_ofList

/-- Nothing follows a text that was read to its end. -/
theorem finish_nil {α : Type} (text : List Char) (result : α) :
    finish text (.ok (result, [])) = .ok result := rfl

/-- **The indented text of a value reads back.** -/
theorem read_indented {j : Json} (h : Fits NumberInRange maxLevels j) :
    read j.indented = .ok j.reread := by
  have hread := readsBack_of_fits Spacing.blank_indented h 0
    (fuelFor (write Spacing.indented 0 j)) [] ended_nil (by rw [List.append_nil, fuelFor])
  rw [List.append_nil] at hread
  simp only [read, readNested, toList_indented, hread, finish_nil]

/-- **The indented text of an object reads back as its fields.** -/
theorem readObject_indented {fields : List (String × Json)}
    (h : Fits NumberInRange maxLevels (.obj fields)) :
    readObject (Json.obj fields).indented = .ok (mapNumbersOfFields rereadNumber fields) := by
  obtain ⟨increasing, hfields⟩ : (KeyMap.keysOf fields).Pairwise (· < ·) ∧
      ∀ field ∈ fields, Fits NumberInRange (maxLevels - 1) field.2 := by
    cases h with
    | obj increasing h => exact ⟨increasing, h⟩
  obtain ⟨body, htext, hread⟩ := firstField_write Spacing.blank_indented
    (fun field hmem => readsBack_of_fits Spacing.blank_indented (hfields field hmem)) 0
  have hall := hread (fuelFor ('{' :: body)) [] (by
    rw [fuelFor, List.append_nil, List.length_cons]
    omega)
  rw [← keysOf_mapNumbersOfFields (f := rereadNumber)] at increasing
  rw [List.append_nil] at hall
  simp only [readObject, toList_indented, htext,
    skipSpace_cons (show isSpace '{' = false by decide)]
  rw [hall, Except.map]
  simp only [KeyMap.foldl_insertEntry_of_increasing _ increasing, finish_nil]

end CallTree.Json
