import CallTree.Proofs.Log.Segments
import Mathlib.Data.List.TakeWhile
import Mathlib.Tactic.ByContra

/-!
# The record that is dropped, and the empty records that stay

The grouping drops the first record that it closes.  That record is meant to be
the one that stands open before the first header, and to be empty.  It is not
where the entries before the first header already say something: an entry that is
a record by itself is closed before the open record is, and a field fills the
open record.

The record that was meant to be dropped then stays.  Apart from it only a bare
header without a value opens an empty record, and that one is closed as soon as
the next header comes.

* `closedRecords` — all records that are closed, the dropped one included;
* `isEmpty_filled_iff` — a record is empty if nothing is ever written into it;
* `exists_empty_meaning_iff` — which headers leave an empty record behind;
* `dropped_and_empty_iff` — when the dropped record carries data, and when an
  empty record stays.
-/

namespace CallTree.Log

/-- All records that a list of entries closes. -/
def closedRecords (entries : List Entry) : List Record :=
  (entries.foldl Grouping.step Grouping.start).finish

/-- The record that is dropped, where any record is closed. -/
def dropped? (entries : List Entry) : Option Record :=
  (closedRecords entries).head?

/-- Whether an entry says something of its own: it is a record by itself or
writes a field. -/
def Entry.Says (e : Entry) : Prop :=
  e.isStandalone = true ∨ e.writtenField?.isSome = true

/-- Whether a bare header without a value comes before another header, and no
entry between them writes a field. -/
def LeavesEmpty (entries : List Entry) : Prop :=
  ∃ (before : List Entry) (bare : Entry) (between : List Entry) (next : Entry)
    (after : List Entry),
    entries = before ++ bare :: (between ++ next :: after) ∧
      bare.event = "log_named" ∧ bare.field "val" = none ∧ next.isHeader = true ∧
      ∀ e ∈ between, e.writtenField? = none

/-! ## Empty records -/

namespace Record

/-- A record that is not empty holds a name, an event or a field. -/
theorem isEmpty_eq_false_iff (r : Record) :
    r.isEmpty = false ↔ r.name ≠ none ∨ r.event ≠ none ∨ r.fields ≠ [] := by
  cases hname : r.name with
  | some name => simp [isEmpty, hname]
  | none =>
      cases hevent : r.event with
      | some event => simp [isEmpty, hname, hevent]
      | none => simp [isEmpty, hname, hevent]

/-- A record with a name is not empty. -/
theorem isEmpty_of_name {r : Record} {name : String} (h : r.name = some name) :
    r.isEmpty = false := by
  rw [isEmpty_eq_false_iff]
  left
  rw [h]
  exact Option.some_ne_none name

/-- A record into which a field was written is not empty. -/
theorem isEmpty_set (r : Record) (key value : String) : (r.set key value).isEmpty = false := by
  have hfields : setIn key value r.fields ≠ [] := by
    intro hnil
    have hlookup := lookup_setIn_self key value r.fields
    rw [hnil] at hlookup
    cases hlookup
  rw [isEmpty_eq_false_iff]
  exact Or.inr (Or.inr hfields)

/-- Writing fields changes nothing but the fields. -/
theorem foldl_set_eq (r : Record) (fields : List (String × String)) :
    fields.foldl (fun record field => record.set field.1 field.2) r =
      { r with
        fields := (fields.foldl (fun record field => record.set field.1 field.2) r).fields } := by
  induction fields generalizing r with
  | nil => rfl
  | cons field fields ih => exact ih (r.set field.1 field.2)

/-- A record of one entry by itself has the name and the event of the entry. -/
theorem ofEntry_eq (e : Entry) :
    ofEntry e = { opened e.name e.event with fields := (ofEntry e).fields } :=
  foldl_set_eq _ _

theorem isEmpty_ofEntry (e : Entry) : (ofEntry e).isEmpty = false :=
  isEmpty_of_name (congrArg name (ofEntry_eq e))

/-- Only a record without fields is still empty after fields were written. -/
theorem isEmpty_foldl_set (r : Record) (fields : List (String × String)) :
    (fields.foldl (fun record field => record.set field.1 field.2) r).isEmpty = true ↔
      r.isEmpty = true ∧ fields = [] := by
  induction fields generalizing r with
  | nil => simp
  | cons field fields ih =>
      rw [List.foldl_cons, ih, isEmpty_set]
      simp

end Record

/-- **A record is empty if nothing is ever written into it.** -/
theorem isEmpty_filled_iff (record : Record) (body : List Entry) :
    (filled record body).isEmpty = true ↔
      record.isEmpty = true ∧ ∀ e ∈ body, e.writtenField? = none := by
  rw [filled, Record.isEmpty_foldl_set, List.filterMap_eq_nil_iff]

/-- Only a bare header without a value opens an empty record. -/
theorem isEmpty_openedRecord_iff {e : Entry} (h : e.isHeader = true) :
    e.openedRecord.isEmpty = true ↔ e.event = "log_named" ∧ e.field "val" = none := by
  have hevent : e.event = "log_bytes32" ∨ e.event = "log_named" := by
    simpa [Entry.isHeader, headerEvents] using h
  rcases hevent with hnamed | hbare
  · have hopened : e.openedRecord.isEmpty = false := by
      rw [Entry.openedRecord, if_pos hnamed]
      exact Record.isEmpty_of_name rfl
    rw [hopened, hnamed]
    simp
  · rw [Entry.openedRecord, hbare, if_neg (by decide)]
    cases e.field "val" with
    | none => simp [Record.isEmpty, Record.empty]
    | some value => simp [Record.isEmpty, Record.empty]

/-- The records of standalone entries are not empty. -/
theorem isEmpty_of_mem_standaloneRecords {body : List Entry} {record : Record}
    (h : record ∈ standaloneRecords body) : record.isEmpty = false := by
  obtain ⟨e, _, rfl⟩ := List.mem_map.mp h
  exact Record.isEmpty_ofEntry e

theorem standaloneRecords_eq_nil_iff (body : List Entry) :
    standaloneRecords body = [] ↔ ∀ e ∈ body, e.isStandalone = false := by
  rw [standaloneRecords, List.map_eq_nil_iff, List.filter_eq_nil_iff]
  simp

/-! ## The dropped record -/

theorem closedRecords_eq_meaningFrom (entries : List Entry) :
    closedRecords entries =
      meaningFrom Record.empty (entries.takeWhile (!·.isHeader)) (headedSegments entries) := by
  rw [closedRecords, finish_foldl_step]
  rfl

/-- The dropped record stands before the others. -/
theorem closedRecords_eq (entries : List Entry) :
    closedRecords entries = (dropped? entries).toList ++ records entries := by
  rw [dropped?, records, ← closedRecords]
  cases closedRecords entries with
  | nil => rfl
  | cons record later => rfl

/-- What comes first after the open record is closed is not empty exactly if the
open record is not. -/
theorem head?_meaningAfter_iff (record : Record) (later : List Segment) :
    (∃ first, (meaningAfter record later).head? = some first ∧ first.isEmpty = false) ↔
      record.isEmpty = false := by
  cases later with
  | nil =>
      rw [meaningAfter]
      cases hempty : record.isEmpty with
      | true => simp
      | false => simpa [Record.isEmpty] using hempty
  | cons segment later =>
      rw [meaningAfter, List.head?_cons]
      simp [Record.isEmpty]

/-- The dropped record carries data where some entry before the first header says
something. -/
theorem dropped_carries_iff (entries : List Entry) :
    (∃ record, dropped? entries = some record ∧ record.isEmpty = false) ↔
      ∃ e ∈ entries.takeWhile (!·.isHeader), e.Says := by
  rw [dropped?, closedRecords_eq_meaningFrom, meaningFrom]
  generalize entries.takeWhile (!·.isHeader) = body
  cases hown : standaloneRecords body with
  | cons first rest =>
      -- a standalone entry comes first
      have hmem : first ∈ standaloneRecords body := by
        rw [hown]
        exact List.mem_cons_self
      have hfirst := isEmpty_of_mem_standaloneRecords hmem
      obtain ⟨e, he, _⟩ := List.mem_map.mp hmem
      obtain ⟨hbody, hsays⟩ := List.mem_filter.mp he
      exact ⟨fun _ => ⟨e, hbody, Or.inl hsays⟩, fun _ => ⟨first, rfl, hfirst⟩⟩
  | nil =>
      have hnone := (standaloneRecords_eq_nil_iff body).mp hown
      rw [List.nil_append, head?_meaningAfter_iff, ← Bool.not_eq_true, isEmpty_filled_iff]
      constructor
      · intro h
        by_contra hsilent
        apply h
        refine ⟨rfl, fun e he => ?_⟩
        cases hwritten : e.writtenField? with
        | none => rfl
        | some field => exact absurd ⟨e, he, Or.inr (by rw [hwritten]; rfl)⟩ hsilent
      · rintro ⟨e, he, hown | hwritten⟩ ⟨_, hsilent⟩
        · rw [hnone e he] at hown
          cases hown
        · rw [hsilent e he] at hwritten
          cases hwritten

/-! ## The empty records that stay -/

/-- A list of entries has segments with headers where it has a header. -/
theorem headedSegments_eq_nil_iff (entries : List Entry) :
    headedSegments entries = [] ↔ ∀ e ∈ entries, e.isHeader = false := by
  induction entries with
  | nil => simp [headedSegments]
  | cons e rest ih =>
      rw [headedSegments]
      cases hheader : e.isHeader with
      | true => simp [hheader]
      | false => simp [hheader, ih]

/-- What is closed from the open record on has an empty record where the open
one is empty and another segment follows, or behind that. -/
theorem exists_empty_meaningAfter_iff (record : Record) (later : List Segment) :
    (∃ r ∈ meaningAfter record later, r.isEmpty = true) ↔
      (later ≠ [] ∧ record.isEmpty = true) ∨ ∃ r ∈ Segment.meaning later, r.isEmpty = true := by
  have hgrouped (r : Record) : ({ r with grouped := true } : Record).isEmpty = r.isEmpty := rfl
  cases later with
  | nil =>
      cases hempty : record.isEmpty with
      | true => simp [meaningAfter, hempty, Segment.meaning]
      | false => simp [meaningAfter, hempty, hgrouped, Segment.meaning]
  | cons segment later =>
      simp [meaningAfter, hgrouped]

/-- The same from the first segment on. -/
theorem exists_empty_meaning_cons (segment : Segment) (later : List Segment) :
    (∃ r ∈ Segment.meaning (segment :: later), r.isEmpty = true) ↔
      (later ≠ [] ∧ segment.record.isEmpty = true) ∨
        ∃ r ∈ Segment.meaning later, r.isEmpty = true := by
  rw [meaning_cons, meaningFrom, ← exists_empty_meaningAfter_iff]
  constructor
  · rintro ⟨r, hmem, hempty⟩
    rcases List.mem_append.mp hmem with hown | hafter
    · rw [isEmpty_of_mem_standaloneRecords hown] at hempty
      cases hempty
    · exact ⟨r, hafter, hempty⟩
  · rintro ⟨r, hafter, hempty⟩
    exact ⟨r, List.mem_append_right _ hafter, hempty⟩

/-- A header follows before any field is written, if there is one at all and no
entry before the first one writes a field. -/
theorem exists_next_header_iff (entries : List Entry) :
    (∃ between next after, entries = between ++ next :: after ∧ next.isHeader = true ∧
        ∀ e ∈ between, e.writtenField? = none) ↔
      headedSegments entries ≠ [] ∧
        ∀ e ∈ entries.takeWhile (!·.isHeader), e.writtenField? = none := by
  constructor
  · rintro ⟨between, next, after, rfl, hheader, hsilent⟩
    refine ⟨?_, fun e he => hsilent e ?_⟩
    · intro hnil
      have hnone := (headedSegments_eq_nil_iff _).mp hnil next (by simp)
      rw [hheader] at hnone
      cases hnone
    · -- the first header is `next` or comes before it
      rw [List.takeWhile_append] at he
      split at he
      · rw [List.takeWhile_cons_of_neg (by simp [hheader]), List.append_nil] at he
        exact he
      · exact (List.takeWhile_sublist _).mem he
  · rintro ⟨hne, hsilent⟩
    have hheader : ∃ e ∈ entries, e.isHeader = true := by
      by_contra hnone
      apply hne
      rw [headedSegments_eq_nil_iff]
      intro e he
      cases h : e.isHeader with
      | false => rfl
      | true => exact absurd ⟨e, he, h⟩ hnone
    obtain ⟨e, he, h⟩ := hheader
    cases hrest : entries.dropWhile (!·.isHeader) with
    | nil =>
        have hall := List.dropWhile_eq_nil_iff.mp hrest e he
        rw [h] at hall
        cases hall
    | cons next after =>
        have hnext : next.isHeader = true := by
          have hfirst := List.head?_dropWhile_not (p := (!·.isHeader)) (l := entries)
          rw [hrest] at hfirst
          simpa using hfirst
        refine ⟨entries.takeWhile (!·.isHeader), next, after, ?_, hnext, hsilent⟩
        rw [← hrest, List.takeWhile_append_dropWhile]

/-- A bare header without a value leaves an empty record, or a later one does. -/
theorem leavesEmpty_cons (e : Entry) (rest : List Entry) :
    LeavesEmpty (e :: rest) ↔
      ((e.event = "log_named" ∧ e.field "val" = none) ∧
        ∃ between next after, rest = between ++ next :: after ∧ next.isHeader = true ∧
          ∀ e ∈ between, e.writtenField? = none) ∨ LeavesEmpty rest := by
  constructor
  · rintro ⟨before, bare, between, next, after, hentries, hevent, hval, hheader, hsilent⟩
    cases before with
    | nil =>
        obtain ⟨rfl, rfl⟩ := List.cons.inj hentries
        exact Or.inl ⟨⟨hevent, hval⟩, between, next, after, rfl, hheader, hsilent⟩
    | cons first before =>
        obtain ⟨_, rfl⟩ := List.cons.inj hentries
        exact Or.inr ⟨before, bare, between, next, after, rfl, hevent, hval, hheader, hsilent⟩
  · rintro (⟨⟨hevent, hval⟩, between, next, after, rfl, hheader, hsilent⟩ | hlater)
    · exact ⟨[], e, between, next, after, rfl, hevent, hval, hheader, hsilent⟩
    · obtain ⟨before, bare, between, next, after, rfl, hevent, hval, hheader, hsilent⟩ := hlater
      exact ⟨e :: before, bare, between, next, after, rfl, hevent, hval, hheader, hsilent⟩

/-- **Which headers leave an empty record behind**: bare ones without a value, if
the next header comes before any field. -/
theorem exists_empty_meaning_iff (entries : List Entry) :
    (∃ r ∈ Segment.meaning (headedSegments entries), r.isEmpty = true) ↔
      LeavesEmpty entries := by
  induction entries with
  | nil =>
      constructor
      · rintro ⟨r, hmem, _⟩
        cases hmem
      · rintro ⟨before, bare, between, next, after, hentries, _⟩
        simp at hentries
  | cons e rest ih =>
      rw [leavesEmpty_cons, ← ih, exists_next_header_iff, headedSegments]
      cases hheader : e.isHeader with
      | true =>
          have hrecord : (Segment.record ⟨some e, rest.takeWhile (!·.isHeader)⟩).isEmpty = true ↔
              (e.event = "log_named" ∧ e.field "val" = none) ∧
                ∀ e ∈ rest.takeWhile (!·.isHeader), e.writtenField? = none := by
            rw [Segment.record, isEmpty_filled_iff, ← isEmpty_openedRecord_iff hheader]
            rfl
          rw [if_pos rfl, exists_empty_meaning_cons, hrecord, and_left_comm]
      | false =>
          have hevent : e.event ≠ "log_named" := by
            intro hbare
            rw [Entry.isHeader, hbare] at hheader
            cases hheader
          simp [hevent]

/-- The records without the dropped one have an empty one where the open record
of the beginning stays, or a header leaves one behind. -/
theorem exists_empty_records_iff (entries : List Entry) :
    (∃ r ∈ records entries, r.isEmpty = true) ↔
      ((∃ e ∈ entries.takeWhile (!·.isHeader), e.isStandalone = true) ∧
        headedSegments entries ≠ [] ∧
        ∀ e ∈ entries.takeWhile (!·.isHeader), e.writtenField? = none) ∨
      LeavesEmpty entries := by
  have hrecords : records entries = (closedRecords entries).tail := rfl
  rw [hrecords, closedRecords_eq_meaningFrom, meaningFrom, ← exists_empty_meaning_iff]
  generalize entries.takeWhile (!·.isHeader) = body
  generalize headedSegments entries = later
  cases hown : standaloneRecords body with
  | nil =>
      -- the open record of the beginning is dropped
      have hnone := (standaloneRecords_eq_nil_iff body).mp hown
      have htail : (meaningAfter (filled Record.empty body) later).tail =
          Segment.meaning later := by
        cases later with
        | nil =>
            rw [meaningAfter]
            split
            · rfl
            · rfl
        | cons segment later => rfl
      rw [List.nil_append, htail]
      constructor
      · exact Or.inr
      · rintro (⟨⟨e, he, hstandalone⟩, _⟩ | hlater)
        · rw [hnone e he] at hstandalone
          cases hstandalone
        · exact hlater
  | cons first rest =>
      have hfirst : first ∈ standaloneRecords body := by
        rw [hown]
        exact List.mem_cons_self
      obtain ⟨e, he, _⟩ := List.mem_map.mp hfirst
      have hsome : ∃ e ∈ body, e.isStandalone = true := ⟨e, List.mem_filter.mp he⟩
      have hrest : ∀ r ∈ rest, r.isEmpty = false := by
        intro r hr
        have hmem : r ∈ standaloneRecords body := by
          rw [hown]
          exact List.mem_cons_of_mem _ hr
        exact isEmpty_of_mem_standaloneRecords hmem
      have hempty : (filled Record.empty body).isEmpty = true ↔
          ∀ e ∈ body, e.writtenField? = none := by
        rw [isEmpty_filled_iff]
        exact and_iff_right rfl
      rw [List.cons_append, List.tail_cons, ← hempty, and_iff_right hsome,
        ← exists_empty_meaningAfter_iff]
      constructor
      · rintro ⟨r, hmem, hr⟩
        rcases List.mem_append.mp hmem with hbefore | hafter
        · rw [hrest r hbefore] at hr
          cases hr
        · exact ⟨r, hafter, hr⟩
      · rintro ⟨r, hafter, hr⟩
        exact ⟨r, List.mem_append_right _ hafter, hr⟩

/-- **When the dropped record carries data, and when an empty record stays.**
The dropped record carries data exactly if an entry before the first header is a
record by itself or writes a field.  An empty record stays exactly if there is a
header and the entries before the first one include records by themselves but
write no field, or if a bare header without a value is followed by another header
and no entry between them writes a field. -/
theorem dropped_and_empty_iff (entries : List Entry) :
    closedRecords entries = (dropped? entries).toList ++ records entries ∧
    ((∃ record, dropped? entries = some record ∧
        (record.name ≠ none ∨ record.event ≠ none ∨ record.fields ≠ [])) ↔
      ∃ e ∈ entries.takeWhile (!·.isHeader), e.Says) ∧
    ((∃ record ∈ records entries, record.isEmpty = true) ↔
      ((∃ e ∈ entries, e.isHeader = true) ∧
        (∃ e ∈ entries.takeWhile (!·.isHeader), e.isStandalone = true) ∧
        ∀ e ∈ entries.takeWhile (!·.isHeader), e.writtenField? = none) ∨
      LeavesEmpty entries) := by
  refine ⟨closedRecords_eq entries, ?_, ?_⟩
  · simp only [← Record.isEmpty_eq_false_iff]
    exact dropped_carries_iff entries
  · have hheader : headedSegments entries ≠ [] ↔ ∃ e ∈ entries, e.isHeader = true := by
      rw [Ne, headedSegments_eq_nil_iff]
      simp
    rw [exists_empty_records_iff, hheader, and_left_comm]

end CallTree.Log
