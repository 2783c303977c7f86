import CallTree.Log.Grouping

/-!
# The grouping of log entries, segment by segment

A header starts a new record, so a list of entries falls into segments: the
entries before the first header, and for every header the entries from it to
the next one.  Each segment means one record, which its header opens and the
field entries after it fill, and in front of that record all entries of other
events, each a record by itself.

The grouping reads the entries once and keeps only the open record.  Reading an
entry that is no header fills that record or closes a record of its own, and
reading a header closes it; so what the grouping has closed is always the
meaning of the segments that have ended, and the open record is what the last
segment has meant so far.

* `Entry.writtenField?_eq_fieldOf` — the field that an entry writes is the one that is
  taken from it;
* `step_of_header`, `step_of_not_header` — what one entry does to the grouping;
* `finish_foldl_step` — what a whole run closes;
* `records_eq_tail_meaning` — the records are the meaning of the segments,
  without its first record;
* `length_records_le` — there are no more records than entries.
-/

namespace CallTree.Log

/-- The events that open a record. -/
def headerEvents : List String := ["log_bytes32", "log_named"]

/-- The events of fields that hold text. -/
def textFieldEvents : List String := ["log_named_bytes32", "log_named_string"]

/-- The events of fields that hold any other value. -/
def valueFieldEvents : List String :=
  ["log_named_address", "log_named_bool", "log_named_decimal_int", "log_named_decimal_uint",
    "log_named_int", "log_named_uint"]

namespace Entry

/-- Whether an entry opens a record. -/
def isHeader (e : Entry) : Bool :=
  headerEvents.contains e.event

/-- Whether an entry has an event outside the convention. -/
def isStandalone (e : Entry) : Bool :=
  !("logs" :: headerEvents ++ textFieldEvents ++ valueFieldEvents).contains e.event

/-- The text that a value has in the field of an entry, where the entry has the event of
a field: the value as text, or as values are shown. -/
def fieldText? (e : Entry) (value : Token) : Option String :=
  if textFieldEvents.contains e.event then some value.label
  else if valueFieldEvents.contains e.event then some value.display
  else none

/-- The field that an entry writes, where it is a field entry with a key and a
value; its name is the key as text, without spaces. -/
def writtenField? (e : Entry) : Option (String × String) :=
  (e.field "key").bind fun key =>
    (e.field "val").bind fun value =>
      (e.fieldText? value).map fun text =>
        (String.ofList (key.label.toList.filter (· != ' ')), text)

/-- The record that a header opens. -/
def openedRecord (e : Entry) : Record :=
  if e.event = "log_bytes32" then
    Record.opened e.name ((e.firstValue.map Token.label).getD "")
  else
    { Record.empty with
      fields := ((e.field "val").map fun value => ("named", value.display)).toList }

end Entry

/-- The entries from one header to the next; the first segment of a list has no
header. -/
structure Segment where
  header : Option Entry
  body : List Entry

/-- A record with the fields of several entries written into it, in order. -/
def filled (record : Record) (body : List Entry) : Record :=
  (body.filterMap Entry.writtenField?).foldl (fun record field => record.set field.1 field.2)
    record

/-- The records of the entries that are records by themselves. -/
def standaloneRecords (body : List Entry) : List Record :=
  (body.filter Entry.isStandalone).map Record.ofEntry

namespace Segment

/-- The record that the header of a segment opens. -/
def start (segment : Segment) : Record :=
  (segment.header.map Entry.openedRecord).getD Record.empty

/-- The record of a segment. -/
def record (segment : Segment) : Record :=
  filled segment.start segment.body

/-- What several segments mean: for each the records of its standalone entries
and its own record; the record of the last one only if it holds anything. -/
def meaning : List Segment → List Record
  | [] => []
  | [last] =>
      standaloneRecords last.body ++
        (if last.record.isEmpty then [] else [{ last.record with grouped := true }])
  | segment :: later =>
      standaloneRecords segment.body ++ { segment.record with grouped := true } :: meaning later

end Segment

/-- The segments that headers begin. -/
def headedSegments : List Entry → List Segment
  | [] => []
  | e :: rest =>
      if e.isHeader then ⟨some e, rest.takeWhile (!·.isHeader)⟩ :: headedSegments rest
      else headedSegments rest

/-- All segments of a list of entries. -/
def segments (entries : List Entry) : List Segment :=
  ⟨none, entries.takeWhile (!·.isHeader)⟩ :: headedSegments entries

/-- The entries of a segment. -/
def Segment.entries (segment : Segment) : List Entry :=
  segment.header.toList ++ segment.body

theorem flatMap_headedSegments (entries : List Entry) :
    (headedSegments entries).flatMap Segment.entries = entries.dropWhile (!·.isHeader) := by
  induction entries with
  | nil => rfl
  | cons e rest ih =>
      cases hheader : e.isHeader with
      | true =>
          rw [headedSegments, if_pos hheader, List.flatMap_cons, ih,
            List.dropWhile_cons_of_neg (by simp [hheader]), Segment.entries, Option.toList_some,
            List.append_assoc, List.takeWhile_append_dropWhile, List.singleton_append]
      | false =>
          rw [headedSegments, if_neg (by simp [hheader]), ih,
            List.dropWhile_cons_of_pos (by simp [hheader])]

/-- The segments of a list put together are the list. -/
theorem flatMap_segments (entries : List Entry) :
    (segments entries).flatMap Segment.entries = entries := by
  rw [segments, List.flatMap_cons, flatMap_headedSegments]
  exact List.takeWhile_append_dropWhile

/-! ## The field of an entry -/

namespace Entry

variable {e : Entry}

/-- Where the event says how a value is shown, the field that is written is the one that
is taken from the entry. -/
theorem writtenField?_eq_fieldOf {asText : Bool}
    (h : ∀ value, e.fieldText? value = some (if asText then value.label else value.display)) :
    e.writtenField? = fieldOf asText e := by
  unfold writtenField? fieldOf
  cases e.field "key" with
  | none => rfl
  | some key =>
      cases e.field "val" with
      | none => rfl
      | some value => rw [Option.bind_some, Option.bind_some, h, Option.map_some]

theorem writtenField?_eq_none (h : ∀ value, e.fieldText? value = none) :
    e.writtenField? = none := by
  simp [writtenField?, h]

/-- What is written has a name without spaces. -/
theorem space_notMem_of_writtenField? {name text : String}
    (h : e.writtenField? = some (name, text)) : ' ' ∉ name.toList := by
  obtain ⟨key, -, h⟩ := Option.bind_eq_some_iff.mp h
  obtain ⟨value, -, h⟩ := Option.bind_eq_some_iff.mp h
  obtain ⟨_, -, hfield⟩ := Option.map_eq_some_iff.mp h
  obtain ⟨rfl, -⟩ := Prod.mk.inj hfield
  simp

end Entry

/-! ## One entry -/

/-- A header closes the open record and opens its own. -/
theorem Grouping.step_of_header {e : Entry} (h : e.isHeader = true) (g : Grouping) :
    g.step e = g.flush e.openedRecord := by
  have hevent : e.event = "log_bytes32" ∨ e.event = "log_named" := by
    simpa [Entry.isHeader, headerEvents] using h
  rcases hevent with hheader | hbare
  · have hrole : Role.ofEvent e.event = .header := by rw [hheader]; rfl
    have hrecord : Record.ofHeader e = e.openedRecord := by
      rw [Record.ofHeader, Entry.openedRecord, if_pos hheader]
    rw [step, hrole, hrecord]
  · have hrole : Role.ofEvent e.event = .bareHeader := by rw [hbare]; rfl
    have hrecord : Record.ofBareHeader e = e.openedRecord := by
      rw [Record.ofBareHeader, Entry.openedRecord, hbare, if_neg (by decide)]
      cases e.field "val" with
      | none => rfl
      | some value => rfl
    rw [step, hrole, hrecord]

/-- A field entry writes its field. -/
private theorem step_of_field {e : Entry} {asText : Bool}
    (hrole : Role.ofEvent e.event = .field asText)
    (htext : ∀ value, e.fieldText? value = some (if asText then value.label else value.display))
    (hown : e.isStandalone = false) (g : Grouping) :
    g.step e = ⟨g.closed ++ standaloneRecords [e], filled g.current [e]⟩ := by
  have hfield := Entry.writtenField?_eq_fieldOf htext
  rw [Grouping.step, hrole]
  cases hwritten : fieldOf asText e with
  | none => simp [standaloneRecords, filled, hown, hfield, hwritten]
  | some field => simp [standaloneRecords, filled, hown, hfield, hwritten]

/-- Any other entry closes a record of its own or writes a field. -/
theorem Grouping.step_of_not_header {e : Entry} (h : e.isHeader = false) (g : Grouping) :
    g.step e = ⟨g.closed ++ standaloneRecords [e], filled g.current [e]⟩ := by
  have hnot : e.event ≠ "log_bytes32" ∧ e.event ≠ "log_named" := by
    simpa [Entry.isHeader, headerEvents] using h
  by_cases hmarker : e.event = "logs"
  · have hrole : Role.ofEvent e.event = .marker := by rw [hmarker]; rfl
    have hown : e.isStandalone = false := by rw [Entry.isStandalone, hmarker]; rfl
    have hfield : e.writtenField? = none :=
      Entry.writtenField?_eq_none fun _ => by rw [Entry.fieldText?, hmarker]; rfl
    rw [step, hrole]
    simp [standaloneRecords, filled, hown, hfield]
  · by_cases htext : e.event ∈ textFieldEvents
    · have hrole : Role.ofEvent e.event = .field true := by
        rw [Role.ofEvent, if_neg hmarker, if_neg hnot.1, if_neg hnot.2]
        exact if_pos htext
      exact step_of_field hrole (fun _ => by simp [Entry.fieldText?, htext])
        (by simp [Entry.isStandalone, htext]) g
    · by_cases hvalue : e.event ∈ valueFieldEvents
      · have hrole : Role.ofEvent e.event = .field false := by
          rw [Role.ofEvent, if_neg hmarker, if_neg hnot.1, if_neg hnot.2, if_neg (by exact htext)]
          exact if_pos hvalue
        exact step_of_field hrole (fun _ => by simp [Entry.fieldText?, htext, hvalue])
          (by simp [Entry.isStandalone, hvalue]) g
      · have hrole : Role.ofEvent e.event = .standalone := by
          rw [Role.ofEvent, if_neg hmarker, if_neg hnot.1, if_neg hnot.2, if_neg (by exact htext),
            if_neg (by exact hvalue)]
        have hown : e.isStandalone = true := by
          simp [Entry.isStandalone, headerEvents, hmarker, hnot, htext, hvalue]
        have hfield : e.writtenField? = none :=
          Entry.writtenField?_eq_none fun _ => by simp [Entry.fieldText?, htext, hvalue]
        rw [step, hrole]
        simp [standaloneRecords, filled, hown, hfield]

/-! ## A whole run -/

theorem standaloneRecords_cons (e : Entry) (body : List Entry) :
    standaloneRecords (e :: body) = standaloneRecords [e] ++ standaloneRecords body := by
  simp [standaloneRecords, ← List.map_append, ← List.filter_append]

theorem filled_cons (record : Record) (e : Entry) (body : List Entry) :
    filled record (e :: body) = filled (filled record [e]) body := by
  rw [filled, filled, filled, ← List.foldl_append, ← List.filterMap_append,
    List.singleton_append]

/-- What an open record and the segments after its own mean. -/
def meaningAfter (record : Record) : List Segment → List Record
  | [] => if record.isEmpty then [] else [{ record with grouped := true }]
  | segment :: later => { record with grouped := true } :: Segment.meaning (segment :: later)

/-- What all segments mean when `body` is what is left of the first one, of
which `record` is what it has meant so far. -/
def meaningFrom (record : Record) (body : List Entry) (later : List Segment) : List Record :=
  standaloneRecords body ++ meaningAfter (filled record body) later

theorem meaning_cons (segment : Segment) (later : List Segment) :
    Segment.meaning (segment :: later) = meaningFrom segment.start segment.body later := by
  cases later with
  | nil => rfl
  | cons next later => rfl

/-- A segment of which nothing is left means the open record. -/
theorem meaningFrom_nil (record : Record) (segment : Segment) (later : List Segment) :
    meaningFrom record [] (segment :: later) =
      { record with grouped := true } :: Segment.meaning (segment :: later) :=
  rfl

/-- What has been read belongs to the open record or has been closed. -/
theorem meaningFrom_cons (record : Record) (e : Entry) (body : List Entry)
    (later : List Segment) :
    meaningFrom record (e :: body) later =
      standaloneRecords [e] ++ meaningFrom (filled record [e]) body later := by
  rw [meaningFrom, meaningFrom, standaloneRecords_cons, filled_cons, List.append_assoc]

/-- **A run closes the meaning of all segments**, of which the open record is
the first. -/
theorem finish_foldl_step (g : Grouping) (entries : List Entry) :
    (entries.foldl Grouping.step g).finish =
      g.closed ++
        meaningFrom g.current (entries.takeWhile (!·.isHeader)) (headedSegments entries) := by
  induction entries generalizing g with
  | nil =>
      rw [List.foldl_nil, Grouping.finish, List.takeWhile_nil]
      have hrest : meaningFrom g.current [] (headedSegments []) = meaningAfter g.current [] := rfl
      rw [hrest, meaningAfter]
      cases g.current.isEmpty with
      | true => simp
      | false => simp [Grouping.flush]
  | cons e rest ih =>
      rw [List.foldl_cons, ih]
      cases hheader : e.isHeader with
      | true =>
          -- the open record is closed, and the header begins the next segment
          rw [Grouping.step_of_header hheader, Grouping.flush, headedSegments, if_pos hheader,
            List.takeWhile_cons_of_neg (by simp [hheader]), meaningFrom_nil, meaning_cons,
            List.append_assoc]
          rfl
      | false =>
          rw [Grouping.step_of_not_header hheader, headedSegments, if_neg (by simp [hheader]),
            List.takeWhile_cons_of_pos (by simp [hheader]), meaningFrom_cons, List.append_assoc]

/-- **The records are what the segments mean, without the first record.** -/
theorem records_eq_tail_meaning (entries : List Entry) :
    records entries = (Segment.meaning (segments entries)).tail := by
  rw [records, finish_foldl_step, segments, meaning_cons]
  rfl

/-! ## How many records there are -/

theorem length_closed_step_le (g : Grouping) (e : Entry) :
    (g.step e).closed.length ≤ g.closed.length + 1 := by
  cases hheader : e.isHeader with
  | true => simp [Grouping.step_of_header hheader, Grouping.flush]
  | false =>
      have hone : (standaloneRecords [e]).length ≤ 1 := by
        rw [standaloneRecords, List.length_map]
        exact List.length_filter_le _ _
      rw [Grouping.step_of_not_header hheader, List.length_append]
      omega

theorem length_closed_foldl_step_le (g : Grouping) (entries : List Entry) :
    (entries.foldl Grouping.step g).closed.length ≤ g.closed.length + entries.length := by
  induction entries generalizing g with
  | nil => simp
  | cons e rest ih =>
      have hstep := length_closed_step_le g e
      have hrest := ih (g.step e)
      rw [List.foldl_cons, List.length_cons]
      omega

/-- **There are no more records than entries.** -/
theorem length_records_le (entries : List Entry) :
    (records entries).length ≤ entries.length := by
  have hclosed := length_closed_foldl_step_le Grouping.start entries
  have hfinish (g : Grouping) : g.finish.length ≤ g.closed.length + 1 := by
    unfold Grouping.finish
    split
    · omega
    · simp [Grouping.flush]
  have hlast := hfinish (entries.foldl Grouping.step Grouping.start)
  have hstart : Grouping.start.closed.length = 0 := rfl
  rw [records, List.length_tail]
  omega

end CallTree.Log
