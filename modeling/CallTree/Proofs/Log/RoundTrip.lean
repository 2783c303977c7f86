import CallTree.Proofs.Log.Message

/-!
# Told messages are read back

Entries tell messages one after the other: the header of a message, an entry for
each of its fields in order, and markers anywhere.  Reading them gives back one
record for every message.

The grouping always has one record open.  While the entries of a message are
read, the closed records are those of the messages before it, behind the one
that stands before all headers; the open record holds the fields told so far;
and no key that is still to come is among them, so every field goes to the end.
The last message has no header after it, and its record is closed at the end.

* `tells_entries` — every list of messages can be told;
* `exists_finish_of_tells` — what a run makes of the rest of the entries;
* `records_of_tells` — told messages are read back.
-/

namespace CallTree.Log

open Text

/-- Whether entries tell the rest of a message, of which `fields` are still to
come, and then further messages. -/
inductive Tells : List Field → List Message → List Json → Prop where
  | done : Tells [] [] []
  | marker {fields messages entry entries} (written : IsMarker entry)
      (rest : Tells fields messages entries) : Tells fields messages (entry :: entries)
  | field {field fields messages entry entries} (written : WritesField field entry)
      (rest : Tells fields messages entries) : Tells (field :: fields) messages (entry :: entries)
  | header {message messages entry entries} (written : WritesHeader message entry)
      (rest : Tells message.fields messages entries) :
      Tells [] (message :: messages) (entry :: entries)

/-! ## Every message can be told -/

/-- A text as a token of 32 bytes, or of more where the text is longer. -/
def packed (text : ByteText) : Json :=
  .obj [("FixedBytes", .str (String.ofList
    ('0' :: 'x' :: hexOfBytes (text.padded (32 - text.chars.length)))))]

/-- A value as a token; integers are written as words. -/
def Value.token : Value → Json
  | .uint n _ => .obj [("Uint", .str (String.ofList ('0' :: 'x' :: Nat.toDigits 16 n)))]
  | .int i _ _ =>
      .obj [("Int", .str (String.ofList ('0' :: 'x' :: Nat.toDigits 16 (Word.twosComplement i))))]
  | .bool b => .obj [("Bool", .bool b)]
  | .address text => .obj [("Address", .str text)]
  | .string text => .obj [("String", .str text)]
  | .bytes32 text => packed text

/-- The entry of a field. -/
def Field.entry (field : Field) : Json :=
  .obj [("event", .str field.value.event),
    ("log", .obj [("Parsed", .obj [("key", packed field.key.toByteText),
      ("val", field.value.token)])])]

/-- The header of a message. -/
def Message.header (message : Message) : Json :=
  .obj [("event", .str "log_bytes32"),
    ("log", .obj [("Parsed", .obj [("", packed message.event)])]),
    ("name", .str message.name)]

/-- The entries of a message. -/
def Message.entries (message : Message) : List Json :=
  message.header :: message.fields.map Field.entry

theorem packs_packed (text : ByteText) : Packs text (packed text) :=
  .intro _ rfl

theorem Value.writes_token (value : Value) : value.Writes value.token := by
  cases value with
  | uint n high => exact .uintText (.hex ⟨0, rfl⟩)
  | int i low high => exact .intText (.hex ⟨0, rfl⟩)
  | bool b => exact .bool b
  | address text => exact .address text
  | string text => exact .string text
  | bytes32 text => exact .bytes32 (packs_packed text)

/-- The payload of an entry with the given arguments. -/
theorem hasField_parsed (arguments : Json) :
    HasField "Parsed" arguments (.obj [("Parsed", arguments)]) := by
  have hkeys : ["Parsed"].Nodup := by decide
  exact .intro hkeys (.head _)

theorem Field.writesField_entry (field : Field) : WritesField field field.entry := by
  have hkeys : ["event", "log"].Nodup := by decide
  have harguments : ["key", "val"].Nodup := by decide
  have hlog : HasField "log" _ field.entry := .intro hkeys (.tail _ (.head _))
  refine ⟨.intro hkeys (.head _), ⟨_, .inside ⟨hlog, hasField_parsed _, ?_⟩, packs_packed _⟩,
    ⟨_, .inside ⟨hlog, hasField_parsed _, ?_⟩, field.value.writes_token⟩⟩
  · exact .intro harguments (.head _)
  · exact .intro harguments (.tail _ (.head _))

theorem Message.writesHeader_header (message : Message) :
    WritesHeader message message.header := by
  have hkeys : ["event", "log", "name"].Nodup := by decide
  have hargument : [""].Nodup := by decide
  have hlog : HasField "log" _ message.header := .intro hkeys (.tail _ (.head _))
  refine ⟨.intro hkeys (.head _), .intro hkeys (.tail _ (.tail _ (.head _))), _,
    ⟨hlog, hasField_parsed _, ?_⟩, packs_packed _⟩
  exact .intro hargument (.head _)

/-- **Every list of messages can be told.** -/
theorem tells_entries (messages : List Message) :
    Tells [] messages (messages.flatMap Message.entries) := by
  induction messages with
  | nil => exact .done
  | cons message messages ih =>
      have hfields (fields : List Field) :
          Tells fields messages (fields.map Field.entry ++ messages.flatMap Message.entries) := by
        induction fields with
        | nil => exact ih
        | cons field fields ihFields => exact .field field.writesField_entry ihFields
      exact .header message.writesHeader_header (hfields message.fields)

/-! ## Reading them back -/

/-- A record with further fields at its end. -/
def Record.told (record : Record) (fields : List Field) : Record :=
  { record with fields := record.fields ++ fields.map Field.shown }

/-- What the end of a run closes, where `record` is open and `later` are the
records of the messages after it. -/
def closing (record : Record) (later : List Record) : List Record :=
  if record.isEmpty && later.isEmpty then [] else { record with grouped := true } :: later

/-- A new key goes to the end. -/
theorem Record.setIn_of_notMem {key : String} (value : String) {fields : List (String × String)}
    (h : key ∉ fields.map Prod.fst) : setIn key value fields = fields ++ [(key, value)] := by
  induction fields with
  | nil => rfl
  | cons field rest ih =>
      obtain ⟨k, v⟩ := field
      simp only [List.map_cons, List.mem_cons, not_or] at h
      have hne : k ≠ key := Ne.symm h.1
      rw [setIn, if_neg hne, ih h.2, List.cons_append]

/-- A field with a new key is told after the others. -/
theorem Record.set_of_notMem {record : Record} {field : Field}
    (h : field.key.text ∉ record.fields.map Prod.fst) :
    record.set field.key.text field.value.text = record.told [field] := by
  rw [set, setIn_of_notMem _ h]
  rfl

theorem Record.told_nil (record : Record) : record.told [] = record := by
  simp [told]

theorem Record.told_cons (record : Record) (field : Field) (fields : List Field) :
    record.told (field :: fields) = (record.told [field]).told fields := by
  simp [told]

/-- The entries after an entry that is read are read with it. -/
theorem mapM_cons_of_ok {entry : Json} {entries : List Json} {e : Entry} {es : List Entry}
    (hread : Entry.ofJson entry = .ok e) (hrest : entries.mapM Entry.ofJson = .ok es) :
    (entry :: entries).mapM Entry.ofJson = .ok (e :: es) := by
  simp [List.mapM_cons, hread, hrest]
  rfl

/-- **What a run makes of the rest of the entries**: it closes the open record
with the fields still to come, and the records of all messages after it. -/
theorem exists_finish_of_tells {fields : List Field} {messages : List Message}
    {entries : List Json} (h : Tells fields messages entries) (g : Grouping)
    (hkeys : (g.current.fields.map Prod.fst ++ fields.map fun field => field.key.text).Nodup) :
    ∃ es, entries.mapM Entry.ofJson = .ok es ∧
      (es.foldl Grouping.step g).finish =
        g.closed ++ closing (g.current.told fields) (messages.map Message.record) := by
  induction h generalizing g with
  | done =>
      refine ⟨[], rfl, ?_⟩
      rw [List.foldl_nil, Grouping.finish, List.map_nil, Record.told_nil, closing]
      cases g.current.isEmpty with
      | true => simp
      | false => simp [Grouping.flush]
  | marker written rest ih =>
      obtain ⟨e, hread, hstep⟩ := Grouping.step_of_marker written
      obtain ⟨es, hrest, hfinish⟩ := ih g hkeys
      refine ⟨e :: es, mapM_cons_of_ok hread hrest, ?_⟩
      rw [List.foldl_cons, hstep, hfinish]
  | @field field fields messages entry entries written rest ih =>
      obtain ⟨e, hread, hstep⟩ := Grouping.step_of_writesField written
      have hnew : field.key.text ∉ g.current.fields.map Prod.fst := by
        intro hmem
        exact List.disjoint_of_nodup_append hkeys hmem List.mem_cons_self
      have hset := Record.set_of_notMem hnew
      have hnext : ((g.current.told [field]).fields.map Prod.fst ++
          fields.map fun field => field.key.text).Nodup := by
        simpa [Record.told, Field.shown] using hkeys
      obtain ⟨es, hrest, hfinish⟩ := ih { g with current := g.current.told [field] } hnext
      refine ⟨e :: es, mapM_cons_of_ok hread hrest, ?_⟩
      rw [List.foldl_cons, hstep, hset, hfinish, ← Record.told_cons]
  | @header message messages entry entries written rest ih =>
      obtain ⟨e, hread, hstep⟩ := Grouping.step_of_writesHeader written
      obtain ⟨es, hrest, hfinish⟩ :=
        ih (g.flush (Record.opened message.name message.event.text)) message.distinct
      refine ⟨e :: es, mapM_cons_of_ok hread hrest, ?_⟩
      -- the record of the message is open, and holds its name even without fields
      have hopened : closing ((Record.opened message.name message.event.text).told message.fields)
          (messages.map Message.record) = (message :: messages).map Message.record := rfl
      rw [List.foldl_cons, hstep, hfinish, Grouping.flush, hopened, Record.told_nil, closing]
      simp

/-- **Told messages are read back**: entries that tell messages are read, and
their records are those of the messages, in order. -/
theorem records_of_tells {messages : List Message} {entries : List Json}
    (h : Tells [] messages entries) :
    (Entry.listOfJson (.arr entries)).map records = .ok (messages.map Message.record) := by
  obtain ⟨es, hread, hfinish⟩ := exists_finish_of_tells h Grouping.start List.nodup_nil
  have hrecords : records es = messages.map Message.record := by
    rw [records, hfinish]
    cases messages with
    | nil => rfl
    | cons message messages => rfl
  have hlist : Entry.listOfJson (.arr entries) = .ok es := hread
  rw [hlist, ← hrecords]
  rfl

/-- A message with two fields, and one without any. -/
def vaultMessages : List Message :=
  [{ name := "Vault"
     event := ⟨['I', 'n'], by simp⟩
     fields :=
      [⟨⟨⟨['a'], by simp⟩, by decide⟩, .uint 255 (by omega)⟩,
        ⟨⟨⟨['b'], by simp⟩, by decide⟩, .int (-1) (by omega) (by omega)⟩]
     distinct := by decide },
    { name := "", event := ⟨[], by simp⟩, fields := [], distinct := by decide }]

/-- Entries that tell these messages, with arguments on both sides of the
payload. -/
def vaultEntries : List Json :=
  [.obj [("event", .str "log_bytes32"),
      ("log", .obj [("Parsed", .obj [("", .obj [("FixedBytes", .str "0x496e0000")])])]),
      ("name", .str "Vault")],
    .obj [("event", .str "logs"), ("log", .null)],
    .obj [("event", .str "log_named_uint"), ("key", .obj [("FixedBytes", .str "0x61")]),
      ("val", .obj [("Uint", .str "0x00Ff")])],
    .obj [("event", .str "log_named_int"),
      ("log", .obj [("Parsed", .obj [("key", .obj [("FixedBytes", .str "0x6200")]),
        ("val", .obj [("Int", .str "-1")])])])],
    .obj [("event", .str "log_bytes32"),
      ("log", .obj [("Parsed", .obj [("", .obj [("FixedBytes", .str "0x")])])]),
      ("name", .str "")]]

theorem tells_vaultEntries : Tells [] vaultMessages vaultEntries := by
  have hin : Packs ⟨['I', 'n'], by simp⟩ (.obj [("FixedBytes", .str "0x496e0000")]) :=
    .intro 2 (show SameLetters ['4', '9', '6', 'e', '0', '0', '0', '0'] _ from rfl)
  have ha : Packs ⟨['a'], by simp⟩ (.obj [("FixedBytes", .str "0x61")]) :=
    .intro 0 (show SameLetters ['6', '1'] _ from rfl)
  have hb : Packs ⟨['b'], by simp⟩ (.obj [("FixedBytes", .str "0x6200")]) :=
    .intro 1 (show SameLetters ['6', '2', '0', '0'] _ from rfl)
  have hempty : Packs ⟨[], by simp⟩ (.obj [("FixedBytes", .str "0x")]) :=
    .intro 0 (show SameLetters [] _ from rfl)
  have hheader : ["event", "log", "name"].Nodup := by decide
  have hbeside : ["event", "key", "val"].Nodup := by decide
  have hinside : ["event", "log"].Nodup := by decide
  have harguments : ["key", "val"].Nodup := by decide
  have hargument : [""].Nodup := by decide
  refine .header ?vault (.marker ?marker (.field ?uint (.field ?int (.header ?silent .done))))
  case vault =>
    refine ⟨.intro hheader (.head _), .intro hheader (.tail _ (.tail _ (.head _))), _, ?_, hin⟩
    exact ⟨.intro hheader (.tail _ (.head _)), hasField_parsed _, .intro hargument (.head _)⟩
  case marker => exact .intro hinside (.head _)
  case uint =>
    have htext : UintText 255 ['0', 'x', '0', '0', 'F', 'f'] := .hex ⟨2, by decide⟩
    refine ⟨.intro hbeside (.head _), ⟨_, .beside ?_ ?_, ha⟩, ⟨_, .beside ?_ ?_, .uintText htext⟩⟩
    · exact .intro hbeside (.tail _ (.head _))
    · exact fun _ _ hlog => nomatch hlog
    · exact .intro hbeside (.tail _ (.tail _ (.head _)))
    · exact fun _ _ hlog => nomatch hlog
  case int =>
    have htext : IntText (-1) ['-', '1'] := .negative (n := 1) rfl ⟨0, rfl⟩
    refine ⟨.intro hinside (.head _), ⟨_, .inside ?_, hb⟩, ⟨_, .inside ?_, .intText htext⟩⟩
    · exact ⟨.intro hinside (.tail _ (.head _)), hasField_parsed _, .intro harguments (.head _)⟩
    · exact ⟨.intro hinside (.tail _ (.head _)), hasField_parsed _,
        .intro harguments (.tail _ (.head _))⟩
  case silent =>
    refine ⟨.intro hheader (.head _), .intro hheader (.tail _ (.tail _ (.head _))), _, ?_, hempty⟩
    exact ⟨.intro hheader (.tail _ (.head _)), hasField_parsed _, .intro hargument (.head _)⟩

theorem records_of_tells_vaultEntries :
    Tells [] vaultMessages vaultEntries ∧
      (Entry.listOfJson (.arr vaultEntries)).map records =
        .ok [⟨some "Vault", some "In", true, [("a", "255"), ("b", "-1")]⟩,
          ⟨some "", some "", true, []⟩] :=
  ⟨tells_vaultEntries, records_of_tells tells_vaultEntries⟩

end CallTree.Log
