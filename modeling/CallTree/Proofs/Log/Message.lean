import CallTree.Log.Grouping
import CallTree.Proofs.Log.Carried
import CallTree.Proofs.Text.Packing
import CallTree.Proofs.Token.Numbers

/-!
# Debug messages and the entries that tell them

A debug message has a name, an event and fields, and is told by a header entry
and one entry for each field.  The event and the keys are packed into bytes;
the value of a field is a token of its type, and the event of its entry names
the type.

`WritesHeader` and `WritesField` say which entries tell which part of a
message.  Much is left to the writer: how many zero bytes fill a packed text,
the base in which an integer is written, on which side of the payload an
argument stands, and whatever else the entry says.

* `Packs.label_eq` — a packed text is labelled with that text;
* `Value.Writes.shown_eq` — a token of a value is shown as the text of the value;
* `Grouping.step_of_writesHeader`, `Grouping.step_of_writesField`,
  `Grouping.step_of_marker` — what the entries do to the grouping.
-/

namespace CallTree.Log

open Text

/-! ## Messages -/

/-- The key of a field, a text without spaces. -/
structure FieldKey extends ByteText where
  noSpace : ' ' ∉ chars

/-- The value of a field. -/
inductive Value where
  | uint (n : Nat) (high : n < 2 ^ 256)
  | int (i : Int) (low : -2 ^ 255 ≤ i) (high : i < 2 ^ 255)
  | bool (b : Bool)
  | address (text : String)
  | string (text : String)
  | bytes32 (text : ByteText)

/-- The text of a value; integers are decimal. -/
def Value.text : Value → String
  | .uint n _ => n.repr
  | .int i _ _ => i.repr
  | .bool b => if b then "true" else "false"
  | .address text => text
  | .string text => text
  | .bytes32 text => text.text

/-- The event of an entry that tells a value. -/
def Value.event : Value → String
  | .uint _ _ => "log_named_uint"
  | .int _ _ _ => "log_named_int"
  | .bool _ => "log_named_bool"
  | .address _ => "log_named_address"
  | .string _ => "log_named_string"
  | .bytes32 _ => "log_named_bytes32"

/-- A field of a message. -/
structure Field where
  key : FieldKey
  value : Value

/-- The key and the text of a field. -/
def Field.shown (field : Field) : String × String :=
  (field.key.text, field.value.text)

/-- A debug message; no key stands twice. -/
structure Message where
  name : String
  event : ByteText
  fields : List Field
  distinct : (fields.map fun field => field.key.text).Nodup

/-- The record of a message. -/
def Message.record (message : Message) : Record where
  name := some message.name
  event := some message.event.text
  grouped := true
  fields := message.fields.map Field.shown

/-! ## Written messages -/

/-- Whether a token holds a text packed into bytes: `0x` and the digits of the
bytes, with any number of zero bytes at the end. -/
inductive Packs (text : ByteText) : Json → Prop where
  | intro (zeros : Nat) {digits : List Char}
      (letters : SameLetters digits (hexOfBytes (text.padded zeros))) :
      Packs text (.obj [("FixedBytes", .str (String.ofList ('0' :: 'x' :: digits)))])

/-- Whether a token holds a value. -/
inductive Value.Writes : Value → Json → Prop where
  | uintText {n : Nat} {high} {digits : List Char} (written : UintText n digits) :
      Writes (.uint n high) (.obj [("Uint", .str (String.ofList digits))])
  | uintNumber {n : Nat} {high} (kept : Json.keepsInt n) :
      Writes (.uint n high) (.obj [("Uint", .ofInt n)])
  | intText {i : Int} {low high} {digits : List Char} (written : IntText i digits) :
      Writes (.int i low high) (.obj [("Int", .str (String.ofList digits))])
  | intNumber {i : Int} {low high} (kept : Json.keepsInt i) :
      Writes (.int i low high) (.obj [("Int", .ofInt i)])
  | bool (b : Bool) : Writes (.bool b) (.obj [("Bool", .bool b)])
  | address (text : String) : Writes (.address text) (.obj [("Address", .str text)])
  | string (text : String) : Writes (.string text) (.obj [("String", .str text)])
  | bytes32 {text : ByteText} {token : Json} (packed : Packs text token) :
      Writes (.bytes32 text) token

/-- Whether an entry is the header of a message. -/
structure WritesHeader (message : Message) (entry : Json) : Prop where
  event : HasField "event" (.str "log_bytes32") entry
  name : HasField "name" (.str message.name) entry
  argument : ∃ token, Inside "" token entry ∧ Packs message.event token

/-- Whether an entry tells a field. -/
structure WritesField (field : Field) (entry : Json) : Prop where
  event : HasField "event" (.str field.value.event) entry
  key : ∃ token, Carries "key" token entry ∧ Packs field.key.toByteText token
  value : ∃ token, Carries "val" token entry ∧ field.value.Writes token

/-- Whether an entry only says that logs follow. -/
def IsMarker (entry : Json) : Prop :=
  HasField "event" (.str "logs") entry

/-! ## Tokens -/

theorem Packs.ascii?_eq {text : ByteText} {token : Json} (h : Packs text token) :
    (Token.ofJson token).ascii? = some text.text := by
  obtain ⟨zeros, letters⟩ := h
  have hbytes := bytesOfDigits_of_sameLetters (fun _ => ByteText.lt_of_mem_padded) letters
  have hread := bytesOfHex_dropHexMarks hbytes
  simp only [Token.ofJson, Token.ofPayload, Token.ascii?, Token.ascii?.hexText,
    String.toList_ofList, hread, Option.map_some, ByteText.zeroTerminated_padded, ByteText.text]

/-- **A packed text is labelled with that text.** -/
theorem Packs.label_eq {text : ByteText} {token : Json} (h : Packs text token) :
    (Token.ofJson token).label = text.text := by
  unfold Token.label
  rw [h.ascii?_eq]

/-- Whether the value of an entry is shown as the text that its bytes hold. -/
def Value.asText : Value → Bool
  | .string _ => true
  | .bytes32 _ => true
  | _ => false

/-- **A token of a value is shown as the text of the value.** -/
theorem Value.Writes.shown_eq {value : Value} {token : Json} (h : value.Writes token) :
    (if value.asText then (Token.ofJson token).label else (Token.ofJson token).display) =
      value.text := by
  cases h with
  | @uintText n high digits written =>
      simp only [asText, Bool.false_eq_true, if_false, Token.ofJson, Token.ofPayload,
        Token.display]
      exact Token.displayUint_of_uintText written high
  | @uintNumber n high _ => exact Token.ofList_intText n
  | @intText i low high digits written =>
      simp only [asText, Bool.false_eq_true, if_false, Token.ofJson, Token.ofPayload,
        Token.display]
      exact Token.displayInt_of_intText written low high
  | @intNumber i low high _ => exact Token.ofList_intText i
  | bool b => rfl
  | address text => rfl
  | string text => rfl
  | bytes32 packed => exact packed.label_eq

/-! ## Entries -/

/-- **A marker changes nothing.** -/
theorem Grouping.step_of_marker {entry : Json} (h : IsMarker entry) :
    ∃ e, Entry.ofJson entry = .ok e ∧ ∀ g : Grouping, g.step e = g := by
  obtain ⟨fields, rfl, hread⟩ := exists_ofFields h
  refine ⟨_, hread, ?_⟩
  intro g
  have hrole : Role.ofEvent (Entry.ofFields fields).event = .marker := by
    rw [Entry.event_ofFields h]
    rfl
  rw [step, hrole]

/-- **A header closes the open record** and opens that of its message. -/
theorem Grouping.step_of_writesHeader {message : Message} {entry : Json}
    (h : WritesHeader message entry) :
    ∃ e, Entry.ofJson entry = .ok e ∧
      ∀ g : Grouping, g.step e = g.flush (Record.opened message.name message.event.text) := by
  obtain ⟨fields, rfl, hread⟩ := exists_ofFields h.event
  refine ⟨_, hread, ?_⟩
  intro g
  have hrole : Role.ofEvent (Entry.ofFields fields).event = .header := by
    rw [Entry.event_ofFields h.event]
    rfl
  have hopened : Record.ofHeader (Entry.ofFields fields) =
      Record.opened message.name message.event.text := by
    obtain ⟨token, hinside, hpacks⟩ := h.argument
    have hfirst : (Entry.ofFields fields).firstValue = some (Token.ofJson token) := by
      rw [Entry.firstValue, Entry.field_of_inside hinside]
    rw [Record.ofHeader, Entry.name_ofFields h.name, hfirst, Option.map_some, hpacks.label_eq,
      Option.getD_some]
  rw [step, hrole]
  exact congrArg g.flush hopened

theorem Value.role_of_event (value : Value) : Role.ofEvent value.event = .field value.asText := by
  cases value <;> rfl

/-- The key and the text of the field that an entry tells. -/
theorem fieldOf_of_writesField {field : Field} {fields : List (String × Json)}
    (h : WritesField field (.obj fields)) :
    fieldOf field.value.asText (Entry.ofFields fields) = some field.shown := by
  obtain ⟨keyToken, hkey, hpacks⟩ := h.key
  obtain ⟨token, hval, hwrites⟩ := h.value
  have hkeyFound := Entry.field_of_carries (by decide) hkey
  have hvalFound := Entry.field_of_carries (by decide) hval
  have hchars : field.key.chars.filter (· != ' ') = field.key.chars := by
    rw [List.filter_eq_self]
    intro c hc
    rw [bne_iff_ne]
    rintro rfl
    exact field.key.noSpace hc
  simp only [fieldOf, hkeyFound, hvalFound, hpacks.label_eq, hwrites.shown_eq]
  rw [ByteText.text, String.toList_ofList, hchars]
  rfl

/-- **A field entry writes its field** into the open record. -/
theorem Grouping.step_of_writesField {field : Field} {entry : Json} (h : WritesField field entry) :
    ∃ e, Entry.ofJson entry = .ok e ∧ ∀ g : Grouping,
      g.step e = { g with current := g.current.set field.key.text field.value.text } := by
  obtain ⟨fields, rfl, hread⟩ := exists_ofFields h.event
  refine ⟨_, hread, ?_⟩
  intro g
  have hrole : Role.ofEvent (Entry.ofFields fields).event = .field field.value.asText := by
    rw [Entry.event_ofFields h.event]
    exact field.value.role_of_event
  simp only [step, hrole, fieldOf_of_writesField h]
  rfl

end CallTree.Log
