import CallTree.Proofs.Log.Segments
import CallTree.Proofs.KeyMap

/-!
# Arguments inside the payload and next to it

An entry of any event outside the convention is a record by itself, with all
arguments of the entry as its fields.  An argument may stand inside the payload,
next to it, or in both places.  Looking it up finds the one inside first.  The
record is made the other way round: the arguments inside are written first, in the
order of their names, and then those next to the payload, again in order.  So one
that stands in both places has the text of the one next to the payload, and a name
that stands only there comes after all names inside.

The record agrees with the look-up only where neither of the two shows.

* `Record.keys_foldl_set`, `Record.get?_foldl_set` — several fields written into a
  record: names in the order in which they first come, and the last text of each;
* `keys_ofEntry`, `get?_ofEntry` — the fields of the record of an entry;
* `record_agrees_with_lookup_iff` — when the record agrees with the look-up;
* `overlaid_record_disagrees` — an entry where it does not.
-/

namespace CallTree

/-! ## Several fields written into a record -/

/-- A list without repetitions has nothing to be erased. -/
theorem eraseDups_of_nodup {names : List String} (h : names.Nodup) : names.eraseDups = names := by
  induction names with
  | nil => rfl
  | cons name names ih =>
      obtain ⟨hname, hnames⟩ := List.nodup_cons.mp h
      have hfilter : names.filter (fun other => !other == name) = names := by
        refine List.filter_eq_self.mpr fun other hother => ?_
        have hne : other ≠ name := fun heq => hname (heq ▸ hother)
        simp [hne]
      rw [List.eraseDups_cons, hfilter, ih hnames]

namespace Log

namespace Record

theorem keys_set (r : Record) (key value : String) :
    KeyMap.keysOf (r.set key value).fields =
      if key ∈ KeyMap.keysOf r.fields then KeyMap.keysOf r.fields
      else KeyMap.keysOf r.fields ++ [key] :=
  keys_setIn key value r.fields

theorem nodup_keys_set {r : Record} (h : (KeyMap.keysOf r.fields).Nodup) (key value : String) :
    (KeyMap.keysOf (r.set key value).fields).Nodup := by
  rw [keys_set]
  split
  · exact h
  · rename_i hkey
    exact List.nodup_append.mpr ⟨h, List.nodup_singleton key, by
      rintro a ha b hb rfl
      exact hkey (List.mem_singleton.mp hb ▸ ha)⟩

/-- **Several fields are kept in the order in which their names first come.** -/
theorem keys_foldl_set {r : Record} (h : (KeyMap.keysOf r.fields).Nodup)
    (fields : List (String × String)) :
    KeyMap.keysOf (fields.foldl (fun record field => record.set field.1 field.2) r).fields =
      (KeyMap.keysOf r.fields ++ KeyMap.keysOf fields).eraseDups := by
  induction fields generalizing r with
  | nil =>
      have hnone : KeyMap.keysOf ([] : List (String × String)) = [] := rfl
      rw [List.foldl_nil, hnone, List.append_nil, eraseDups_of_nodup h]
  | cons field fields ih =>
      obtain ⟨key, value⟩ := field
      rw [List.foldl_cons, ih (nodup_keys_set h key value), keys_set]
      split
      · rename_i hmem
        have hskipped : (KeyMap.keysOf ((key, value) :: fields)).removeAll (KeyMap.keysOf r.fields) =
            (KeyMap.keysOf fields).removeAll (KeyMap.keysOf r.fields) :=
          List.filter_cons_of_neg (by simpa using hmem)
        rw [List.eraseDups_append, List.eraseDups_append, hskipped]
      · rw [List.append_assoc]
        rfl

/-- **The last text that is written under a name counts.** -/
theorem get?_foldl_set (r : Record) (fields : List (String × String)) (key : String) :
    (fields.foldl (fun record field => record.set field.1 field.2) r).get? key =
      (fields.reverse.lookup key).or (r.get? key) := by
  refine KeyMap.get_foldl_put (fun r field => ?_) (fun r field k hne => ?_) fields r key
  · exact lookup_setIn_self field.1 field.2 r.fields
  · exact lookup_setIn_of_ne hne field.2 r.fields

end Record

/-! ## The record of an entry -/

namespace Entry

/-- The arguments inside the payload of an entry. -/
def inside (e : Entry) : KeyMap Token :=
  e.parsed?.getD KeyMap.empty

/-- Whether the names that stand only next to the payload come after all names
inside. -/
def InOrder (e : Entry) : Prop :=
  ∀ a ∈ e.inside.keys, ∀ b ∈ e.fields.keys, b ∉ e.inside.keys → a < b

/-- Whether what stands under one name in both places has one text. -/
def SameTexts (e : Entry) : Prop :=
  ∀ name a b, e.inside.get? name = some a → e.fields.get? name = some b →
    argumentText name a = argumentText name b

/-- **An argument is looked up inside the payload first.** -/
theorem field_eq_or (e : Entry) (name : String) :
    e.field name = (e.inside.get? name).or (e.fields.get? name) := by
  unfold field inside
  cases e.parsed? with
  | none => rfl
  | some arguments =>
      rw [Option.bind_some, Option.getD_some]
      cases arguments.get? name with
      | none => rfl
      | some token => rfl

end Entry

/-- Whether a record has for fields the arguments of an entry in the order of their
names, each with the text of what is looked up under its name. -/
structure AgreesWithLookup (r : Record) (e : Entry) : Prop where
  increasing : (KeyMap.keysOf r.fields).Pairwise (· < ·)
  names : ∀ name, name ∈ KeyMap.keysOf r.fields ↔ name ∈ e.inside.keys ∨ name ∈ e.fields.keys
  texts : ∀ name token, e.field name = some token →
    r.get? name = some (if name = "key" then token.ascii?.getD token.display else token.display)

section OfEntry

variable {e : Entry}

theorem keysOf_argumentTexts (arguments : KeyMap Token) :
    KeyMap.keysOf (argumentTexts arguments) = arguments.keys := by
  rw [argumentTexts, KeyMap.keysOf_map_values, KeyMap.keys]

/-- What is written last of named texts is the only text of its name. -/
theorem lookup_reverse_argumentTexts (arguments : KeyMap Token) (name : String) :
    (argumentTexts arguments).reverse.lookup name =
      (arguments.get? name).map (argumentText name) := by
  rw [argumentTexts, ← List.map_reverse, KeyMap.lookup_map_values, KeyMap.lookup_reverse_entries]

theorem payloadTexts_of_parsed (h : ∀ raw, e.log ≠ some (.notParsed raw)) :
    payloadTexts e.log = argumentTexts e.inside := by
  unfold Entry.inside Entry.parsed?
  cases hlog : e.log with
  | none => rfl
  | some payload =>
      cases payload with
      | parsed arguments => rfl
      | notParsed raw => exact absurd hlog (h raw)

/-- **The names inside the payload come first**, and then the others next to it. -/
theorem keys_ofEntry (h : ∀ raw, e.log ≠ some (.notParsed raw)) :
    KeyMap.keysOf (Record.ofEntry e).fields =
      e.inside.keys ++ e.fields.keys.removeAll e.inside.keys := by
  have hbeside : (e.fields.keys.removeAll e.inside.keys).Nodup := e.fields.nodup_keys.filter _
  have hopened : KeyMap.keysOf (Record.opened e.name e.event).fields = [] := rfl
  have hboth : KeyMap.keysOf (argumentTexts e.inside ++ argumentTexts e.fields) =
      e.inside.keys ++ e.fields.keys := by
    rw [← keysOf_argumentTexts, ← keysOf_argumentTexts]
    exact List.map_append
  rw [Record.ofEntry, payloadTexts_of_parsed h, Record.keys_foldl_set (hopened ▸ List.nodup_nil),
    hopened, hboth, List.nil_append, List.eraseDups_append,
    eraseDups_of_nodup e.inside.nodup_keys, eraseDups_of_nodup hbeside]

/-- **What stands next to the payload replaces what stands inside.** -/
theorem get?_ofEntry (h : ∀ raw, e.log ≠ some (.notParsed raw)) (name : String) :
    (Record.ofEntry e).get? name =
      ((e.fields.get? name).or (e.inside.get? name)).map (argumentText name) := by
  have hopened : (Record.opened e.name e.event).get? name = none := rfl
  rw [Record.ofEntry, Record.get?_foldl_set, payloadTexts_of_parsed h, List.reverse_append,
    List.lookup_append, lookup_reverse_argumentTexts, lookup_reverse_argumentTexts, hopened,
    Option.or_none, Option.map_or]

/-- The names are increasing exactly if the arguments are in order. -/
theorem increasing_ofEntry_iff (h : ∀ raw, e.log ≠ some (.notParsed raw)) :
    (KeyMap.keysOf (Record.ofEntry e).fields).Pairwise (· < ·) ↔ e.InOrder := by
  have hinside : e.inside.keys.Pairwise (· < ·) := e.inside.increasing
  have hbeside : (e.fields.keys.removeAll e.inside.keys).Pairwise (· < ·) :=
    List.Pairwise.filter _ e.fields.increasing
  rw [keys_ofEntry h, List.pairwise_append]
  constructor
  · rintro ⟨_, _, horder⟩ a ha b hb hnot
    exact horder a ha b (List.mem_filter.mpr ⟨hb, by simpa using hnot⟩)
  · intro horder
    refine ⟨hinside, hbeside, fun a ha b hb => ?_⟩
    obtain ⟨hmem, hnot⟩ := List.mem_filter.mp hb
    exact horder a ha b hmem (by simpa using hnot)

/-- The names are those in either place. -/
theorem mem_keys_ofEntry_iff (h : ∀ raw, e.log ≠ some (.notParsed raw)) (name : String) :
    name ∈ KeyMap.keysOf (Record.ofEntry e).fields ↔
      name ∈ e.inside.keys ∨ name ∈ e.fields.keys := by
  rw [keys_ofEntry h, List.mem_append, List.removeAll, List.mem_filter]
  by_cases hinside : name ∈ e.inside.keys
  · simp [hinside]
  · simp [hinside]

/-- The texts are those of the look-up exactly if what stands in both places has one
text. -/
theorem texts_ofEntry_iff (h : ∀ raw, e.log ≠ some (.notParsed raw)) :
    (∀ name token, e.field name = some token →
        (Record.ofEntry e).get? name = some (argumentText name token)) ↔ e.SameTexts := by
  simp only [Entry.field_eq_or, get?_ofEntry h]
  constructor
  · intro htexts name a b ha hb
    have htext := htexts name a (by rw [ha, Option.some_or])
    rw [hb, Option.some_or, Option.map_some] at htext
    exact (Option.some.inj htext).symm
  · intro hsame name token hfield
    cases hbeside : e.fields.get? name with
    | none =>
        rw [hbeside, Option.or_none] at hfield
        rw [Option.none_or, hfield, Option.map_some]
    | some b =>
        rw [Option.some_or, Option.map_some]
        cases hinside : e.inside.get? name with
        | none =>
            rw [hinside, hbeside, Option.none_or] at hfield
            rw [Option.some.inj hfield]
        | some a =>
            rw [hinside, Option.some_or] at hfield
            rw [← Option.some.inj hfield, hsame name a b hinside hbeside]

/-- **The record agrees with the look-up** exactly if the names are in order and
what stands in both places has one text. -/
theorem ofEntry_agrees_iff (h : ∀ raw, e.log ≠ some (.notParsed raw)) :
    AgreesWithLookup (Record.ofEntry e) e ↔ e.InOrder ∧ e.SameTexts := by
  rw [← increasing_ofEntry_iff h, ← texts_ofEntry_iff h]
  constructor
  · intro hagrees
    exact ⟨hagrees.increasing, hagrees.texts⟩
  · rintro ⟨hincreasing, htexts⟩
    exact ⟨hincreasing, mem_keys_ofEntry_iff h, htexts⟩

end OfEntry

/-- An entry outside the convention closes a record of its own. -/
theorem Grouping.step_of_standalone {e : Entry} (h : e.isStandalone = true) (g : Grouping) :
    g.step e = { g with closed := g.closed ++ [Record.ofEntry e] } := by
  have hrole : Role.ofEvent e.event = .standalone := by
    simp only [Entry.isStandalone, headerEvents, textFieldEvents, valueFieldEvents] at h
    simp at h
    simp [Role.ofEvent, h]
  rw [step, hrole]

/-- **The record of an entry outside the convention agrees with the look-up exactly
if** the names that stand only next to the payload come after those inside, and what
stands in both places has one text.  In any case the record has the names inside in
order, then the others in order, and the text of what stands next to the payload
where anything does. -/
theorem record_agrees_with_lookup_iff (e : Entry) (hstandalone : e.isStandalone = true)
    (hpayload : ∀ raw, e.log ≠ some (.notParsed raw)) :
    ∃ r : Record, (∀ g : Grouping, g.step e = { g with closed := g.closed ++ [r] }) ∧
      (AgreesWithLookup r e ↔ e.InOrder ∧ e.SameTexts) ∧
      KeyMap.keysOf r.fields = e.inside.keys ++ e.fields.keys.removeAll e.inside.keys ∧
      ∀ name, r.get? name =
        ((e.fields.get? name).or (e.inside.get? name)).map (argumentText name) :=
  ⟨Record.ofEntry e, Grouping.step_of_standalone hstandalone, ofEntry_agrees_iff hpayload,
    keys_ofEntry hpayload, get?_ofEntry hpayload⟩

/-- An entry with `a` inside the payload and `b` next to it. -/
def apart : Entry where
  event := "Transfer"
  name := "token"
  log := some (.parsed (KeyMap.ofList [("a", .string "inside")]))
  fields := KeyMap.ofList [("b", .string "beside")]

theorem record_agrees_with_lookup_iff_apart :
    apart.isStandalone = true ∧
      ∃ r : Record, (∀ g : Grouping, g.step apart = { g with closed := g.closed ++ [r] }) ∧
        AgreesWithLookup r apart := by
  have hstandalone : apart.isStandalone = true := by decide
  have hpayload : ∀ raw, apart.log ≠ some (.notParsed raw) := by
    intro raw hraw
    cases hraw
  obtain ⟨r, hstep, hagrees, -⟩ := record_agrees_with_lookup_iff apart hstandalone hpayload
  refine ⟨hstandalone, r, hstep, hagrees.mpr ⟨by unfold Entry.InOrder; decide, ?_⟩⟩
  intro name a b hinside hbeside
  have hmem := KeyMap.mem_keys_iff.mpr ⟨a, hinside⟩
  have hother := KeyMap.mem_keys_iff.mpr ⟨b, hbeside⟩
  rw [List.mem_singleton.mp hmem] at hother
  exact absurd hother (by decide)

/-- An entry with `b` in both places and `a` only next to the payload. -/
def overlaid : Entry where
  event := "Transfer"
  name := "token"
  log := some (.parsed (KeyMap.ofList [("b", .string "inside")]))
  fields := KeyMap.ofList [("a", .string "beside"), ("b", .string "beside")]

/-- The header of a record. -/
def transfersHeader : Entry where
  event := "log_bytes32"
  name := "h"
  log := some (.parsed (KeyMap.ofList [("", .string "H")]))
  fields := KeyMap.empty

/-- **A record may disagree with the look-up**: `b` has the text of what stands next
to the payload, and comes before `a`. -/
theorem overlaid_record_disagrees :
    ∃ r rest, records [transfersHeader, overlaid] = r :: rest ∧
      r.fields = [("b", "beside"), ("a", "beside")] ∧
      (overlaid.field "b").map Token.display = some "inside" ∧ ¬ AgreesWithLookup r overlaid := by
  refine ⟨_, _, rfl, by decide, by decide, fun hagrees => ?_⟩
  exact absurd hagrees.increasing (by decide)

end Log

end CallTree
