import CallTree.Proofs.Log.Dropped
import CallTree.Proofs.Log.Overlay
import Mathlib.Data.List.Induction

/-!
# The fields of a record

Fields are written one after the other.  A name that is new goes to the end, and a name
that is there keeps its place and takes the new text; so the names stand in the order in
which they first came, no name stands twice, and each has the text that was written last.

The grouping keeps this for every record it has closed and for the open one, since it
writes fields in no other way.  A record that it put together has names without spaces.
A record of its own has the names that its entry says: those of the payload and those
next to it.

* `Record.writtenBy_foldl_set` — what several fields written into a record leave;
* `Grouping.Sound.step`, `Grouping.Sound.foldl_step` — what one entry and a whole run
  keep;
* `mem_keys_ofEntry` — the names of a record of its own;
* `fields_kept_in_order` — both for all records of a list of entries.
-/

namespace CallTree.Log

/-- Several names without repetitions, in the order in which they first come. -/
theorem pairwise_idxOf_eraseDups (names : List String) :
    names.eraseDups.Pairwise fun a b => names.idxOf a < names.idxOf b := by
  induction names using List.reverseRecOn with
  | nil => exact List.Pairwise.nil
  | append_singleton names name ih =>
      have hplace {a : String} (ha : a ∈ names.eraseDups) :
          (names ++ [name]).idxOf a = names.idxOf a :=
        List.idxOf_append_of_mem (List.mem_eraseDups.mp ha)
      have hfront : names.eraseDups.Pairwise fun a b =>
          (names ++ [name]).idxOf a < (names ++ [name]).idxOf b := by
        refine List.Pairwise.imp_of_mem (fun ha hb hlt => ?_) ih
        rwa [hplace ha, hplace hb]
      rw [List.eraseDups_append]
      by_cases hname : name ∈ names
      · have hnone : [name].removeAll names = [] := by simp [List.removeAll, hname]
        rw [hnone, List.eraseDups_nil, List.append_nil]
        exact hfront
      · have hlast : [name].removeAll names = [name] := by simp [List.removeAll, hname]
        have hone : [name].eraseDups = [name] := rfl
        rw [hlast, hone]
        refine List.pairwise_append.mpr ⟨hfront, List.pairwise_singleton _ _, ?_⟩
        intro a ha b hb
        have hlt : names.idxOf a < names.length :=
          List.idxOf_lt_length_of_mem (List.mem_eraseDups.mp ha)
        rw [List.mem_singleton.mp hb, hplace ha, List.idxOf_append_of_notMem hname]
        omega

namespace Record

/-- Whether the fields of a record are what several names and texts, written one after
the other, leave. -/
structure WrittenBy (calls : List (String × String)) (r : Record) : Prop where
  distinct : (KeyMap.keysOf r.fields).Nodup
  names : ∀ key, key ∈ KeyMap.keysOf r.fields ↔ key ∈ KeyMap.keysOf calls
  ordered : (KeyMap.keysOf r.fields).Pairwise fun a b =>
    (KeyMap.keysOf calls).idxOf a < (KeyMap.keysOf calls).idxOf b
  last : ∀ key, r.get? key = calls.reverse.lookup key

/-- **Fields are kept in the order in which their names first come, with the texts that
come last.** -/
theorem writtenBy_foldl_set {start : Record} (hstart : start.fields = [])
    (calls : List (String × String)) :
    WrittenBy calls (calls.foldl (fun record call => record.set call.1 call.2) start) := by
  have hnone : KeyMap.keysOf start.fields = [] := by rw [hstart]; rfl
  have hkeys := keys_foldl_set (r := start) (hnone ▸ List.nodup_nil) calls
  rw [hnone, List.nil_append] at hkeys
  have hordered := pairwise_idxOf_eraseDups (KeyMap.keysOf calls)
  rw [← hkeys] at hordered
  refine ⟨hordered.imp ?_, fun key => by rw [hkeys, List.mem_eraseDups], hordered, fun key => ?_⟩
  · rintro a b hlt rfl
    exact Nat.lt_irrefl _ hlt
  · have hget : start.get? key = none := by rw [get?, hstart]; rfl
    rw [get?_foldl_set, hget, Option.or_none]

end Record

/-! ## Records that are put together -/

/-- Whether a record has fields of different names, none of which holds a space. -/
structure Gathered (r : Record) : Prop where
  distinct : (KeyMap.keysOf r.fields).Nodup
  solid : ∀ key ∈ KeyMap.keysOf r.fields, ' ' ∉ key.toList

theorem gathered_of_fields_eq_nil {r : Record} (h : r.fields = []) : Gathered r := by
  have hnone : KeyMap.keysOf r.fields = [] := by rw [h]; rfl
  exact ⟨hnone ▸ List.nodup_nil, by simp [hnone]⟩

/-- Writing a name without a space keeps a record gathered. -/
theorem Gathered.set {r : Record} (h : Gathered r) {key : String} (hkey : ' ' ∉ key.toList)
    (value : String) : Gathered (r.set key value) := by
  refine ⟨Record.nodup_keys_set h.distinct key value, fun k hk => ?_⟩
  rw [Record.keys_set] at hk
  split at hk
  · exact h.solid k hk
  · rcases List.mem_append.mp hk with hold | hnew
    · exact h.solid k hold
    · rw [List.mem_singleton.mp hnew]
      exact hkey

/-- So does writing several of them. -/
theorem Gathered.foldl_set {r : Record} (h : Gathered r) {fields : List (String × String)}
    (hfields : ∀ field ∈ fields, ' ' ∉ field.1.toList) :
    Gathered (fields.foldl (fun record field => record.set field.1 field.2) r) := by
  induction fields generalizing r with
  | nil => exact h
  | cons field fields ih =>
      obtain ⟨hfirst, hrest⟩ := List.forall_mem_cons.mp hfields
      exact ih (h.set hfirst field.2) hrest

theorem Gathered.filled {r : Record} (h : Gathered r) (body : List Entry) :
    Gathered (filled r body) := by
  refine h.foldl_set fun field hfield => ?_
  obtain ⟨e, -, hwritten⟩ := List.mem_filterMap.mp hfield
  exact Entry.space_notMem_of_writtenField? hwritten

/-- A header opens a record without fields, or with one named `named`. -/
theorem gathered_openedRecord (e : Entry) : Gathered e.openedRecord := by
  unfold Entry.openedRecord
  split
  · exact gathered_of_fields_eq_nil rfl
  · cases e.field "val" with
    | none => exact gathered_of_fields_eq_nil rfl
    | some value =>
        have hempty : Gathered Record.empty := gathered_of_fields_eq_nil rfl
        have hnamed : Gathered (Record.empty.set "named" value.display) :=
          hempty.set (by decide) value.display
        exact hnamed

/-! ## The whole grouping -/

/-- Whether a record was put together, or is that of one of some entries. -/
def Accounted (entries : List Entry) (r : Record) : Prop :=
  (r.grouped = true ∧ Gathered r) ∨
    ∃ e ∈ entries, e.isStandalone = true ∧ r = Record.ofEntry e

namespace Grouping

/-- Whether the open record is gathered, and all closed ones are accounted for. -/
structure Sound (entries : List Entry) (g : Grouping) : Prop where
  current : Gathered g.current
  closed : ∀ r ∈ g.closed, Accounted entries r

variable {entries : List Entry} {g : Grouping}

theorem sound_start (entries : List Entry) : Sound entries start :=
  ⟨gathered_of_fields_eq_nil rfl, fun _ h => absurd h List.not_mem_nil⟩

theorem Sound.flush (h : Sound entries g) {next : Record} (hnext : Gathered next) :
    Sound entries (g.flush next) := by
  refine ⟨hnext, fun r hr => ?_⟩
  rcases List.mem_append.mp hr with hold | hnew
  · exact h.closed r hold
  · rw [List.mem_singleton.mp hnew]
    exact Or.inl ⟨rfl, h.current.distinct, h.current.solid⟩

/-- **One entry keeps the grouping sound.** -/
theorem Sound.step (h : Sound entries g) {e : Entry} (he : e ∈ entries) :
    Sound entries (g.step e) := by
  cases hheader : e.isHeader with
  | true =>
      rw [step_of_header hheader]
      exact h.flush (gathered_openedRecord e)
  | false =>
      rw [step_of_not_header hheader]
      refine ⟨h.current.filled [e], fun r hr => ?_⟩
      rcases List.mem_append.mp hr with hold | hown
      · exact h.closed r hold
      · obtain ⟨own, hmem, rfl⟩ := List.mem_map.mp hown
        obtain ⟨hone, hstandalone⟩ := List.mem_filter.mp hmem
        rw [List.mem_singleton.mp hone] at hstandalone ⊢
        exact Or.inr ⟨e, he, hstandalone, rfl⟩

/-- **So does a whole run.** -/
theorem Sound.foldl_step (h : Sound entries g) {rest : List Entry}
    (hrest : ∀ e ∈ rest, e ∈ entries) : Sound entries (rest.foldl Grouping.step g) := by
  induction rest generalizing g with
  | nil => exact h
  | cons e rest ih =>
      obtain ⟨he, hrest⟩ := List.forall_mem_cons.mp hrest
      exact ih (h.step he) hrest

theorem Sound.finish (h : Sound entries g) : ∀ r ∈ g.finish, Accounted entries r := by
  unfold Grouping.finish
  split
  · exact h.closed
  · exact (h.flush (gathered_of_fields_eq_nil rfl)).closed

end Grouping

/-- Every record was put together or is that of an entry outside the convention. -/
theorem accounted_of_mem_records {entries : List Entry} {r : Record} (h : r ∈ records entries) :
    Accounted entries r :=
  ((Grouping.sound_start entries).foldl_step fun _ he => he).finish r (List.mem_of_mem_tail h)

/-! ## The record of an entry -/

/-- The names of the arguments that the payload of an entry writes. -/
def payloadNames : Option Payload → List String
  | some (.parsed arguments) => arguments.keys
  | some (.notParsed (.obj fields)) => KeyMap.keysOf fields
  | some (.notParsed _) => ["raw"]
  | none => []

theorem keysOf_payloadTexts (log : Option Payload) :
    KeyMap.keysOf (payloadTexts log) = payloadNames log := by
  match log with
  | none => rfl
  | some (.parsed arguments) => exact keysOf_argumentTexts arguments
  | some (.notParsed value) =>
      cases value with
      | obj fields => exact KeyMap.keysOf_map_values (fun _ => Json.bareText) fields
      | null => rfl
      | bool _ => rfl
      | num _ => rfl
      | str _ => rfl
      | arr _ => rfl

theorem writtenBy_ofEntry (e : Entry) :
    Record.WrittenBy (payloadTexts e.log ++ argumentTexts e.fields) (Record.ofEntry e) :=
  Record.writtenBy_foldl_set rfl _

/-- **The names of a record of its own** are those that the payload writes and those next
to it. -/
theorem mem_keys_ofEntry (e : Entry) (key : String) :
    key ∈ KeyMap.keysOf (Record.ofEntry e).fields ↔
      key ∈ payloadNames e.log ∨ key ∈ e.fields.keys := by
  rw [(writtenBy_ofEntry e).names, ← keysOf_payloadTexts, ← keysOf_argumentTexts]
  simp [KeyMap.keysOf]

/-- **Fields are kept in the order of their names, in every record.**  Texts written into
a record without fields leave each name once, in the order in which the names first come,
with the text that comes last.  No record of a list of entries has a name twice.  Those
that were put together have no name with a space; any other is that of an entry outside
the convention, with its name, its event, and the names of all its arguments. -/
theorem fields_kept_in_order :
    (∀ (start : Record) (calls : List (String × String)),
      (start = Record.empty ∨ ∃ name event, start = Record.opened name event) →
      Record.WrittenBy calls (calls.foldl (fun record call => record.set call.1 call.2) start)) ∧
    ∀ (entries : List Entry), ∀ r ∈ records entries,
      (KeyMap.keysOf r.fields).Nodup ∧
      (r.grouped = true → ∀ key ∈ KeyMap.keysOf r.fields, ' ' ∉ key.toList) ∧
      (r.grouped = false → ∃ e ∈ entries, e.isStandalone = true ∧ r = Record.ofEntry e ∧
        r.name = some e.name ∧ r.event = some e.event ∧
        ∀ key, key ∈ KeyMap.keysOf r.fields ↔ key ∈ payloadNames e.log ∨ key ∈ e.fields.keys) := by
  refine ⟨?calls, ?records⟩
  case calls =>
    rintro start calls (rfl | ⟨name, event, rfl⟩)
    · exact Record.writtenBy_foldl_set rfl calls
    · exact Record.writtenBy_foldl_set rfl calls
  case records =>
    intro entries r hr
    rcases accounted_of_mem_records hr with ⟨hgrouped, hgathered⟩ | ⟨e, he, hstandalone, rfl⟩
    · refine ⟨hgathered.distinct, fun _ => hgathered.solid, fun hown => ?_⟩
      rw [hgrouped] at hown
      cases hown
    · have hrecord := Record.ofEntry_eq e
      refine ⟨(writtenBy_ofEntry e).distinct, fun hgrouped => ?_, fun _ => ⟨e, he, hstandalone,
        rfl, congrArg Record.name hrecord, congrArg Record.event hrecord, mem_keys_ofEntry e⟩⟩
      rw [hrecord] at hgrouped
      cases hgrouped

theorem fields_kept_in_order_samples :
    Record.WrittenBy [("b", "1"), ("a", "2"), ("b", "3")]
      ⟨some "h", some "H", false, [("b", "3"), ("a", "2")]⟩ ∧
    ∃ r ∈ records [transfersHeader, overlaid], r.grouped = false ∧
      ∃ e ∈ [transfersHeader, overlaid], e.isStandalone = true ∧ r.event = some e.event ∧
        ∀ key, key ∈ KeyMap.keysOf r.fields ↔
          key ∈ payloadNames e.log ∨ key ∈ e.fields.keys := by
  refine ⟨?calls, ?records⟩
  case calls =>
    have hwritten : [("b", "1"), ("a", "2"), ("b", "3")].foldl
        (fun (record : Record) call => record.set call.1 call.2) (Record.opened "h" "H") =
        ⟨some "h", some "H", false, [("b", "3"), ("a", "2")]⟩ := by decide
    rw [← hwritten]
    exact fields_kept_in_order.1 _ _ (Or.inr ⟨"h", "H", rfl⟩)
  case records =>
    have hmem : Record.ofEntry overlaid ∈ records [transfersHeader, overlaid] :=
      List.mem_cons_self
    have hgrouped : (Record.ofEntry overlaid).grouped = false := by decide
    obtain ⟨e, he, hstandalone, -, -, hevent, hnames⟩ :=
      (fields_kept_in_order.2 _ _ hmem).2.2 hgrouped
    exact ⟨_, hmem, hgrouped, e, he, hstandalone, hevent, hnames⟩

end CallTree.Log
