import CallTree.Proofs.Log.Carried
import CallTree.Proofs.Log.Overlay

/-!
# The only argument of an entry

A header has one argument, which says its event.  Looking it up begins with the argument
without a name, in both places.  If there is none, the first argument of one place is
taken: inside the payload where the payload is `Parsed`, else next to it.

So an only argument is found by either way, with one exception.  A payload that is
`Parsed` but has no arguments, as it is empty or no object, is still the place where the
first argument is looked for, and then one that stands next to the payload under a name
is lost.

* `field_eq_lookup`, `firstValue_of_unnamed` — the look-up among all arguments;
* `firstValue_of_sole`, `firstValue_of_sole_lost` — the only argument, found and lost;
* `parsed?_eq_empty_iff` — which payloads are `Parsed` without arguments;
* `sole_argument_found_iff` — when the only argument is found;
* `argument_next_to_empty_payload_lost` — an entry where it is not.
-/

namespace CallTree.Log

namespace Entry

/-- All arguments of an entry, those inside the payload first. -/
def arguments (e : Entry) : List (String × Token) :=
  e.inside.entries ++ e.fields.entries

variable {e : Entry} {name : String} {token : Token}

/-- **The look-up goes through all arguments.** -/
theorem field_eq_lookup (e : Entry) (name : String) :
    e.field name = e.arguments.lookup name := by
  rw [field_eq_or, arguments, List.lookup_append]
  rfl

theorem firstValue_of_field (h : e.field "" = some token) : e.firstValue = some token := by
  rw [firstValue, h]

/-- Without an argument of no name the first one of one place is taken. -/
theorem firstValue_of_unnamed (h : e.field "" = none) :
    e.firstValue = (e.parsed?.getD e.fields).values.head? := by
  rw [firstValue, h]
  cases e.parsed? with
  | none => rfl
  | some arguments => rfl

theorem field_of_sole (h : e.arguments = [(name, token)]) : e.field name = some token := by
  rw [field_eq_lookup, h, List.lookup_cons_self]

theorem field_of_sole_named (h : e.arguments = [(name, token)]) (hname : name ≠ "") :
    e.field "" = none := by
  rw [field_eq_lookup, h, List.lookup_cons, beq_eq_false_iff_ne.mpr hname.symm]
  rfl

/-- **An only argument is found** if it has no name or no empty payload stands before it. -/
theorem firstValue_of_sole (h : e.arguments = [(name, token)])
    (hfound : name = "" ∨ e.parsed? ≠ some KeyMap.empty) : e.firstValue = some token := by
  by_cases hname : name = ""
  · subst hname
    exact firstValue_of_field (field_of_sole h)
  · have hpayload := hfound.resolve_left hname
    rw [firstValue_of_unnamed (field_of_sole_named h hname)]
    unfold arguments inside at h
    cases hparsed : e.parsed? with
    | none =>
        rw [hparsed] at h
        have hbeside : e.fields.entries = [(name, token)] := h
        rw [Option.getD_none, KeyMap.values, hbeside]
        rfl
    | some arguments =>
        rw [hparsed, Option.getD_some] at h
        rcases List.append_eq_singleton_iff.mp h with ⟨hnone, -⟩ | ⟨hinside, -⟩
        · rw [hparsed] at hpayload
          exact absurd (congrArg some (KeyMap.eq_of_entries hnone)) hpayload
        · rw [Option.getD_some, KeyMap.values, hinside]
          rfl

/-- **An only argument with a name is lost** next to an empty payload. -/
theorem firstValue_of_sole_lost (h : e.arguments = [(name, token)]) (hname : name ≠ "")
    (hparsed : e.parsed? = some KeyMap.empty) : e.firstValue = none := by
  rw [firstValue_of_unnamed (field_of_sole_named h hname), hparsed]
  rfl

end Entry

/-! ## Payloads without arguments -/

/-- Whether an entry has a payload that is `Parsed` but says no argument: it is an object
without fields, or no object. -/
def ParsedWithoutArguments (written : Json) : Prop :=
  ∃ log parsed, written.get? "log" = some log ∧ log.get? "Parsed" = some parsed ∧
    ∀ arguments, parsed = .obj arguments → arguments = []

theorem tokenMap_eq_empty_iff (arguments : List (String × Json)) :
    tokenMap arguments = KeyMap.empty ↔ arguments = [] := by
  constructor
  · intro h
    cases arguments with
    | nil => rfl
    | cons argument rest =>
        -- the key of the first argument would not be found
        have hnone : (tokenMap (argument :: rest)).get? argument.1 = none := by
          rw [h]
          rfl
        rw [tokenMap, KeyMap.get?_ofList, List.lookup_eq_none_iff] at hnone
        have hfirst := hnone (argument.1, Token.ofJson argument.2) (by simp)
        simp at hfirst
  · rintro rfl
    rfl

theorem payload_eq_parsed_empty_iff (log : Json) :
    Payload.ofJson log = some (.parsed KeyMap.empty) ↔
      ∃ parsed, log.get? "Parsed" = some parsed ∧
        ∀ arguments, parsed = .obj arguments → arguments = [] := by
  cases log with
  | obj fields =>
      rw [Payload.ofJson, Json.get?]
      cases hparsed : fields.lookup "Parsed" with
      | none =>
          cases fields.lookup "NotParsed" with
          | none => simp
          | some raw => simp
      | some parsed =>
          cases parsed with
          | obj arguments => simp [tokenMap_eq_empty_iff]
          | null => simp
          | bool _ => simp
          | num _ => simp
          | str _ => simp
          | arr _ => simp
  | null => simp [Payload.ofJson, Json.get?]
  | bool _ => simp [Payload.ofJson, Json.get?]
  | num _ => simp [Payload.ofJson, Json.get?]
  | str _ => simp [Payload.ofJson, Json.get?]
  | arr _ => simp [Payload.ofJson, Json.get?]

theorem Entry.parsed?_eq_some_iff {e : Entry} {arguments : KeyMap Token} :
    e.parsed? = some arguments ↔ e.log = some (.parsed arguments) := by
  unfold Entry.parsed?
  split
  · rename_i hlog
    simp [hlog]
  · rename_i hlog
    constructor
    · intro h
      cases h
    · exact fun h => absurd h (hlog arguments)

/-- **Which payloads are `Parsed` without arguments.** -/
theorem parsed?_eq_empty_iff {written : Json} {e : Entry} (h : Entry.ofJson written = .ok e) :
    e.parsed? = some KeyMap.empty ↔ ParsedWithoutArguments written := by
  cases written with
  | obj fields =>
      obtain rfl : Entry.ofFields fields = e := Except.ok.inj h
      have hlog : (Entry.ofFields fields).log = (fields.lookup "log").bind Payload.ofJson := rfl
      rw [Entry.parsed?_eq_some_iff, hlog, Option.bind_eq_some_iff, ParsedWithoutArguments]
      simp only [payload_eq_parsed_empty_iff, Json.get?, exists_and_left]
  | null => cases h
  | bool _ => cases h
  | num _ => cases h
  | str _ => cases h
  | arr _ => cases h

/-- **The only argument of an entry is found exactly if** it has no name or no payload that
is `Parsed` without arguments stands before it; otherwise nothing is found. -/
theorem sole_argument_found_iff {written : Json} {e : Entry} {name : String} {token : Token}
    (hread : Entry.ofJson written = .ok e) (hsole : e.arguments = [(name, token)]) :
    (e.firstValue = some token ↔ name = "" ∨ ¬ ParsedWithoutArguments written) ∧
      (e.firstValue = none ↔ name ≠ "" ∧ ParsedWithoutArguments written) := by
  rw [← parsed?_eq_empty_iff hread]
  by_cases hfound : name = "" ∨ e.parsed? ≠ some KeyMap.empty
  · have hvalue := Entry.firstValue_of_sole hsole hfound
    have hnot : ¬ (name ≠ "" ∧ e.parsed? = some KeyMap.empty) := by
      rintro ⟨hname, hparsed⟩
      exact hfound.elim hname fun h => h hparsed
    simp [hvalue, hfound, hnot]
  · obtain ⟨hname, hparsed⟩ := not_or.mp hfound
    have hlost := Entry.firstValue_of_sole_lost hsole hname (not_not.mp hparsed)
    simp [hlost, hname, not_not.mp hparsed]

/-- The fields of a header whose payload is not `Parsed`, with its argument next to it. -/
def unparsedHeader : List (String × Json) :=
  [("event", .str "log_bytes32"), ("log", .obj [("data", .str "0x")]), ("name", .str "h"),
    ("title", .obj [("String", .str "H")])]

theorem sole_argument_found_iff_unparsedHeader :
    ∃ e, Entry.ofJson (.obj unparsedHeader) = .ok e ∧ e.arguments = [("title", .string "H")] ∧
      e.firstValue = some (.string "H") := by
  have hread : Entry.ofJson (.obj unparsedHeader) = .ok (Entry.ofFields unparsedHeader) := rfl
  have hsole : (Entry.ofFields unparsedHeader).arguments = [("title", .string "H")] := rfl
  refine ⟨_, hread, hsole, (sole_argument_found_iff hread hsole).1.mpr (Or.inr ?_)⟩
  rintro ⟨log, parsed, hlog, hparsed, -⟩
  obtain rfl : Json.obj [("data", .str "0x")] = log := Option.some.inj hlog
  cases hparsed

/-- The fields of a header with an empty payload, with its argument next to it. -/
def emptyHeader : List (String × Json) :=
  [("event", .str "log_bytes32"), ("log", .obj [("Parsed", .obj [])]), ("name", .str "h"),
    ("title", .obj [("String", .str "H")])]

/-- **The only argument of an entry may be lost**, and with it the event of a record: the
payload is `Parsed` and empty, and the argument stands next to it under a name. -/
theorem argument_next_to_empty_payload_lost :
    ∃ e, Entry.ofJson (.obj emptyHeader) = .ok e ∧ e.arguments = [("title", .string "H")] ∧
      e.field "title" = some (.string "H") ∧ e.firstValue = none ∧
      records [e] = [⟨some "h", some "", true, []⟩] :=
  ⟨_, rfl, rfl, rfl, rfl, by decide⟩

end CallTree.Log
