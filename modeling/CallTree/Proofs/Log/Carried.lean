import CallTree.Log.Entry
import CallTree.Proofs.KeyMap

/-!
# The arguments that an entry carries

An argument of an entry stands inside the payload, under `Parsed`, or next to
it.  Reading the entry finds the token under its name in both places; what
stands inside counts before what stands next to the payload.

* `event_ofFields`, `name_ofFields` — the event and the name of an entry;
* `field_of_inside` — an argument inside the payload is found;
* `field_of_carries` — so is one on either side.
-/

namespace CallTree.Log

/-- Whether a value is an object without repeated keys that says `value` under
`key`. -/
inductive HasField (key : String) (value : Json) : Json → Prop where
  | intro {fields : List (String × Json)} (distinct : (KeyMap.keysOf fields).Nodup)
      (mem : (key, value) ∈ fields) : HasField key value (.obj fields)

/-- Whether an entry says `token` under `name` inside its payload. -/
inductive Inside (name : String) (token entry : Json) : Prop where
  | intro {log arguments : Json} (payload : HasField "log" log entry)
      (parsed : HasField "Parsed" arguments log) (argument : HasField name token arguments)

/-- Whether an entry says `token` under `name`, inside its payload or, where the
payload says nothing under that name, next to it. -/
inductive Carries (name : String) (token entry : Json) : Prop where
  | inside (argument : Inside name token entry)
  | beside (argument : HasField name token entry)
      (outside : ∀ log arguments, entry.get? "log" = some log →
        log.get? "Parsed" = some arguments → arguments.get? name = none)

variable {fields : List (String × Json)} {key name : String} {value token : Json}

theorem HasField.lookup_eq (h : HasField key value (.obj fields)) :
    fields.lookup key = some value := by
  cases h with
  | intro distinct mem => exact KeyMap.lookup_of_mem distinct mem

/-- Every entry that says anything is read. -/
theorem exists_ofFields {entry : Json} (h : HasField key value entry) :
    ∃ fields, entry = .obj fields ∧ Entry.ofJson entry = .ok (Entry.ofFields fields) := by
  cases h with
  | @intro fields distinct mem => exact ⟨fields, rfl, rfl⟩

namespace Entry

theorem textUnder_of_hasField {text : String} (h : HasField key (.str text) (.obj fields)) :
    textUnder key fields = text := by
  rw [textUnder, h.lookup_eq]
  rfl

theorem event_ofFields {event : String} (h : HasField "event" (.str event) (.obj fields)) :
    (ofFields fields).event = event :=
  textUnder_of_hasField h

theorem name_ofFields {name : String} (h : HasField "name" (.str name) (.obj fields)) :
    (ofFields fields).name = name :=
  textUnder_of_hasField h

/-- An argument of an object is found among the tokens of the object. -/
theorem get?_tokenMap_of_mem (distinct : (KeyMap.keysOf fields).Nodup)
    (mem : (name, token) ∈ fields) :
    (tokenMap fields).get? name = some (Token.ofJson token) := by
  refine KeyMap.get?_ofList_of_mem ?_ (List.mem_map.mpr ⟨_, mem, rfl⟩)
  rw [KeyMap.keysOf_map_values fun _ => Token.ofJson]
  exact distinct

theorem get?_tokenMap_eq_none (h : fields.lookup name = none) :
    (tokenMap fields).get? name = none := by
  refine KeyMap.get?_ofList_eq_none ?_
  rw [List.lookup_eq_none_iff] at h ⊢
  intro field hfield
  obtain ⟨written, hwritten, rfl⟩ := List.mem_map.mp hfield
  exact h written hwritten

/-- What a payload holds is said under `Parsed`. -/
theorem exists_parsed_of_payload {log : Json} {arguments : KeyMap Token}
    (h : Payload.ofJson log = some (.parsed arguments)) :
    ∃ parsed, log.get? "Parsed" = some parsed ∧
      (parsed.get? name = none → arguments.get? name = none) := by
  cases log with
  | obj payload =>
      simp only [Payload.ofJson] at h
      split at h
      · rename_i written hparsed
        cases h
        exact ⟨.obj written, hparsed, get?_tokenMap_eq_none⟩
      · rename_i parsed _ hparsed
        cases h
        exact ⟨parsed, hparsed, fun _ => rfl⟩
      · cases h
      · cases h
  | null => cases h
  | bool _ => cases h
  | num _ => cases h
  | str _ => cases h
  | arr _ => cases h

/-- **An argument inside the payload is found.** -/
theorem field_of_inside (h : Inside name token (.obj fields)) :
    (ofFields fields).field name = some (Token.ofJson token) := by
  obtain ⟨payload, parsed, argument⟩ := h
  cases parsed with
  | @intro logFields distinct mem =>
      cases argument with
      | @intro arguments hdistinct hmem =>
          have hparsed : logFields.lookup "Parsed" = some (.obj arguments) :=
            KeyMap.lookup_of_mem distinct mem
          have hlog : (ofFields fields).log = some (.parsed (tokenMap arguments)) := by
            simp [ofFields, payload.lookup_eq, Payload.ofJson, hparsed]
          have hfound := get?_tokenMap_of_mem hdistinct hmem
          simp [field, parsed?, hlog, hfound]

/-- **An argument on either side of the payload is found**, under a name that
means nothing else. -/
theorem field_of_carries (hname : name ∉ ownKeys) (h : Carries name token (.obj fields)) :
    (ofFields fields).field name = some (Token.ofJson token) := by
  cases h with
  | inside argument => exact field_of_inside argument
  | beside argument outside =>
      have hinside : ((ofFields fields).parsed?.bind fun arguments => arguments.get? name) =
          none := by
        cases hlog : (fields.lookup "log").bind Payload.ofJson with
        | none => simp [parsed?, ofFields, hlog]
        | some payload =>
            cases payload with
            | notParsed value => simp [parsed?, ofFields, hlog]
            | parsed arguments =>
                obtain ⟨log, hfield, hpayload⟩ := Option.bind_eq_some_iff.mp hlog
                obtain ⟨parsed, hparsed, hnone⟩ := exists_parsed_of_payload hpayload
                have hmissing := hnone (outside log parsed hfield hparsed)
                simp [parsed?, ofFields, hlog, hmissing]
      have hbeside : (ofFields fields).fields.get? name = some (Token.ofJson token) := by
        cases argument with
        | intro distinct mem =>
            refine get?_tokenMap_of_mem ?_ (List.mem_filter.mpr ⟨mem, by simpa using hname⟩)
            exact distinct.sublist (List.filter_sublist.map Prod.fst)
      rw [field, hinside]
      exact hbeside

end Entry

end CallTree.Log
