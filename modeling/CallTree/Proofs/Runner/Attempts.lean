import CallTree.Runner.Retry
import Mathlib.Order.Nat

/-!
# How often a request is made

Attempts are counted from one.  The loop ends with the first success, or with the first
attempt whose number is not below the limit; so the last of several failures has the
number of the limit, and a limit of zero is as good as one.

The number of an attempt never passes the limit.  So it does not matter whether
attempts are counted without bound or in a word of 32 bits, whose last number is
followed by zero: before that one is reached the loop has ended.

* `attemptFrom_of_ok`, `attemptFrom_of_last`, `attemptFrom_of_more` — one attempt;
* `number_of_attemptFrom` — the number of a last attempt that fails;
* `attemptFrom_skip` — failures are passed over;
* `retryUpTo_of_success`, `retryUpTo_of_failures` — attempts whose outcomes are known;
* `attemptInWord_eq` — counting in a word;
* `retry_calls_just_enough` — how often a request is made, and what is reported.
-/

namespace CallTree.Runner

variable {α σ : Type} {request : σ → Except String α × σ} {limit number : Nat} {state after : σ}
  {text : String}

/-! ## One attempt -/

theorem attemptFrom_of_ok {result : α} (h : request state = (.ok result, after)) :
    attemptFrom request limit number state = (.ok result, after) := by
  rw [attemptFrom, h]

theorem attemptFrom_of_last (h : request state = (.error text, after)) (hlast : limit ≤ number) :
    attemptFrom request limit number state = (.error (number, text), after) := by
  rw [attemptFrom, h]
  exact if_pos hlast

theorem attemptFrom_of_more (h : request state = (.error text, after)) (hmore : number < limit) :
    attemptFrom request limit number state = attemptFrom request limit (number + 1) after := by
  rw [attemptFrom, h]
  exact if_neg (Nat.not_le.mpr hmore)

/-- What is got by trying again is got by some attempt. -/
theorem ok_of_attemptFrom {result : α}
    (h : (attemptFrom request limit number state).1 = .ok result) :
    ∃ before, (request before).1 = .ok result := by
  fun_induction attemptFrom request limit number state with
  | case1 _ state _ _ hfound =>
      cases h
      exact ⟨state, congrArg Prod.fst hfound⟩
  | case2 => cases h
  | case3 _ _ _ _ _ _ ih => exact ih h

/-- **The last attempt that fails has the number of the limit**, unless the first one
has passed it. -/
theorem number_of_attemptFrom {last : Nat}
    (h : (attemptFrom request limit number state).1 = .error (last, text)) :
    last = max limit number := by
  fun_induction attemptFrom request limit number state with
  | case1 => cases h
  | case2 number state _ _ _ hlast =>
      cases h
      exact (Nat.max_eq_right hlast).symm
  | case3 number state _ _ _ hmore ih =>
      rw [ih h]
      omega

/-! ## Attempts whose outcomes are known -/

section Outcomes

variable {outcomes : Nat → Except String α} {value : α} {made more : Nat}

/-- A request with given outcomes; its state is how often it was made. -/
def scripted (outcomes : Nat → Except String α) (made : Nat) : Except String α × Nat :=
  (outcomes made, made + 1)

/-- Whether the first success among outcomes is the one with the number `i`, counted from
zero. -/
structure FirstSuccess (outcomes : Nat → Except String α) (i : Nat) (value : α) : Prop where
  success : outcomes i = .ok value
  first : ∀ j < i, ∃ text, outcomes j = .error text

theorem scripted_of_ok (h : outcomes made = .ok value) :
    scripted outcomes made = (.ok value, made + 1) := by
  rw [scripted, h]

theorem scripted_of_error (h : outcomes made = .error text) :
    scripted outcomes made = (.error text, made + 1) := by
  rw [scripted, h]

/-- **After failures below the limit comes the attempt of the next number.** -/
theorem attemptFrom_skip (hfails : ∀ i < made, ∃ text, outcomes i = .error text)
    (hlimit : made < max limit 1) :
    attemptFrom (scripted outcomes) limit 1 0 =
      attemptFrom (scripted outcomes) limit (made + 1) made := by
  induction made with
  | zero => rfl
  | succ made ih =>
      obtain ⟨text, htext⟩ := hfails made (Nat.lt_succ_self made)
      have hbefore : attemptFrom (scripted outcomes) limit 1 0 =
          attemptFrom (scripted outcomes) limit (made + 1) made :=
        ih (fun i hi => hfails i (Nat.lt_succ_of_lt hi)) (by omega)
      rw [hbefore, attemptFrom_of_more (scripted_of_error htext) (by omega)]

theorem retryUpTo_of_success (endpoint : String) (h : FirstSuccess outcomes made value)
    (hlimit : made < max limit 1) :
    retryUpTo endpoint limit (scripted outcomes) 0 = (.ok value, made + 1) := by
  rw [retryUpTo, attemptFrom_skip h.first hlimit, attemptFrom_of_ok (scripted_of_ok h.success)]

theorem retryUpTo_of_failures (endpoint : String) (hlimit : made + 1 = max limit 1)
    (hfails : ∀ i < made, ∃ text, outcomes i = .error text) (hlast : outcomes made = .error text) :
    retryUpTo endpoint limit (scripted outcomes) 0 =
      (.error ⟨endpoint, made + 1, readable text⟩, made + 1) := by
  rw [retryUpTo, attemptFrom_skip hfails (by omega),
    attemptFrom_of_last (scripted_of_error hlast) (by omega)]

/-- Where no success comes early enough, all attempts fail. -/
theorem exists_text_of_no_success {attempts : Nat}
    (h : ¬ ∃ i value, i < attempts ∧ FirstSuccess outcomes i value) :
    ∀ i < attempts, ∃ text, outcomes i = .error text := by
  intro i
  induction i using Nat.strong_induction_on with
  | _ i ih =>
      intro hi
      cases hi' : outcomes i with
      | error text => exact ⟨text, rfl⟩
      | ok value =>
          have hfirst : FirstSuccess outcomes i value :=
            ⟨hi', fun j hj => ih j hj (Nat.lt_trans hj hi)⟩
          exact absurd ⟨i, value, hi, hfirst⟩ h

end Outcomes

/-! ## Counting in a word of 32 bits -/

/-- A number below another one is not the last number of a word. -/
theorem toNat_succ_of_not_le {limit number : UInt32} (h : ¬ limit ≤ number) :
    (number + 1).toNat = number.toNat + 1 := by
  have hlt : number.toNat < limit.toNat := Nat.not_le.mp h
  have hword : limit.toNat < 2 ^ 32 := limit.toNat_lt
  have hone : (1 : UInt32).toNat = 1 := rfl
  rw [UInt32.toNat_add, hone]
  exact Nat.mod_eq_of_lt (by omega)

/-- Makes attempts as `attemptFrom` does, with their numbers in a word of 32 bits. -/
def attemptInWord (request : σ → Except String α × σ) (limit number : UInt32) (state : σ) :
    Except (UInt32 × String) α × σ :=
  match request state with
  | (.ok result, state) => (.ok result, state)
  | (.error text, state) =>
      if limit ≤ number then (.error (number, text), state)
      else attemptInWord request limit (number + 1) state
termination_by limit.toNat - number.toNat
decreasing_by
  rename_i hmore
  have hnext := toNat_succ_of_not_le hmore
  have hlt : number.toNat < limit.toNat := Nat.not_le.mp hmore
  omega

/-- **Attempts are the same in a word.** -/
theorem attemptInWord_eq (request : σ → Except String α × σ) (limit number : UInt32) (state : σ) :
    attemptFrom request limit.toNat number.toNat state =
      ((attemptInWord request limit number state).1.mapError fun last => (last.1.toNat, last.2),
        (attemptInWord request limit number state).2) := by
  fun_induction attemptInWord request limit number state with
  | case1 _ _ _ _ hfound => exact attemptFrom_of_ok hfound
  | case2 _ _ _ _ hfound hlast => exact attemptFrom_of_last hfound hlast
  | case3 number _ _ _ hfound hmore ih =>
      have hlt : number.toNat < limit.toNat := Nat.not_le.mp hmore
      rw [attemptFrom_of_more hfound hlt, ← toNat_succ_of_not_le hmore]
      exact ih

/-- Makes a request up to `limit` times as `retryUpTo` does, with the attempts counted in
a word of 32 bits. -/
def retryInWord (endpoint : String) (limit : UInt32) (request : σ → Except String α × σ)
    (state : σ) : Except Exhausted α × σ :=
  match attemptInWord request limit 1 state with
  | (.ok result, state) => (.ok result, state)
  | (.error (number, text), state) => (.error ⟨endpoint, number.toNat, readable text⟩, state)

/-- **A word is large enough to count attempts**, whatever limit it can hold. -/
theorem retryInWord_eq (endpoint : String) (limit : UInt32) (request : σ → Except String α × σ)
    (state : σ) :
    retryInWord endpoint limit request state = retryUpTo endpoint limit.toNat request state := by
  have hone : (1 : UInt32).toNat = 1 := rfl
  have hattempts := attemptInWord_eq request limit 1 state
  rw [hone] at hattempts
  rw [retryInWord, retryUpTo, hattempts]
  cases attemptInWord request limit 1 state with
  | mk found after => cases found <;> rfl

/-! ## Requests and reports -/

/-- **A limit of zero is as good as one.** -/
theorem retryUpTo_eq_retry (endpoint : String) (limit : Nat)
    (request : σ → Except String α × σ) (state : σ) :
    retryUpTo endpoint limit request state = retry endpoint limit request state := by
  have hattempts : attemptFrom request limit 1 state =
      attemptFrom request (max limit 1) 1 state := by
    by_cases hlimit : 1 ≤ limit
    · rw [Nat.max_eq_left hlimit]
    · cases hmade : request state with
      | mk found after =>
          cases found with
          | ok result => rw [attemptFrom_of_ok hmade, attemptFrom_of_ok hmade]
          | error text =>
              rw [attemptFrom_of_last hmade (by omega), attemptFrom_of_last hmade (by omega)]
  rw [retry, allowedAttempts, retryUpTo, retryUpTo, hattempts]

/-- **A request is made just often enough.**  If an outcome that comes early enough is a
success, the request is made up to the first one, which is the result; otherwise it is
made as often as allowed, and what is reported is the number of attempts with what a
reader is shown of the last error text.  Outcomes are numbered from zero, so the one
with the number `i` is that of attempt `i + 1`.  A limit of zero is as good as one, and
counting in a word of 32 bits makes no difference for any limit in it. -/
theorem retry_calls_just_enough (endpoint : String) (limit : Nat)
    (outcomes : Nat → Except String α) :
    (∀ i value, i + 1 ≤ max limit 1 → FirstSuccess outcomes i value →
        retry endpoint limit (scripted outcomes) 0 = (.ok value, i + 1)) ∧
      ((¬ ∃ i value, i + 1 ≤ max limit 1 ∧ FirstSuccess outcomes i value) →
        ∃ text e, outcomes (max limit 1 - 1) = .error text ∧
          retry endpoint limit (scripted outcomes) 0 = (.error e, max limit 1) ∧
          e.failure = .because ("runner request /" ++ endpoint ++ " failed after " ++
            (max limit 1).repr ++ " attempt(s)") (readable text)) ∧
      retryUpTo endpoint limit (scripted outcomes) 0 =
        retry endpoint limit (scripted outcomes) 0 ∧
      ∀ word : UInt32, word.toNat = limit →
        retryInWord endpoint word (scripted outcomes) 0 =
          retry endpoint limit (scripted outcomes) 0 := by
  refine ⟨?success, ?failure, retryUpTo_eq_retry endpoint limit _ 0, ?word⟩
  case success =>
    intro i value hi hfirst
    rw [← retryUpTo_eq_retry]
    exact retryUpTo_of_success endpoint hfirst hi
  case failure =>
    intro hnone
    obtain ⟨made, hmade⟩ : ∃ made, made + 1 = max limit 1 := ⟨max limit 1 - 1, by omega⟩
    have hfails := exists_text_of_no_success hnone
    obtain ⟨text, hlast⟩ := hfails made (by omega)
    have hbefore : ∀ i < made, ∃ text, outcomes i = .error text :=
      fun i hi => hfails i (by omega)
    rw [← retryUpTo_eq_retry, ← hmade, retryUpTo_of_failures endpoint hmade hbefore hlast]
    exact ⟨text, _, hlast, rfl, rfl⟩
  case word =>
    rintro word rfl
    rw [retryInWord_eq, retryUpTo_eq_retry]

/-- A runner that fails twice, the second time with a web page. -/
def sampleOutcomes : Nat → Except String Nat
  | 0 => .error "gone"
  | 1 => .error "<html>\n<body>\n Bad Gateway\r\n</body>\n</html>"
  | _ => .ok 7

theorem retry_calls_just_enough_samples :
    retry "tests" 3 (scripted sampleOutcomes) 0 = (.ok 7, 3) ∧
      (∃ e, retry "tests" 2 (scripted sampleOutcomes) 0 = (.error e, 2) ∧
        e.failure = .because "runner request /tests failed after 2 attempt(s)" "Bad Gateway") ∧
      retryInWord "tests" 2 (scripted sampleOutcomes) 0 =
        retry "tests" 2 (scripted sampleOutcomes) 0 := by
  have hfails : ∀ i < 2, ∃ text, sampleOutcomes i = .error text := by
    intro i hi
    match i with
    | 0 => exact ⟨_, rfl⟩
    | 1 => exact ⟨_, rfl⟩
  have hnone : ¬ ∃ i value, i + 1 ≤ max 2 1 ∧ FirstSuccess sampleOutcomes i value := by
    rintro ⟨i, value, hi, hfirst⟩
    obtain ⟨text, htext⟩ := hfails i hi
    rw [hfirst.success] at htext
    cases htext
  obtain ⟨_, e, hlast, hretry, hfailure⟩ :=
    (retry_calls_just_enough "tests" 2 sampleOutcomes).2.1 hnone
  cases hlast
  have hreadable : readable "<html>\n<body>\n Bad Gateway\r\n</body>\n</html>" = "Bad Gateway" := by
    decide +kernel
  rw [hreadable] at hfailure
  exact ⟨(retry_calls_just_enough "tests" 3 sampleOutcomes).1 2 7 (by decide) ⟨rfl, hfails⟩,
    ⟨e, hretry, hfailure⟩, (retry_calls_just_enough "tests" 2 sampleOutcomes).2.2.2 2 rfl⟩

end CallTree.Runner
