import CallTree.Json.Printer
import CallTree.Json.Reader
import CallTree.Proofs.Double.Shortest
import CallTree.Proofs.Text.Numerals

/-!
# Numbers of JSON text read back

A written number ends where nothing follows that could go on with it: no digit,
no point and no exponent.  Written integers read back.  A written finite double
reads as a finite double; whether it is the same one is not settled here.

* `scalar_intText` — a written integer reads back;
* `readsAs_positional`, `readsAs_scientific` — the two written forms of a decimal
  read as its value;
* `number_decimal` — the text of a readable decimal reads as a finite double;
* `scalar_numberText` — a written number reads as the number `rereadNumber`.
-/

namespace CallTree.Json

/-- The characters with which the text of a number could go on. -/
def goesOn (c : Char) : Bool :=
  c.isDigit || c == '.' || c == 'e' || c == 'E'

/-- A text before which a number ends. -/
def Ended (rest : List Char) : Prop :=
  ∀ c ∈ rest.head?, goesOn c = false

theorem ended_nil : Ended [] := by
  intro c hc
  cases hc

theorem ended_cons {c : Char} (hc : goesOn c = false) (rest : List Char) : Ended (c :: rest) := by
  intro c' hc'
  rw [← Option.some.inj hc']
  exact hc

variable {rest : List Char}

/-- A text that does not begin with a digit. -/
def NoDigit (rest : List Char) : Prop :=
  ∀ c ∈ rest.head?, c.isDigit = false

theorem Ended.noDigit (h : Ended rest) : NoDigit rest := by
  intro c hc
  have := h c hc
  simp only [goesOn, Bool.or_eq_false_iff] at this
  exact this.1.1.1

theorem noDigit_cons {c : Char} (hc : c.isDigit = false) (rest : List Char) :
    NoDigit (c :: rest) := by
  intro c' hc'
  rw [← Option.some.inj hc']
  exact hc

/-- Digits are taken up to where they end. -/
theorem spanDigits {digits : List Char} (hdigits : ∀ c ∈ digits, c.isDigit = true)
    (hrest : NoDigit rest) :
    (digits ++ rest).takeWhile Char.isDigit = digits ∧
      (digits ++ rest).dropWhile Char.isDigit = rest := by
  rw [List.takeWhile_append_of_pos hdigits, List.dropWhile_append_of_pos hdigits]
  cases rest with
  | nil => simp
  | cons c rest =>
      have hc : ¬ c.isDigit = true := by simpa using hrest c rfl
      simp [hc]

theorem digitsValue_eq (digits : List Char) :
    digitsValue digits = Nat.ofDigitChars 10 digits 0 :=
  Nat.ofDigitChars_eq_foldl.symm

/-! ## The parts of a number -/

/-- The digits before the point are read, unless a needless zero stands in
front. -/
theorem number_digits {digits : List Char} (hnil : digits ≠ [])
    (hdigits : ∀ c ∈ digits, c.isDigit = true) (hzero : digits.head? = some '0' → digits = ['0'])
    (hrest : NoDigit rest) (negative : Bool) :
    number negative (digits ++ rest) = fraction negative digits rest := by
  cases digits with
  | nil => exact absurd rfl hnil
  | cons c digits =>
      obtain ⟨hc, htail⟩ := List.forall_mem_cons.mp hdigits
      obtain ⟨htake, hdrop⟩ := spanDigits htail hrest
      by_cases hfirst : c = '0'
      · subst hfirst
        obtain rfl : digits = [] := by simpa using hzero rfl
        cases rest with
        | nil => rfl
        | cons r rest =>
            have hr : ¬ r.isDigit = true := by simpa using hrest r rfl
            simp [number, hr]
      · rw [List.cons_append, number]
        · rw [if_pos hc, htake, hdrop]
        · intro d rest hd
          exact absurd hd hfirst

/-- A number that ends after its integer digits is an integer, if it is in
range. -/
theorem fraction_ended (negative : Bool) (whole : List Char) (hrest : Ended rest) :
    fraction negative whole rest =
      let value : Int := digitsValue whole
      let signed := if negative then -value else value
      if keepsInt signed && !(negative && value == 0) then .ok (.int signed, rest)
      else decimal negative (digitsValue whole) 0 rest := by
  unfold fraction
  split
  · exact absurd (hrest '.' rfl) (by decide)
  · exact absurd (hrest 'e' rfl) (by decide)
  · exact absurd (hrest 'E' rfl) (by decide)
  · rfl

/-- A decimal below the bound is a finite double. -/
theorem decimal_small {digits : Nat} {exponent : Int}
    (h : (digits : ℚ) * 10 ^ exponent < Double.overflowBound) (negative : Bool) :
    decimal negative digits exponent rest =
      .ok (.float (Double.ofDecimal negative digits exponent), rest) := by
  rw [decimal]
  exact if_pos (Double.isFinite_ofDecimal h negative)

/-- Digits after a point, up to the end of the number. -/
theorem fraction_places {places : List Char} (hnil : places ≠ [])
    (hplaces : ∀ c ∈ places, c.isDigit = true) (hrest : Ended rest) (negative : Bool)
    (whole : List Char) :
    fraction negative whole ('.' :: (places ++ rest)) =
      decimal negative (digitsValue (whole ++ places)) (-(places.length : Int)) rest := by
  obtain ⟨htake, hdrop⟩ := spanDigits hplaces hrest.noDigit
  have hsome : places.isEmpty = false := by simpa using hnil
  simp only [fraction, htake, hdrop, hsome, Bool.false_eq_true, if_false]
  split
  · exact absurd (hrest 'e' rfl) (by decide)
  · exact absurd (hrest 'E' rfl) (by decide)
  · rfl

/-- Digits after a point, up to an exponent. -/
theorem fraction_places_exponent {places : List Char} (hnil : places ≠ [])
    (hplaces : ∀ c ∈ places, c.isDigit = true) (negative : Bool) (whole rest : List Char) :
    fraction negative whole ('.' :: (places ++ 'e' :: rest)) =
      exponent negative (digitsValue (whole ++ places)) (-(places.length : Int)) rest := by
  obtain ⟨htake, hdrop⟩ := spanDigits hplaces (noDigit_cons (c := 'e') (by decide) rest)
  have hsome : places.isEmpty = false := by simpa using hnil
  simp [fraction, htake, hdrop, hsome]

/-- The digits of a small exponent. -/
theorem exponentDigits_digits {digits : List Char} (hdigits : ∀ c ∈ digits, c.isDigit = true)
    (hrest : NoDigit rest) {value : Nat} (hsmall : Nat.ofDigitChars 10 digits value < 2 ^ 31) :
    exponentDigits value (digits ++ rest) = .ok (Nat.ofDigitChars 10 digits value, rest) := by
  induction digits generalizing value with
  | nil =>
      cases rest with
      | nil => rfl
      | cons c rest =>
          have hc : ¬ c.isDigit = true := by simpa using hrest c rfl
          simp [exponentDigits, hc]
  | cons c digits ih =>
      obtain ⟨hc, htail⟩ := List.forall_mem_cons.mp hdigits
      rw [Nat.ofDigitChars_cons] at hsmall ⊢
      have hnext : 10 * value + digitValue c ≤
          Nat.ofDigitChars 10 digits (10 * value + digitValue c) := by
        rw [Nat.ofDigitChars_eq_ofDigitChars_zero]
        have : 10 * value + digitValue c ≤ 10 ^ digits.length * (10 * value + digitValue c) :=
          Nat.le_mul_of_pos_left _ (Nat.pow_pos (by decide))
        omega
      have hbelow : 10 * value + digitValue c < Nat.pow 2 31 := lt_of_le_of_lt hnext hsmall
      rw [List.cons_append, exponentDigits, if_pos hc]
      dsimp only
      rw [if_pos hbelow]
      exact ih htail hsmall

/-- A written exponent. -/
theorem exponent_written {e : Int} (he : e.natAbs < 2 ^ 31) (hrest : NoDigit rest)
    (negative : Bool) (digits : Nat) (shift : Int) :
    exponent negative digits shift
        ((if e < 0 then '-' else '+') :: (Nat.toDigits 10 e.natAbs ++ rest)) =
      decimal negative digits (shift + e) rest := by
  have hall : ∀ c ∈ Nat.toDigits 10 e.natAbs, c.isDigit = true :=
    fun c hc => Nat.isDigit_of_mem_toDigits (by decide) (le_refl 10) hc
  have hread : exponentDigits 0 (Nat.toDigits 10 e.natAbs ++ rest) = .ok (e.natAbs, rest) := by
    rw [exponentDigits_digits hall hrest] <;> rw [Nat.ofDigitChars_ten_toDigits]
    exact he
  cases hdigits : Nat.toDigits 10 e.natAbs with
  | nil => exact absurd hdigits Nat.toDigits_ne_nil
  | cons c tail =>
      have hc : c.isDigit = true := hall c (by rw [hdigits]; exact List.mem_cons_self)
      rw [hdigits, List.cons_append] at hread
      by_cases hsign : e < 0
      · have habs : -(e.natAbs : Int) = e := by omega
        simp only [if_pos hsign, exponent, List.cons_append, hc, if_true, hread, habs]
      · have habs : (e.natAbs : Int) = e := by omega
        simp only [if_neg hsign, exponent, List.cons_append, hc, if_true, hread, habs,
          Bool.false_eq_true, if_false]

/-! ## Finite doubles -/

variable {d : Double.Decimal}

/-- The first digit of a readable decimal stands alone where it is a zero. -/
theorem singleton_of_readable (h : d.Readable) (hhead : d.digits.head? = some '0') :
    d.digits = ['0'] := by
  rw [h.first hhead]
  rfl

theorem isDigit_zero : ∀ c ∈ ['0'], c.isDigit = true :=
  List.forall_mem_cons.mpr ⟨rfl, nofun⟩

/-- A text that reads as a number of the given value, whatever follows it. -/
def ReadsAs (negative : Bool) (text : List Char) (value : ℚ) : Prop :=
  ∃ (digits : Nat) (exponent : Int), (digits : ℚ) * 10 ^ exponent = value ∧
    ∀ rest, Ended rest → number negative (text ++ rest) = decimal negative digits exponent rest

/-- Digits on both sides of a point read as what they write. -/
theorem readsAs_point {front back : List Char} (hfront : front ≠ []) (hback : back ≠ [])
    (hzero : front.head? = some '0' → front = ['0'])
    (hdigits : ∀ c ∈ front ++ back, c.isDigit = true) (negative : Bool) :
    ReadsAs negative (front ++ '.' :: back)
      (Nat.ofDigitChars 10 (front ++ back) 0 * 10 ^ (-(back.length : Int))) := by
  obtain ⟨hfrontDigits, hbackDigits⟩ := List.forall_mem_append.mp hdigits
  refine ⟨digitsValue (front ++ back), -(back.length : Int), by rw [digitsValue_eq], ?_⟩
  intro rest hrest
  rw [List.append_assoc, List.cons_append, number_digits hfront hfrontDigits hzero
    (noDigit_cons (c := '.') (by decide) (back ++ rest)), fraction_places hback hbackDigits hrest]

/-- `0.` and the digits after some zeros. -/
theorem readsAs_fraction (h : d.Readable) (hlow : d.point ≤ 0) (negative : Bool) :
    ReadsAs negative (['0'] ++ '.' :: (List.replicate (-d.point).toNat '0' ++ d.digits))
      (d.whole * 10 ^ (d.point - d.digits.length)) := by
  set zeros := List.replicate (-d.point).toNat '0' with hzeros
  have hdigits : ∀ c ∈ ['0'] ++ (zeros ++ d.digits), c.isDigit = true := by
    refine List.forall_mem_append.mpr ⟨isDigit_zero, List.forall_mem_append.mpr ⟨?_, h.digits⟩⟩
    intro c hc
    rw [List.eq_of_mem_replicate hc]
    decide
  have hvalue : Nat.ofDigitChars 10 (['0'] ++ (zeros ++ d.digits)) 0 = d.whole := by
    rw [Nat.ofDigitChars_append, Nat.ofDigitChars_append, hzeros, Nat.ofDigitChars_replicate_zero]
    rfl
  have hexp : -((zeros ++ d.digits).length : Int) = d.point - d.digits.length := by
    rw [List.length_append, hzeros, List.length_replicate]
    omega
  rw [← hvalue, ← hexp]
  exact readsAs_point (List.cons_ne_nil _ _) (by simp [h.nonempty]) (fun _ => rfl) hdigits negative

/-- The digits, some zeros and `.0`. -/
theorem readsAs_whole (h : d.Readable) (hlong : (d.digits.length : Int) ≤ d.point)
    (negative : Bool) :
    ReadsAs negative
      ((d.digits ++ List.replicate (d.point - d.digits.length).toNat '0') ++ '.' :: ['0'])
      (d.whole * 10 ^ (d.point - d.digits.length)) := by
  set zeros := List.replicate (d.point - d.digits.length).toNat '0' with hzeros
  have hdigits : ∀ c ∈ (d.digits ++ zeros) ++ ['0'], c.isDigit = true := by
    refine List.forall_mem_append.mpr ⟨List.forall_mem_append.mpr ⟨h.digits, ?_⟩, isDigit_zero⟩
    intro c hc
    rw [List.eq_of_mem_replicate hc]
    decide
  have hzero : (d.digits ++ zeros).head? = some '0' → d.digits ++ zeros = ['0'] := by
    intro hhead
    rw [List.head?_append_of_ne_nil _ h.nonempty] at hhead
    rw [h.first hhead] at hzeros ⊢
    rw [hzeros]
    rfl
  have hwhole : Nat.ofDigitChars 10 ((d.digits ++ zeros) ++ ['0']) 0 =
      10 * (10 ^ (d.point - d.digits.length).toNat * d.whole) := by
    rw [Nat.ofDigitChars_append, Nat.ofDigitChars_append, hzeros, Nat.ofDigitChars_replicate_zero]
    rfl
  have hvalue : ((Nat.ofDigitChars 10 ((d.digits ++ zeros) ++ ['0']) 0 : Nat) : ℚ) *
      10 ^ (-((['0'] : List Char).length : Int)) =
        d.whole * 10 ^ (d.point - d.digits.length) := by
    have hexp : d.point - d.digits.length = ((d.point - d.digits.length).toNat : Int) := by omega
    rw [hwhole, hexp, zpow_natCast, Int.toNat_natCast, List.length_singleton, Nat.cast_one,
      zpow_neg_one]
    push_cast
    field_simp
  rw [← hvalue]
  exact readsAs_point (by simp [h.nonempty]) (List.cons_ne_nil _ _) hzero hdigits negative

/-- The point inside of the digits. -/
theorem readsAs_inside (h : d.Readable) (hlow : 0 < d.point)
    (hlong : d.point < d.digits.length) (negative : Bool) :
    ReadsAs negative (d.digits.take d.point.toNat ++ '.' :: d.digits.drop d.point.toNat)
      (d.whole * 10 ^ (d.point - d.digits.length)) := by
  set front := d.digits.take d.point.toNat with hfront
  set back := d.digits.drop d.point.toNat with hback
  have hparts : front ++ back = d.digits := List.take_append_drop _ _
  have hfrontNil : front ≠ [] := by
    rw [hfront, ne_eq, List.take_eq_nil_iff, not_or]
    exact ⟨by omega, h.nonempty⟩
  have hbackNil : back ≠ [] := by
    rw [hback, ne_eq, List.drop_eq_nil_iff]
    omega
  -- a zero in front would be the only digit, and no point would be inside
  have hzero : front.head? = some '0' → front = ['0'] := by
    intro hhead
    have hsingle := singleton_of_readable h (by
      rw [← hparts, List.head?_append_of_ne_nil _ hfrontNil]
      exact hhead)
    rw [hsingle, List.length_singleton] at hlong
    omega
  have hexp : -(back.length : Int) = d.point - d.digits.length := by
    rw [hback, List.length_drop]
    omega
  have hpoint := readsAs_point hfrontNil hbackNil hzero (hparts ▸ h.digits) negative
  rw [hparts, hexp] at hpoint
  exact hpoint

/-- A positional decimal reads as its value. -/
theorem readsAs_positional (h : d.Readable) (negative : Bool) :
    ReadsAs negative (Double.positional true d)
      (d.whole * 10 ^ (d.point - d.digits.length)) := by
  unfold Double.positional
  by_cases hlow : d.point ≤ 0
  · rw [if_pos hlow]
    exact readsAs_fraction h hlow negative
  · by_cases hlong : (d.digits.length : Int) ≤ d.point
    · rw [if_neg hlow, if_pos hlong, if_pos rfl]
      exact readsAs_whole h hlong negative
    · rw [if_neg hlow, if_neg hlong, List.append_assoc]
      exact readsAs_inside h (Int.not_le.mp hlow) (Int.not_le.mp hlong) negative

/-- The text of an exponent. -/
def exponentText (e : Int) : List Char :=
  'e' :: (if e < 0 then '-' else '+') :: Nat.toDigits 10 e.natAbs

/-- One digit and an exponent. -/
theorem readsAs_digit {c : Char} (hc : c.isDigit = true) {e : Int} (he : e.natAbs < 2 ^ 31)
    (negative : Bool) :
    ReadsAs negative (c :: exponentText e) (Nat.ofDigitChars 10 [c] 0 * 10 ^ e) := by
  refine ⟨digitsValue [c], e, by rw [digitsValue_eq], fun rest hrest => ?_⟩
  have hdigits : ∀ c' ∈ [c], c'.isDigit = true := List.forall_mem_singleton.mpr hc
  have hnumber := number_digits (List.cons_ne_nil c []) hdigits (by simp)
    (noDigit_cons (c := 'e') (by decide) ((if e < 0 then '-' else '+') ::
      (Nat.toDigits 10 e.natAbs ++ rest))) negative
  rw [fraction, exponent_written he hrest.noDigit, zero_add] at hnumber
  exact hnumber

/-- One digit, more of them after a point, and an exponent. -/
theorem readsAs_digits {c : Char} {places : List Char} (hplaces : places ≠ [])
    (hdigits : ∀ c' ∈ c :: places, c'.isDigit = true) {e : Int} (he : e.natAbs < 2 ^ 31)
    (negative : Bool) :
    ReadsAs negative (c :: '.' :: (places ++ exponentText e))
      (Nat.ofDigitChars 10 (c :: places) 0 * 10 ^ (-(places.length : Int) + e)) := by
  refine ⟨digitsValue (c :: places), -(places.length : Int) + e, by rw [digitsValue_eq],
    fun rest hrest => ?_⟩
  obtain ⟨hc, hdigits⟩ := List.forall_mem_cons.mp hdigits
  have hnumber := number_digits (List.cons_ne_nil c []) (List.forall_mem_singleton.mpr hc) (by simp)
    (noDigit_cons (c := '.') (by decide) (places ++ 'e' :: (if e < 0 then '-' else '+') ::
      (Nat.toDigits 10 e.natAbs ++ rest))) negative
  rw [fraction_places_exponent hplaces hdigits, exponent_written he hrest.noDigit] at hnumber
  rw [exponentText, List.cons_append, List.cons_append, List.append_assoc]
  exact hnumber

/-- A scientific decimal reads as its value. -/
theorem readsAs_scientific (h : d.Readable) (negative : Bool) :
    ReadsAs negative (Double.scientific d) (d.whole * 10 ^ (d.point - d.digits.length)) := by
  have hsmall : (d.point - 1).natAbs < 2 ^ 31 := by
    have := h.low
    have := h.high
    omega
  have hwhole : Nat.ofDigitChars 10 d.digits 0 = d.whole := rfl
  have hall := h.digits
  unfold Double.scientific
  dsimp only
  rw [List.append_assoc]
  cases hdigits : d.digits with
  | nil => exact absurd hdigits h.nonempty
  | cons c places =>
      rw [hdigits] at hall hwhole
      rw [← hwhole, List.length_cons]
      cases places with
      | nil => exact readsAs_digit (hall c List.mem_cons_self) hsmall negative
      | cons p places =>
          have hexp : -((p :: places).length : Int) + (d.point - 1) =
              d.point - ((p :: places).length + 1 : Nat) := by
            push_cast
            omega
          rw [← hexp]
          exact readsAs_digits (List.cons_ne_nil p places) hall hsmall negative

/-- **The text of a readable decimal reads as a finite double.** -/
theorem number_decimal (h : d.Readable) (negative : Bool) :
    ∃ read : Double, read.isFinite = true ∧ ∀ rest, Ended rest →
      number negative (Double.Layout.json.decimal d ++ rest) = .ok (.float read, rest) := by
  have hreads : ReadsAs negative (Double.Layout.json.decimal d)
      (d.whole * 10 ^ (d.point - d.digits.length)) := by
    have hlayout : Double.Layout.json.decimal d = Double.positional true d ∨
        Double.Layout.json.decimal d = Double.scientific d := ite_eq_or_eq _ _ _
    rcases hlayout with hlayout | hlayout
    · rw [hlayout]
      exact readsAs_positional h negative
    · rw [hlayout]
      exact readsAs_scientific h negative
  obtain ⟨digits, exponent, hvalue, hread⟩ := hreads
  have hbound : (digits : ℚ) * 10 ^ exponent < Double.overflowBound := hvalue ▸ h.small
  exact ⟨_, Double.isFinite_ofDecimal hbound negative, fun rest hrest =>
    (hread rest hrest).trans (decimal_small hbound negative)⟩

/-! ## Written numbers -/

/-- A number that JSON text can hold: an integer that is kept as such, or a finite
double. -/
def NumberInRange : Number → Prop
  | .int i => keepsInt i = true
  | .float d => d.isFinite = true

/-- An integer that is kept as such. -/
def WholeNumber : Number → Prop
  | .int i => keepsInt i = true
  | .float _ => False

theorem WholeNumber.inRange {n : Number} (h : WholeNumber n) : NumberInRange n := by
  cases n with
  | int i => exact h
  | float d => exact h.elim

/-- The number as which the text of a number reads. -/
def rereadNumber (n : Number) : Number :=
  match scalar (numberText n) with
  | .ok (.num read, _) => read
  | _ => n

/-- Only what begins with a digit reads as a number without sign. -/
theorem head_of_number {negative : Bool} {s : List Char} {read : Number × List Char}
    (h : number negative s = .ok read) : ∃ c tail, s = c :: tail ∧ c.isDigit = true := by
  unfold number at h
  split at h
  · cases h
  · exact ⟨'0', _, rfl, by decide⟩
  · rename_i c tail _
    split at h
    · rename_i hc
      exact ⟨c, tail, rfl, hc⟩
    · cases h

/-- A value that begins with a digit is a number. -/
theorem scalar_digit {c : Char} (hc : c.isDigit = true) (s : List Char) :
    scalar (c :: s) = (number false (c :: s)).map fun (n, rest) => (.num n, rest) := by
  rw [scalar, if_pos hc]
  all_goals
    rintro rfl
    exact absurd hc (by decide)

/-- A number reads as a value, with its sign in front. -/
theorem scalar_signed {negative : Bool} {text : List Char} {n : Number}
    (h : ∀ rest, Ended rest → number negative (text ++ rest) = .ok (n, rest)) (hrest : Ended rest) :
    scalar ((if negative then ['-'] else []) ++ text ++ rest) = .ok (.num n, rest) := by
  cases negative with
  | true =>
      rw [if_pos rfl, List.append_assoc, List.singleton_append, scalar, h rest hrest]
      rfl
  | false =>
      obtain ⟨c, tail, htext, hc⟩ := head_of_number (h rest hrest)
      rw [if_neg (by decide), List.nil_append, htext, scalar_digit hc, ← htext, h rest hrest]
      rfl

/-- **A written integer reads back.** -/
theorem scalar_intText {i : Int} (hi : keepsInt i = true) (hrest : Ended rest) :
    scalar (intText i ++ rest) = .ok (.num (.int i), rest) := by
  have hdigits : ∀ c ∈ Nat.toDigits 10 i.natAbs, c.isDigit = true :=
    fun c hc => Nat.isDigit_of_mem_toDigits (by decide) (le_refl 10) hc
  have hzero : (Nat.toDigits 10 i.natAbs).head? = some '0' →
      Nat.toDigits 10 i.natAbs = ['0'] := by
    intro hhead
    by_cases hi : 0 < i.natAbs
    · exact absurd hhead (Text.head?_toDigits_ne_zero hi)
    · obtain rfl : i = 0 := by omega
      rfl
  have hsigned : intText i = (if decide (i < 0) then ['-'] else []) ++
      Nat.toDigits 10 i.natAbs := by
    simp only [intText, decide_eq_true_eq]
  rw [hsigned]
  refine scalar_signed (fun rest hrest => ?_) hrest
  rw [number_digits Nat.toDigits_ne_nil hdigits hzero hrest.noDigit, fraction_ended _ _ hrest,
    digitsValue_eq, Nat.ofDigitChars_ten_toDigits]
  have hvalue : (if decide (i < 0) = true then -(i.natAbs : Int) else i.natAbs) = i := by
    by_cases hneg : i < 0
    · rw [if_pos (decide_eq_true hneg)]
      omega
    · rw [if_neg (by simpa using hneg)]
      omega
  have hplain : (decide (i < 0) && ((i.natAbs : Int) == 0)) = false := by
    by_cases hneg : i < 0
    · rw [Bool.and_eq_false_iff, beq_eq_false_iff_ne]
      exact Or.inr (by omega)
    · rw [decide_eq_false hneg, Bool.false_and]
  dsimp only
  rw [hvalue, hi, hplain]
  rfl

/-- The text of a number in range reads as one number in range, whatever follows
it. -/
theorem exists_scalar_numberText {n : Number} (hn : NumberInRange n) :
    ∃ read, NumberInRange read ∧
      ∀ rest, Ended rest → scalar (numberText n ++ rest) = .ok (.num read, rest) := by
  cases n with
  | int i => exact ⟨.int i, hn, fun rest hrest => scalar_intText hn hrest⟩
  | float d =>
      obtain ⟨read, hread, htext⟩ :=
        number_decimal (Double.shortest_readable hn Double.Layout.json.tie) d.negative
      refine ⟨.float read, hread, fun rest hrest => ?_⟩
      have hnumber : d.isNaN = false := by
        have hfinite : d.exponentBits < Double.specialExponent := of_decide_eq_true hn
        rw [Double.isNaN, beq_eq_false_iff_ne.mpr (Nat.ne_of_lt hfinite), Bool.false_and]
      have hfinite : d.isFinite = true := hn
      rw [numberText, Double.text, hnumber, if_neg Bool.false_ne_true, if_pos hfinite]
      exact scalar_signed htext hrest

/-- **A written number reads**, and what it reads as does not depend on the text
after it. -/
theorem scalar_numberText {n : Number} (hn : NumberInRange n) (hrest : Ended rest) :
    scalar (numberText n ++ rest) = .ok (.num (rereadNumber n), rest) := by
  obtain ⟨read, _, htext⟩ := exists_scalar_numberText hn
  have hread : rereadNumber n = read := by
    have hnil := htext [] ended_nil
    rw [List.append_nil] at hnil
    rw [rereadNumber, hnil]
  rw [hread]
  exact htext rest hrest

/-- Integers read back. -/
theorem rereadNumber_int {i : Int} (hi : keepsInt i = true) :
    rereadNumber (.int i) = .int i := by
  have hread := scalar_intText hi ended_nil
  rw [List.append_nil] at hread
  rw [rereadNumber, numberText, hread]

theorem WholeNumber.reread {n : Number} (h : WholeNumber n) : rereadNumber n = n := by
  cases n with
  | int i => exact rereadNumber_int h
  | float d => exact h.elim

/-! ## Numbers that were read -/

theorem inRange_of_decimal {negative : Bool} {digits : Nat} {exponent : Int} {n : Number}
    {s : List Char} (h : decimal negative digits exponent s = .ok (n, rest)) :
    NumberInRange n := by
  unfold decimal at h
  dsimp only at h
  split at h
  · rename_i hfinite
    cases h
    exact hfinite
  · cases h

theorem inRange_of_exponent {negative : Bool} {digits : Nat} {shift : Int} {n : Number}
    {s : List Char} (h : exponent negative digits shift s = .ok (n, rest)) :
    NumberInRange n := by
  unfold exponent at h
  dsimp only at h
  grind [inRange_of_decimal, faultBefore, faultAt]

theorem inRange_of_fraction {negative : Bool} {whole : List Char} {n : Number} {s : List Char}
    (h : fraction negative whole s = .ok (n, rest)) : NumberInRange n := by
  unfold fraction at h
  grind [inRange_of_decimal, inRange_of_exponent, faultBefore, faultAt, NumberInRange]

/-- **Every number that was read is in range.** -/
theorem inRange_of_number {negative : Bool} {n : Number} {s : List Char}
    (h : number negative s = .ok (n, rest)) : NumberInRange n := by
  unfold number at h
  grind [inRange_of_fraction, faultBefore, faultAt]

end CallTree.Json
