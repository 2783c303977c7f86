import CallTree.Proofs.Text.Packing
import CallTree.Token.Display

/-!
# Texts in byte tokens

The payload of a byte token is read as hexadecimal digits, and the bytes as a text
that ends at the first zero byte.  Marks may stand before the digits: `0x` any number
of times, which are dropped first, and then one `0x` or `0X` that the reader of the
digits drops itself.  Nothing else is read.

A payload that is not read is text already, and serves as a name without one `0x` in
front and without the pairs of zeros at its end.  The text that is left is the only
one that does not end in a pair of zeros.

Marks and zeros are dropped alike: a pair of characters, as often as a text begins
with it.

* `DropsPairs` — dropping a pair of characters from the front of a text;
* `bytesOfDigits_eq_some_iff` — which digits are read as bytes;
* `bytesOfHex_dropHexMarks_iff` — which payloads are;
* `unpadded_eq_iff` — what is left of a payload that is text already;
* `bytes_read_as_text` — what is read of a byte token, and what it is named else.
-/

namespace CallTree

namespace Text

/-! ## Dropping pairs from the front -/

/-- A pair of characters, written some times in a row. -/
def pairs (a b : Char) (count : Nat) : List Char :=
  (List.replicate count [a, b]).flatten

theorem pairs_succ (a b : Char) (count : Nat) :
    pairs a b (count + 1) = a :: b :: pairs a b count := by
  simp [pairs, List.replicate_succ]

theorem reverse_pairs (a : Char) (count : Nat) : (pairs a a count).reverse = pairs a a count := by
  simp [pairs, List.reverse_flatten]

/-- A function that drops a pair of characters, as often as a text begins with it. -/
structure DropsPairs (a b : Char) (drop : List Char → List Char) : Prop where
  pair : ∀ rest, drop (a :: b :: rest) = drop rest
  rest : ∀ s, ¬ [a, b] <+: s → drop s = s

theorem dropsPairs_dropHexMarks : DropsPairs '0' 'x' dropHexMarks := by
  refine ⟨fun rest => by rw [dropHexMarks], fun s hs => ?_⟩
  unfold dropHexMarks
  split
  · exact absurd (List.prefix_append ['0', 'x'] _) hs
  · rfl

theorem dropsPairs_dropZeroPairs : DropsPairs '0' '0' Token.dropZeroPairs := by
  refine ⟨fun rest => by rw [Token.dropZeroPairs], fun s hs => ?_⟩
  unfold Token.dropZeroPairs
  split
  · exact absurd (List.prefix_append ['0', '0'] _) hs
  · rfl

namespace DropsPairs

variable {a b : Char} {drop : List Char → List Char} (h : DropsPairs a b drop)

include h

/-- Only pairs are dropped, and none is left in front. -/
theorem exists_pairs (s : List Char) :
    (∃ count, s = pairs a b count ++ drop s) ∧ ¬ [a, b] <+: drop s := by
  -- Dropping a pair makes the text shorter, so the induction is on its length.
  induction hlength : s.length using Nat.strongRecOn generalizing s with
  | ind length ih =>
      by_cases hs : [a, b] <+: s
      · obtain ⟨rest, rfl⟩ := hs
        have hshorter : rest.length < length := by
          rw [← hlength, List.length_append]
          simp
        obtain ⟨⟨count, hcount⟩, hrest⟩ := ih rest.length hshorter rest rfl
        have hdrop : drop ([a, b] ++ rest) = drop rest := h.pair rest
        rw [hdrop]
        refine ⟨⟨count + 1, ?_⟩, hrest⟩
        calc [a, b] ++ rest
            = [a, b] ++ (pairs a b count ++ drop rest) := by rw [← hcount]
          _ = pairs a b (count + 1) ++ drop rest := by rw [pairs_succ]; rfl
      · rw [h.rest s hs]
        exact ⟨⟨0, rfl⟩, hs⟩

/-- Pairs in front make no difference. -/
theorem append_pairs (count : Nat) (s : List Char) : drop (pairs a b count ++ s) = drop s := by
  induction count with
  | zero => rfl
  | succ count ih =>
      rw [pairs_succ, List.cons_append, List.cons_append, h.pair]
      exact ih

/-- **What is left is the text after the pairs.** -/
theorem eq_iff {s left : List Char} :
    drop s = left ↔ (∃ count, s = pairs a b count ++ left) ∧ ¬ [a, b] <+: left := by
  constructor
  · rintro rfl
    exact h.exists_pairs s
  · rintro ⟨⟨count, rfl⟩, hleft⟩
    rw [h.append_pairs, h.rest left hleft]

end DropsPairs

/-! ## Bytes and their digits -/

/-- Whether digits of either case spell bytes, two for each. -/
structure Spells (digits : List Char) (bytes : List Nat) : Prop where
  inRange : ∀ byte ∈ bytes, byte < 256
  letters : SameLetters digits (hexOfBytes bytes)

/-- Two digits spell the byte that has them as its high and its low half. -/
theorem Spells.cons {a b : Char} {high low : Nat} {digits : List Char} {bytes : List Nat}
    (ha : digitIn? 16 a = some high) (hb : digitIn? 16 b = some low) (h : Spells digits bytes) :
    Spells (a :: b :: digits) ((16 * high + low) :: bytes) := by
  have hhigh : high < 16 := (digitIn?_eq_some_iff.mp ha).2
  have hlow : low < 16 := (digitIn?_eq_some_iff.mp hb).2
  have hfirst : (16 * high + low) / 16 = high := by omega
  have hsecond : (16 * high + low) % 16 = low := by omega
  constructor
  · intro byte hbyte
    rcases List.mem_cons.mp hbyte with rfl | hbyte
    · omega
    · exact h.inRange byte hbyte
  · have hpair : SameLetters [a, b] (digitsOfByte (16 * high + low)) := by
      simp [SameLetters, digitsOfByte, hfirst, hsecond, toUpper_eq_of_digitIn? ha,
        toUpper_eq_of_digitIn? hb]
    exact hpair.append h.letters

/-- **What is read as bytes is what spells them.** -/
theorem bytesOfDigits_eq_some_iff {digits : List Char} {bytes : List Nat} :
    bytesOfDigits digits = some bytes ↔ Spells digits bytes := by
  constructor
  · intro h
    induction digits using bytesOfDigits.induct generalizing bytes with
    | case1 =>
        obtain rfl : [] = bytes := Option.some.inj h
        exact ⟨by simp, rfl⟩
    | case2 c => cases h
    | case3 a b rest ih =>
        simp only [bytesOfDigits, Option.bind_eq_bind, Option.bind_eq_some_iff] at h
        obtain ⟨high, ha, low, hb, tail, htail, hbytes⟩ := h
        obtain rfl : (16 * high + low) :: tail = bytes := Option.some.inj hbytes
        exact .cons ha hb (ih htail)
  · intro h
    exact bytesOfDigits_of_sameLetters h.inRange h.letters

/-- The payloads that hold bytes: any number of `0x`, then at most one `0x` or `0X`,
then the digits of the bytes. -/
inductive HexPayload (bytes : List Nat) : List Char → Prop
  | intro (count : Nat) (mark : List Char) {digits : List Char}
      (last : mark ∈ [[], ['0', 'x'], ['0', 'X']]) (spelled : Spells digits bytes) :
      HexPayload bytes (pairs '0' 'x' count ++ mark ++ digits)

theorem HexPayload.inRange {bytes : List Nat} {payload : List Char} (h : HexPayload bytes payload) :
    ∀ byte ∈ bytes, byte < 256 := by
  cases h with
  | intro _ _ _ spelled => exact spelled.inRange

/-- What is read as hexadecimal is at most one mark, and digits. -/
theorem exists_mark_of_bytesOfHex {s : List Char} {bytes : List Nat}
    (h : bytesOfHex s = some bytes) :
    ∃ mark ∈ [[], ['0', 'x'], ['0', 'X']], ∃ digits, s = mark ++ digits ∧ Spells digits bytes := by
  unfold bytesOfHex at h
  split at h
  case isFalse => cases h
  case isTrue =>
    split at h
    · exact ⟨['0', 'x'], by simp, _, rfl, bytesOfDigits_eq_some_iff.mp h⟩
    · exact ⟨['0', 'X'], by simp, _, rfl, bytesOfDigits_eq_some_iff.mp h⟩
    · exact ⟨[], by simp, _, rfl, bytesOfDigits_eq_some_iff.mp h⟩

/-- **Which payloads are read as bytes.** -/
theorem bytesOfHex_dropHexMarks_iff {s : List Char} {bytes : List Nat} :
    bytesOfHex (dropHexMarks s) = some bytes ↔ HexPayload bytes s := by
  constructor
  · intro h
    obtain ⟨count, hcount⟩ := (dropsPairs_dropHexMarks.exists_pairs s).1
    obtain ⟨mark, hmark, digits, hdigits, hspelled⟩ := exists_mark_of_bytesOfHex h
    rw [hcount, hdigits, ← List.append_assoc]
    exact .intro count mark hmark hspelled
  · intro h
    obtain @⟨count, mark, digits, hmark, hspelled⟩ := h
    have hdigits := bytesOfDigits_eq_some_iff.mpr hspelled
    rw [List.append_assoc, dropsPairs_dropHexMarks.append_pairs]
    -- A last `0x` is dropped with the others, a `0X` by the reader of the digits.
    simp only [List.mem_cons, List.not_mem_nil, or_false] at hmark
    rcases hmark with rfl | rfl | rfl
    · rw [List.nil_append, dropHexMarks_of_bytesOfDigits hdigits]
      exact bytesOfHex_of_bytesOfDigits hdigits
    · exact bytesOfHex_dropHexMarks hdigits
    · have hkept : dropHexMarks (['0', 'X'] ++ digits) = ['0', 'X'] ++ digits :=
        dropsPairs_dropHexMarks.rest _ (by simp)
      have hlength := (digits_of_bytesOfDigits hdigits).1
      have heven : (digits.length + 1 + 1) % 2 = 0 := by omega
      rw [hkept]
      simpa [bytesOfHex, heven] using hdigits

/-! ## The text of bytes -/

/-- Whether a text has one character for every byte before the first zero byte. -/
def TextOf (bytes : List Nat) (text : String) : Prop :=
  text.toList.map Char.toNat = bytes.takeWhile (· != 0)

theorem map_toNat_zeroTerminated {bytes : List Nat} (h : ∀ byte ∈ bytes, byte < 256) :
    (zeroTerminated bytes).map Char.toNat = bytes.takeWhile (· != 0) := by
  have hsame : ∀ byte ∈ bytes.takeWhile (· != 0), (Char.toNat ∘ Char.ofNat) byte = byte := by
    intro byte hbyte
    have hlow : byte < 256 := h byte ((List.takeWhile_sublist _).subset hbyte)
    have hvalid : byte.isValidChar := Or.inl (by omega)
    rw [Function.comp_apply, Char.ofNat, dif_pos hvalid]
    rfl
  rw [zeroTerminated, List.map_map, List.map_congr_left hsame, List.map_id']

/-- Bytes have one text. -/
theorem textOf_iff {bytes : List Nat} (h : ∀ byte ∈ bytes, byte < 256) {text : String} :
    TextOf bytes text ↔ String.ofList (zeroTerminated bytes) = text := by
  rw [TextOf, ← map_toNat_zeroTerminated h, List.map_inj_right fun _ _ => Char.toNat_inj.mp,
    ← String.toList_inj, String.toList_ofList, eq_comm]

/-! ## Payloads that are text already -/

/-- A text without one `0x` in front. -/
inductive Unmarked : List Char → List Char → Prop
  | marked (body : List Char) : Unmarked ('0' :: 'x' :: body) body
  | bare {s : List Char} (h : ¬ ['0', 'x'] <+: s) : Unmarked s s

theorem unmarked_iff {s body : List Char} :
    Unmarked s body ↔ (stripStart ['0', 'x'] s).getD s = body := by
  constructor
  · intro h
    cases h with
    | marked body => rfl
    | bare h =>
        cases hstrip : stripStart ['0', 'x'] s with
        | none => rfl
        | some rest => exact absurd ⟨rest, (eq_append_of_stripStart hstrip).symm⟩ h
  · rintro rfl
    cases hstrip : stripStart ['0', 'x'] s with
    | none =>
        refine .bare ?_
        rintro ⟨rest, rfl⟩
        rw [stripStart_append] at hstrip
        cases hstrip
    | some rest =>
        rw [eq_append_of_stripStart hstrip]
        exact .marked rest

/-- Whether a text is a payload without one `0x` in front and without the pairs of
zeros at its end. -/
def Unpads (payload left : List Char) : Prop :=
  ∃ body, Unmarked payload body ∧ (∃ count, body = left ++ pairs '0' '0' count) ∧
    ¬ ['0', '0'] <:+ left

/-- What is left of a text without the pairs of zeros at its end. -/
theorem reverse_dropZeroPairs_eq_iff {body left : List Char} :
    (Token.dropZeroPairs body.reverse).reverse = left ↔
      (∃ count, body = left ++ pairs '0' '0' count) ∧ ¬ ['0', '0'] <:+ left := by
  have hends : ['0', '0'] <+: left.reverse ↔ ['0', '0'] <:+ left := by
    rw [← List.reverse_prefix]
    rfl
  have hcut (count : Nat) : body.reverse = pairs '0' '0' count ++ left.reverse ↔
      body = left ++ pairs '0' '0' count := by
    rw [List.reverse_eq_iff, List.reverse_append, reverse_pairs, List.reverse_reverse]
  rw [List.reverse_eq_iff, dropsPairs_dropZeroPairs.eq_iff, hends]
  simp only [hcut]

/-- **What is left of a payload is its one text without padding.** -/
theorem unpadded_eq_iff {payload left : String} :
    Token.unpadded payload = left ↔ Unpads payload.toList left.toList := by
  have hchars : Token.unpadded payload = left ↔
      (Token.dropZeroPairs ((stripStart ['0', 'x'] payload.toList).getD payload.toList).reverse
        ).reverse = left.toList := by
    rw [← String.toList_inj, Token.unpadded, String.toList_ofList]
  rw [hchars, reverse_dropZeroPairs_eq_iff]
  constructor
  · intro h
    exact ⟨_, unmarked_iff.mpr rfl, h⟩
  · rintro ⟨body, hbody, h⟩
    rw [unmarked_iff.mp hbody]
    exact h

end Text

namespace Token

open Text

section Payload

variable {payload : String} {token : Token}
  (hbytes : token = .fixedBytes payload ∨ token = .bytes payload)

include hbytes

/-- **What is read of a byte token** is the text of the bytes that its payload holds. -/
theorem ascii?_eq_some_iff {text : String} :
    token.ascii? = some text ↔ ∃ bytes, HexPayload bytes payload.toList ∧ TextOf bytes text := by
  have hread : token.ascii? =
      (bytesOfHex (dropHexMarks payload.toList)).map fun bytes =>
        String.ofList (zeroTerminated bytes) := by
    rcases hbytes with rfl | rfl
    · rfl
    · rfl
  rw [hread, Option.map_eq_some_iff]
  refine exists_congr fun bytes => ?_
  rw [bytesOfHex_dropHexMarks_iff]
  refine and_congr_right fun hpayload => ?_
  exact (textOf_iff hpayload.inRange).symm

/-- A byte token that is not read is named by what is left of its payload. -/
theorem label_of_not_read (h : token.ascii? = none) : token.label = unpadded payload := by
  rcases hbytes with rfl | rfl
  · rw [label, h]
  · rw [label, h]

end Payload

/-- **Byte tokens are read as hexadecimal, and nothing else is.**  Digits of either
case, alone or after one `0x`, are read as the text of their bytes.  A text is read
only where the payload is any number of `0x`, at most one `0x` or `0X` more, and such
digits.  Where nothing is read, the token is named by the one text that is the payload
without one `0x` in front and without the pairs of zeros at its end. -/
theorem bytes_read_as_text {payload : String} {token : Token}
    (hbytes : token = .fixedBytes payload ∨ token = .bytes payload) :
    (∀ bytes digits, Spells digits bytes →
        payload.toList = digits ∨ payload.toList = '0' :: 'x' :: digits →
          ∃ text, token.ascii? = some text ∧ TextOf bytes text) ∧
      (∀ text, token.ascii? = some text ↔
        ∃ bytes, HexPayload bytes payload.toList ∧ TextOf bytes text) ∧
      (token.ascii? = none → ∀ left : String,
        token.label = left ↔ Unpads payload.toList left.toList) := by
  refine ⟨?digits, fun text => ascii?_eq_some_iff hbytes, ?rest⟩
  case digits =>
    intro bytes digits hspelled hpayload
    have hholds : HexPayload bytes payload.toList := by
      rcases hpayload with hpayload | hpayload
      · rw [hpayload]
        exact .intro 0 [] (by simp) hspelled
      · rw [hpayload]
        exact .intro 0 ['0', 'x'] (by simp) hspelled
    have htext : TextOf bytes (String.ofList (zeroTerminated bytes)) :=
      (textOf_iff hspelled.inRange).mpr rfl
    exact ⟨_, (ascii?_eq_some_iff hbytes).mpr ⟨bytes, hholds, htext⟩, htext⟩
  case rest =>
    intro hnone left
    rw [label_of_not_read hbytes hnone]
    exact unpadded_eq_iff

theorem bytes_read_as_text_samples :
    ascii? (.fixedBytes "0x4F6b0041") = some "Ok" ∧
      label (.bytes "0xMyEvent0000") = "MyEvent" := by
  constructor
  · have hbytes : Token.fixedBytes "0x4F6b0041" = .fixedBytes "0x4F6b0041" ∨
        Token.fixedBytes "0x4F6b0041" = .bytes "0x4F6b0041" := Or.inl rfl
    have hspelled : Spells "4F6b0041".toList [0x4f, 0x6b, 0x00, 0x41] := ⟨by decide, by decide⟩
    obtain ⟨text, hread, htext⟩ := (bytes_read_as_text hbytes).1 _ _ hspelled (Or.inr rfl)
    obtain rfl : "Ok" = text := (textOf_iff hspelled.inRange).mp htext
    exact hread
  · have hbytes : Token.bytes "0xMyEvent0000" = .fixedBytes "0xMyEvent0000" ∨
        Token.bytes "0xMyEvent0000" = .bytes "0xMyEvent0000" := Or.inr rfl
    have hnone : ascii? (.bytes "0xMyEvent0000") = none := by decide
    have hleft : Unpads "0xMyEvent0000".toList "MyEvent".toList :=
      ⟨_, .marked _, ⟨2, rfl⟩, by decide⟩
    exact ((bytes_read_as_text hbytes).2.2 hnone "MyEvent").mpr hleft

end Token

end CallTree
