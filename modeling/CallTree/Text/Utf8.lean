/-!
# Texts from bytes

Files hold bytes.  Bytes that are the UTF-8 form of a text read as that text;
where a reader has to make do with any bytes, every part that is no UTF-8 form
reads as one U+FFFD.
-/

namespace CallTree.Text

/-- What the first byte of a character's UTF-8 form tells: the bits it
contributes, how many bytes follow, and the range of the next byte. -/
structure Lead where
  bits : Nat
  follow : Nat
  low : Nat
  high : Nat

/-- The lead byte of a character of two or more bytes. -/
def lead? (b : Nat) : Option Lead :=
  if 0xC2 ≤ b && b ≤ 0xDF then some ⟨b - 0xC0, 1, 0x80, 0xBF⟩
  else if b == 0xE0 then some ⟨0, 2, 0xA0, 0xBF⟩
  else if b == 0xED then some ⟨0xD, 2, 0x80, 0x9F⟩
  else if 0xE1 ≤ b && b ≤ 0xEF then some ⟨b - 0xE0, 2, 0x80, 0xBF⟩
  else if b == 0xF0 then some ⟨0, 3, 0x90, 0xBF⟩
  else if 0xF1 ≤ b && b ≤ 0xF3 then some ⟨b - 0xF0, 3, 0x80, 0xBF⟩
  else if b == 0xF4 then some ⟨4, 3, 0x80, 0x8F⟩
  else none

/-- The bytes that follow a lead byte: the character, if they are all there,
and how many bytes belong together either way. -/
def tails (bits : Nat) : (follow low high taken : Nat) → List Nat → Option Char × Nat
  | 0, _, _, taken, _ => (some (Char.ofNat bits), taken)
  | _ + 1, _, _, taken, [] => (none, taken)
  | follow + 1, low, high, taken, b :: rest =>
      if low ≤ b && b ≤ high then
        tails (bits * 64 + (b - 0x80)) follow 0x80 0xBF (taken + 1) rest
      else (none, taken)

/-- The first character of a non-empty list of bytes, `none` where it is no
UTF-8 form, and how many bytes it takes after the first. -/
def firstChar (b : Nat) (rest : List Nat) : Option Char × Nat :=
  if b < 0x80 then (some (Char.ofNat b), 0)
  else
    match lead? b with
    | none => (none, 0)
    | some l => tails l.bits l.follow l.low l.high 0 rest

/-- The characters of a list of bytes, `none` for each part that is no UTF-8
form. -/
def chars : List Nat → List (Option Char)
  | [] => []
  | b :: rest =>
      let (c, taken) := firstChar b rest
      c :: chars (rest.drop taken)
termination_by bytes => bytes.length
decreasing_by simp only [List.length_drop, List.length_cons]; omega

/-- The text whose UTF-8 form the bytes are. -/
def ofUtf8? (bytes : List UInt8) : Option String :=
  ((chars (bytes.map UInt8.toNat)).mapM id).map String.ofList

/-- A text for any bytes; what is no UTF-8 form reads as U+FFFD. -/
def ofUtf8Lossy (bytes : List UInt8) : String :=
  String.ofList ((chars (bytes.map UInt8.toNat)).map (·.getD '\uFFFD'))

end CallTree.Text
