/-!
# Blank characters and trimming

The characters that count as blank are those with the Unicode property
`White_Space`.  `trim` takes them off both ends of a text.
-/

namespace CallTree.Text

/-- The characters with the Unicode property `White_Space`. -/
def isBlank (c : Char) : Bool :=
  let n := c.toNat
  (9 ≤ n && n ≤ 13) || n == 0x20 || n == 0x85 || n == 0xA0 || n == 0x1680 ||
    (0x2000 ≤ n && n ≤ 0x200A) || n == 0x2028 || n == 0x2029 || n == 0x202F ||
    n == 0x205F || n == 0x3000

/-- The text without the blanks at its start. -/
def trimStart (s : List Char) : List Char :=
  s.dropWhile isBlank

/-- The text without the blanks at its end. -/
def trimEnd (s : List Char) : List Char :=
  (s.reverse.dropWhile isBlank).reverse

/-- The text without the blanks at either end. -/
def trim (s : List Char) : List Char :=
  trimEnd (trimStart s)

/-- A text that begins with no blank is not trimmed away. -/
theorem trim_ne_nil {c : Char} (hc : isBlank c = false) (s : List Char) : trim (c :: s) ≠ [] := by
  have hstart : trimStart (c :: s) = c :: s := by
    rw [trimStart, List.dropWhile_cons, hc]
    rfl
  rw [trim, hstart, trimEnd, ne_eq, List.reverse_eq_nil_iff, List.reverse_cons,
    List.dropWhile_append]
  split <;> simp [hc]

end CallTree.Text
