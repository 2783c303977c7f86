import CallTree.Double.Shortest

/-!
# How floating point numbers are written

A `Layout` holds the decisions of a written form: which decimal exponents
stand in positional notation, whether an integer keeps `.0`, and which of two
equally near decimals is written.  JSON text and plain display are two such
layouts.
-/

namespace CallTree.Double

/-- The decisions of a written form.  The exponent of a decimal is that of its
first digit; from `lowest` to `highest` it is positional, outside it is
scientific. -/
structure Layout where
  lowest : Option Int
  highest : Option Int
  keepsPoint : Bool
  tie : Tie

/-- JSON text is positional for the exponents -5 to 15 and always shows that
the number is no integer. -/
def Layout.json : Layout := ⟨some (-5), some 15, true, .toEven⟩

/-- Display text is always positional and writes integers bare. -/
def Layout.display : Layout := ⟨none, none, false, .away⟩

/-- Display text that still tells a floating point number from an integer. -/
def Layout.pointed : Layout := ⟨none, none, true, .away⟩

/-- A decimal in positional notation. -/
def positional (keepsPoint : Bool) (d : Decimal) : List Char :=
  let length : Int := d.digits.length
  if d.point ≤ 0 then
    ['0', '.'] ++ List.replicate (-d.point).toNat '0' ++ d.digits
  else if length ≤ d.point then
    d.digits ++ List.replicate (d.point - length).toNat '0' ++
      (if keepsPoint then ['.', '0'] else [])
  else
    d.digits.take d.point.toNat ++ ['.'] ++ d.digits.drop d.point.toNat

/-- A decimal in scientific notation, its exponent with a sign. -/
def scientific (d : Decimal) : List Char :=
  let mantissa := match d.digits with
    | [] => ['0']
    | [c] => [c]
    | c :: rest => c :: '.' :: rest
  let exponent := d.point - 1
  mantissa ++ ['e', if exponent < 0 then '-' else '+'] ++ Nat.toDigits 10 exponent.natAbs

/-- The decimal of a magnitude in the given layout. -/
def Layout.decimal (layout : Layout) (d : Decimal) : List Char :=
  let exponent := d.point - 1
  if layout.lowest.all (· ≤ exponent) && layout.highest.all (exponent ≤ ·) then
    positional layout.keepsPoint d
  else scientific d

/-- The text of a double in the given layout. -/
def text (layout : Layout) (d : Double) : List Char :=
  if d.isNaN then ['N', 'a', 'N']
  else
    (if d.negative then ['-'] else []) ++
      (if d.isFinite then layout.decimal (d.shortest layout.tie) else ['i', 'n', 'f'])

end CallTree.Double
