import GroupChat.Decimal.Shortest

/-!
# Decimals of floating-point numbers

How the shortest decimal of a floating-point number is laid out: positional notation between two
powers of ten, and a mantissa with an exponent outside.

## Main definitions

- `FloatParts`: sign, mantissa and power of two of a finite number.
- `Layout`: the choices of a notation.
- `Layout.render`: the text of a finite number.
-/

namespace GroupChat

/-- A finite floating-point number `± mantissa * 2 ^ exponent`. -/
structure FloatParts where
  /-- Whether the sign is minus. -/
  negative : Bool
  /-- The mantissa. -/
  mantissa : Nat
  /-- The power of two. -/
  exponent : Int
  deriving DecidableEq, Repr

namespace FloatParts

/-- The parts that the sixty-four `bits` spell. The exponent field of infinities and of what is not
a number is read like any other. -/
def ofBits (bits : UInt64) : FloatParts :=
  let field : Nat := bits.toNat / 0x10000000000000 % 0x800
  let fraction := bits.toNat % 0x10000000000000
  let negative : Bool := bits.toNat / 0x8000000000000000 = 1
  if field = 0 then ⟨negative, fraction, -1074⟩
  else ⟨negative, 0x10000000000000 + fraction, (field : Int) - 1075⟩

/-- The reals that round to the absolute value of `p`. -/
def interval (p : FloatParts) : Interval :=
  Interval.ofBinary p.mantissa p.exponent (p.mantissa == 0x10000000000000 && p.exponent != -1074)

end FloatParts

/-- A notation for a `Decimal`. -/
structure Layout where
  /-- The smallest power of ten whose multiples are written positionally. -/
  lowest : Int
  /-- The largest such power. -/
  highest : Int
  /-- What follows the digits of a whole number. -/
  whole : String
  /-- What opens the exponent of a large number. -/
  plus : String
  /-- What opens the exponent of a small number. -/
  minus : String
  deriving Repr

namespace Layout

/-- The digits of a positive decimal with a point, where `top` is the power of ten that the first
digit counts. -/
def positional (layout : Layout) (digits : List Char) (exponent top : Int) : List Char :=
  if 0 ≤ exponent then
    digits ++ List.replicate exponent.toNat '0' ++ layout.whole.toList
  else if 0 ≤ top then
    digits.take (top.toNat + 1) ++ ['.'] ++ digits.drop (top.toNat + 1)
  else
    ['0', '.'] ++ List.replicate (-top - 1).toNat '0' ++ digits

/-- The `digits` of a positive decimal with a point behind the first one and an exponent. -/
def scientific (layout : Layout) (digits : List Char) (top : Int) : List Char :=
  let mantissa :=
    match digits with
    | first :: next :: rest => first :: '.' :: next :: rest
    | _ => digits
  mantissa ++ (if 0 ≤ top then layout.plus else layout.minus).toList ++ Nat.toDigits 10 top.natAbs

/-- The text of the positive decimal `d`. -/
def renderDecimal (layout : Layout) (d : Decimal) : List Char :=
  let digits := Nat.toDigits 10 d.digits
  let top := d.exponent + digits.length - 1
  if layout.lowest ≤ top ∧ top ≤ layout.highest then layout.positional digits d.exponent top
  else layout.scientific digits top

/-- The text of the finite number `p`. -/
def render (layout : Layout) (p : FloatParts) : List Char :=
  (if p.negative then ['-'] else []) ++
    if p.mantissa = 0 then '0' :: layout.whole.toList else layout.renderDecimal p.interval.shortest

end Layout

end GroupChat
