/-!
# The fewest decimal digits of a binary number

A positive binary number stands for every real number that rounds to it. Of the decimals in that
interval, those with the fewest digits are the candidates, and the candidate nearest to the number
is its shortest decimal. The search works on the grids of decimals with one, two, … significant
digits, in whole numbers only.

## Main definitions

- `Decimal`: a whole number of digits times a power of ten.
- `Interval`: a positive number, the bounds of what rounds to it, over one denominator.
- `Interval.ofBinary`: the interval of a mantissa and a power of two.
- `Interval.shortest`: the shortest decimal.
-/

namespace GroupChat

/-- The number `digits * 10 ^ exponent`. -/
structure Decimal where
  /-- The significant digits, read as one number. -/
  digits : Nat
  /-- The power of ten that the last digit counts. -/
  exponent : Int
  deriving DecidableEq, Repr

/-- The same number without zeros at the end of its digits; `fuel` bounds their count. -/
def Decimal.dropZeros : Nat → Decimal → Decimal
  | 0, d => d
  | fuel + 1, d =>
    if d.digits % 10 = 0 ∧ d.digits ≠ 0 then dropZeros fuel ⟨d.digits / 10, d.exponent + 1⟩ else d

/-- A positive number with the bounds of what rounds to it, all three over `unit`. -/
structure Interval where
  /-- The lower bound. -/
  low : Nat
  /-- The number itself. -/
  value : Nat
  /-- The upper bound. -/
  high : Nat
  /-- The denominator. -/
  unit : Nat
  /-- Whether the bounds round to the number too. -/
  closed : Bool
  deriving Repr

namespace Interval

/-- The reals that round to `m * 2 ^ q`. The gap below is half as wide when `narrow`, which is the
case at a power of two. -/
def ofBinary (m : Nat) (q : Int) (narrow : Bool) : Interval :=
  let gap := if narrow then 1 else 2
  let scale := Nat.pow 2 (q - 2).toNat
  ⟨(4 * m - gap) * scale, 4 * m * scale, (4 * m + 2) * scale, Nat.pow 2 (2 - q).toNat,
    m % 2 = 0⟩

/-- The interval of numbers `10 ^ k` times smaller. -/
def scale (i : Interval) (k : Int) : Interval :=
  let up := Nat.pow 10 (-k).toNat
  ⟨i.low * up, i.value * up, i.high * up, i.unit * Nat.pow 10 k.toNat, i.closed⟩

/-- Whether the whole number `n` rounds to the number. -/
def admits (i : Interval) (n : Nat) : Bool :=
  if i.closed then i.low ≤ n * i.unit && n * i.unit ≤ i.high
  else i.low < n * i.unit && n * i.unit < i.high

/-- The nearest whole number in `i`, of the two beside its value. Of two equally near ones it is the
even one. -/
def nearest? (i : Interval) : Option Nat :=
  let floor := i.value / i.unit
  let below := i.value - floor * i.unit
  let above := (floor + 1) * i.unit - i.value
  match i.admits floor && floor != 0, i.admits (floor + 1) with
  | false, false => none
  | true, false => some floor
  | false, true => some (floor + 1)
  | true, true =>
    some (if below < above || (below == above && floor % 2 == 0) then floor else floor + 1)

/-- The largest power of ten not above the number, sought from `k` downwards in `fuel` steps. -/
def magnitude (i : Interval) : Nat → Int → Int
  | 0, k => k
  | fuel + 1, k =>
    let s := i.scale k
    if s.unit ≤ s.value then k else magnitude i fuel (k - 1)

/-- The shortest decimal on the grids that end at `10 ^ k` and below, sought in `fuel` steps. -/
def search (i : Interval) : Nat → Int → Decimal
  | 0, k => ⟨(i.scale k).value / (i.scale k).unit, k⟩
  | fuel + 1, k =>
    match (i.scale k).nearest? with
    | some n => ⟨n, k⟩
    | none => search i fuel (k - 1)

/-- The shortest decimal in `i`, which rounds to the number. -/
def shortest (i : Interval) : Decimal :=
  (i.search 17 (i.magnitude 700 310)).dropZeros 20

end Interval

end GroupChat
