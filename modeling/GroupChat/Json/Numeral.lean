import GroupChat.Json.Cursor

/-!
# Numbers

A number is a whole number when it has neither a point nor an exponent and sixty-four bits hold it.
All others are floating-point numbers. Of their digits, as many as sixty-four bits hold are used;
the others count as powers of ten before the point and not at all behind it.

## Main definitions

- `Numeral`: a whole or a floating-point number.
- `scaleFloat?`: a number of digits times a power of ten.
- `Reader.numeral`: reads a number.
- `Reader.skipNumeral`: passes over a number.
-/

namespace GroupChat.Json

/-- A number that was read, before it is a `Json`. -/
inductive Numeral where
  /-- A whole number. -/
  | int (n : JsonInt)
  /-- A floating-point number. -/
  | float (x : Float)
  deriving Repr

/-- The `Json` of a number. -/
def Numeral.toJson : Numeral → Json
  | .int n => .int n
  | .float x => .float x

/-- The value of the decimal digit `c`. -/
def digitValue (c : Char) : Nat := c.toNat - '0'.toNat

/-- Adds digits to the number `n` as long as the result is at most `limit`. The digits that are not
used are left. -/
def takeDigits (limit : Nat) : Nat → List Char → Nat × List Char
  | n, [] => (n, [])
  | n, c :: rest =>
    let n' := n * 10 + digitValue c
    if n' ≤ limit then takeDigits limit n' rest else (n, c :: rest)

/-- The largest number of sixty-four bits, `2 ^ 64 - 1`. -/
def maxSignificand : Nat := 0xFFFFFFFFFFFFFFFF

/-- The largest exponent, `2 ^ 31 - 1`. -/
def maxExponent : Nat := 0x7FFFFFFF

/-- The number `10 ^ n`, rounded. -/
def tenToThe (n : Nat) : Float := Float.ofScientific 1 false n

/-- The number `x * 10 ^ exponent`, or nothing when it is too large. A power of ten below the range
of floating-point numbers is reached in several steps, of which `fuel` bounds the number. -/
def scaleFloat? (x : Float) : Nat → Int → Option Float
  | 0, _ => some x
  | fuel + 1, exponent =>
    if exponent.natAbs ≤ 308 then
      if 0 ≤ exponent then
        let y := x * tenToThe exponent.natAbs
        if y.isInf then none else some y
      else some (x / tenToThe exponent.natAbs)
    else if x == 0.0 then some x
    else if 0 ≤ exponent then none
    else scaleFloat? (x / tenToThe 308) fuel (exponent + 308)

namespace Reader

/-- Takes decimal digits (`Char.isDigit`). -/
def digits : Reader (List Char) := fun c =>
  let ds := c.rest.takeWhile Char.isDigit
  .ok (ds, ⟨c.rest.dropWhile Char.isDigit, ⟨c.position.line, c.position.column + ds.length⟩⟩)

/-- Gives the floating-point number `x` its sign. -/
def signed (negative : Bool) (x : Float) : Float := if negative then -x else x

/-- The floating-point number of a `significand` and an `exponent`. -/
def scaled (negative : Bool) (significand : Nat) (exponent : Int) : Reader Numeral :=
  match scaleFloat? significand.toUInt64.toFloat 5 exponent with
  | some x => pure (.float (signed negative x))
  | none => failHere .numberOutOfRange

/-- Fails behind the first `n` of the digits that were just taken. -/
def failBack (n : Nat) (fault : FormFault) : Reader Numeral := fun c =>
  .error ⟨.form fault, .known ⟨c.position.line, c.position.column - n⟩⟩

/-- Takes an exponent behind its letter and finishes the number, which had this `exponent` so far.
-/
def exponentTail (negative : Bool) (significand : Nat) (exponent : Int) : Reader Numeral := do
  let minus ← do
    match ← peek with
    | some '+' =>
      skip
      pure false
    | some '-' =>
      skip
      pure true
    | _ => pure false
  match ← peek with
  | none => failHere .endInValue
  | some c =>
    if c.isDigit then
      let ds ← digits
      let (n, unused) := takeDigits maxExponent 0 ds
      if unused.isEmpty then
        scaled negative significand (if minus then exponent - n else exponent + n)
      else if significand ≠ 0 ∧ !minus then
        failBack (unused.length - 1) .numberOutOfRange
      else pure (.float (signed negative 0.0))
    else failNext .invalidNumber

/-- Takes what may follow the digits of a floating-point number, as `exponentTail` does behind `e`.
-/
def exponentPart (negative : Bool) (significand : Nat) (exponent : Int) : Reader Numeral := do
  match ← peek with
  | some 'e' | some 'E' =>
    skip
    exponentTail negative significand exponent
  | _ => scaled negative significand exponent

/-- Takes the digits behind a `.` and finishes the number. -/
def fractionTail (negative : Bool) (significand : Nat) (exponent : Int) : Reader Numeral := do
  let ds ← digits
  if ds.isEmpty then
    match ← peek with
    | none => failNext .endInValue
    | some _ => failNext .invalidNumber
  else
    let (n, unused) := takeDigits maxSignificand significand ds
    exponentPart negative n (exponent - (ds.length - unused.length : Nat))

/-- The number of digits without point and exponent, which have the value `significand`. -/
def wholeNumber (negative : Bool) (significand : Nat) : Numeral :=
  let n : Int := if negative then -significand else significand
  if negative ∧ significand = 0 then .float (signed true 0.0)
  else
    match JsonInt.ofInt? n with
    | some n => .int n
    | none => .float (signed negative significand.toUInt64.toFloat)

/-- Finishes the number whose whole part has the digits `ds`. -/
def numeralTail (negative : Bool) (ds : List Char) : Reader Numeral := do
  let (n, unused) := takeDigits maxSignificand 0 ds
  match ← peek with
  | some '.' =>
    skip
    fractionTail negative n unused.length
  | some 'e' | some 'E' =>
    skip
    exponentTail negative n unused.length
  | _ => if unused.isEmpty then pure (wholeNumber negative n) else scaled negative n unused.length

/-- Takes the digits of a whole part, which starts with `0` only if it is zero. -/
def wholePart : Reader (List Char) := do
  match ← peek with
  | none => failHere .endInValue
  | some '0' =>
    skip
    match ← peek with
    | some c => if c.isDigit then failNext .invalidNumber else pure ['0']
    | none => pure ['0']
  | some c => if c.isDigit then digits else failNext .invalidNumber

/-- Takes a number, with or without `-` in front. -/
def numeral : Reader Numeral := do
  match ← peek with
  | some '-' =>
    skip
    numeralTail true (← wholePart)
  | _ => numeralTail false (← wholePart)

/-- Passes over an exponent, if there is one, as `exponentPart` reads it. -/
def skipExponent : Reader Unit := do
  match ← peek with
  | some 'e' | some 'E' =>
    skip
    match ← peek with
    | some '+' | some '-' => skip
    | _ => pure ()
    match ← peek with
    | some c => if c.isDigit then let _ ← digits else failNext .invalidNumber
    | none => failHere .invalidNumber
  | _ => pure ()

/-- Passes over what may follow a whole part, as `numeralTail` reads it. -/
def skipNumeralTail : Reader Unit := do
  match ← peek with
  | some '.' =>
    skip
    let ds ← digits
    if ds.isEmpty then failNext .invalidNumber
    skipExponent
  | _ => skipExponent

/-- Passes over a number, as `numeral` reads it. -/
def skipNumeral : Reader Unit := do
  match ← peek with
  | some '-' => skip
  | _ => pure ()
  match ← peek with
  | none => failHere .invalidNumber
  | some '0' =>
    skip
    match ← peek with
    | some c => if c.isDigit then failNext .invalidNumber
    | none => pure ()
    skipNumeralTail
  | some c =>
    if c.isDigit then
      let _ ← digits
      skipNumeralTail
    else failNext .invalidNumber

end Reader

end GroupChat.Json
