import GroupChat.Json.Fault

/-!
# Reading from a text

A reader takes characters off the front of a text and either gives a result or fails. The cursor
knows the place in the text. A fault of form is placed where it is found; a fault of shape found
inside a list or an object is placed where that list or object ends, so it travels with its cursor
until then.

## Main definitions

- `Cursor`: the rest of a text and the place where it begins.
- `Reader`: a step that moves the cursor.
- `Reader.failHere`, `Reader.failNext`, `Reader.misfit`: the three ways to fail.
- `Reader.placed`: places the faults of shape that a reader leaves open.
- `Reader.run`: reads a whole text.
-/

namespace GroupChat.Json

/-- The place behind the character `c`. -/
def Position.after (p : Position) (c : Char) : Position :=
  if c = '\n' then ⟨p.line + 1, 0⟩ else ⟨p.line, p.column + c.utf8Size⟩

/-- The place behind the first byte of `rest`, which begins at `p`. -/
def Position.afterByte (p : Position) : List Char → Position
  | [] => p
  | c :: _ => if c = '\n' then ⟨p.line + 1, 0⟩ else ⟨p.line, p.column + 1⟩

/-- The place behind the first `n` bytes of `rest`, which begins at `p`. -/
def Position.afterBytes (p : Position) : Nat → List Char → Position
  | _, [] => p
  | n, c :: rest =>
    if c.utf8Size ≤ n then (p.after c).afterBytes (n - c.utf8Size) rest
    else ⟨p.line, p.column + n⟩

/-- The `rest` of a text, and the place where it begins. -/
structure Cursor where
  /-- The characters ahead. -/
  rest : List Char
  /-- The place. -/
  position : Position
  deriving DecidableEq, Repr

/-- The cursor in front of the `text`. -/
def Cursor.start (text : List Char) : Cursor := ⟨text, ⟨1, 0⟩⟩

/-- The cursor `c` behind the next character. -/
def Cursor.advance (c : Cursor) : Cursor :=
  match c.rest with
  | [] => c
  | x :: rest => ⟨rest, c.position.after x⟩

/-- Whether `c` is one of the blanks of the format. -/
def isSpace (c : Char) : Bool := c == ' ' || c == '\n' || c == '\t' || c == '\r'

/-- The cursor behind the blanks of `rest`, which begins at `p`. -/
def Cursor.pastSpace (p : Position) : List Char → Cursor
  | [] => ⟨[], p⟩
  | c :: rest => if isSpace c then pastSpace (p.after c) rest else ⟨c :: rest, p⟩

/-- Where a `Fault` is. -/
inductive Place where
  /-- At a known place. -/
  | known (p : Position)
  /-- At the end of the list or object in which the reader stood. -/
  | pending (c : Cursor)
  deriving Repr

/-- A failed step of a `Reader`. -/
structure Failure where
  /-- What is wrong. -/
  cause : Cause
  /-- Where. -/
  place : Place
  deriving Repr

/-- The `Fault` that a failed step reports. -/
def Failure.fault (f : Failure) : Fault :=
  match f.place with
  | .known p => ⟨f.cause, some p⟩
  | .pending c => ⟨f.cause, some c.position⟩

/-- A step that takes characters off a text, from a `Cursor` to a `Cursor`. -/
abbrev Reader (α : Type) : Type := StateT Cursor (Except Failure) α

namespace Reader

variable {α β : Type}

/-- Fails with `fault` behind what was read. -/
def failHere (fault : FormFault) : Reader α := fun c =>
  .error ⟨.form fault, .known c.position⟩

/-- Fails with `fault` at the next byte. -/
def failNext (fault : FormFault) : Reader α := fun c =>
  .error ⟨.form fault, .known (c.position.afterByte c.rest)⟩

/-- Fails because of the shape of a value (`ShapeFault`); the place is found later. -/
def misfit (fault : ShapeFault) : Reader α := fun c =>
  .error ⟨.shape fault, .pending c⟩

/-- Fails because of the shape of the value behind which the reader stands (`ShapeFault`). -/
def misfitHere (fault : ShapeFault) : Reader α := fun c =>
  .error ⟨.shape fault, .known c.position⟩

/-- The result of a check, whose faults are placed later (`misfit`). -/
def ofExcept : Except ShapeFault α → Reader α
  | .ok a => pure a
  | .error fault => misfit fault

/-- The result of a check on the value behind which the reader stands (`misfitHere`). -/
def ofExceptHere : Except ShapeFault α → Reader α
  | .ok a => pure a
  | .error fault => misfitHere fault

/-- The next character, which stays unread, or `none` at the end. -/
def peek : Reader (Option Char) := fun c => .ok (c.rest.head?, c)

/-- Takes the next character. -/
def skip : Reader Unit := fun c => .ok ((), c.advance)

/-- Takes blanks (`isSpace`). -/
def space : Reader Unit := fun c => .ok ((), Cursor.pastSpace c.position c.rest)

/-- The number of characters ahead, plus one: enough fuel for a loop that takes one each time, as
`items` does. -/
def fuel : Reader Nat := fun c => .ok (c.rest.length + 1, c)

/-- Takes blanks (`space`) and shows what follows them (`peek`). -/
def peekPastSpace : Reader (Option Char) := do
  space
  peek

/-- Where a failed list or object with the closing bracket `close` is placed: behind the bracket if
only blanks stand before it. -/
def closing (close : Char) (c : Cursor) : Position :=
  let past := Cursor.pastSpace c.position c.rest
  if past.rest.head? = some close then past.advance.position else past.position

/-- Places the faults that `body` leaves open at the closing bracket of its list or object. -/
def placed (close : Char) (body : Reader α) : Reader α := fun c =>
  match body c with
  | .error ⟨cause, .pending c'⟩ => .error ⟨cause, .known (closing close c')⟩
  | r => r

/-- Runs `body` one level deeper, where `allowed` levels are left. -/
def deeper (allowed : Nat) (body : Nat → Reader α) : Reader α :=
  match allowed with
  | 0 => failNext .tooDeep
  | n + 1 => body n

/-- Fails with `.trailingCharacters` unless only blanks are left. -/
def atEnd : Reader Unit := do
  match ← peekPastSpace with
  | none => pure ()
  | some _ => failNext .trailingCharacters

/-- Reads the whole `text` with `r`. -/
def run (r : Reader α) (text : String) : Except Fault α :=
  match (do let a ← r; atEnd; pure a : Reader α) (Cursor.start text.toList) with
  | .ok (a, _) => .ok a
  | .error failure => .error failure.fault

end Reader

end GroupChat.Json
