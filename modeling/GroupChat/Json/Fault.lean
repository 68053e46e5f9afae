import GroupChat.Json.Printer
import GroupChat.Text.Quoted

/-!
# What is wrong with a JSON text

A text can fail in its form, when it is no JSON, or in its shape, when the value is not what was
asked for. A fault found in a text carries the place where it was found.

## Main definitions

- `FormFault`: faults of form.
- `ShapeFault`: faults of shape, which name what was `Found`.
- `Fault`: either one, with its place.
- `Fault.message`: the wording, with the place at its end.
-/

namespace GroupChat.Json

/-- A fault in the form of a text, for which there is no `Json` at all. -/
inductive FormFault where
  /-- The text ends where a value should be. -/
  | endInValue
  /-- The text ends inside a list. -/
  | endInList
  /-- The text ends inside an object. -/
  | endInObject
  /-- The text ends inside a quoted text. -/
  | endInText
  /-- Something other than a value. -/
  | expectedValue
  /-- A word that is not one of the three of the format. -/
  | expectedWord
  /-- No colon behind the name of a member. -/
  | expectedColon
  /-- Neither a comma nor the end behind an item. -/
  | expectedItemEnd
  /-- Neither a comma nor the end behind a member. -/
  | expectedMemberEnd
  /-- The name of a member is no text. -/
  | nameNotText
  /-- A comma before the end of a list or an object. -/
  | trailingComma
  /-- More text behind the value. -/
  | trailingCharacters
  /-- A number that breaks off. -/
  | invalidNumber
  /-- A number too large for a floating-point number. -/
  | numberOutOfRange
  /-- An escape that the format does not know. -/
  | invalidEscape
  /-- Half of a surrogate pair. -/
  | loneSurrogate
  /-- The second half of a surrogate pair is missing. -/
  | missingSurrogate
  /-- A bare control character in a quoted text. -/
  | controlCharacter
  /-- Too many lists and objects inside each other. -/
  | tooDeep
  deriving DecidableEq, Repr

/-- The wording of a `FormFault`. -/
def FormFault.message : FormFault → String
  | .endInValue => "EOF while parsing a value"
  | .endInList => "EOF while parsing a list"
  | .endInObject => "EOF while parsing an object"
  | .endInText => "EOF while parsing a string"
  | .expectedValue => "expected value"
  | .expectedWord => "expected ident"
  | .expectedColon => "expected `:`"
  | .expectedItemEnd => "expected `,` or `]`"
  | .expectedMemberEnd => "expected `,` or `\x7d`"
  | .nameNotText => "key must be a string"
  | .trailingComma => "trailing comma"
  | .trailingCharacters => "trailing characters"
  | .invalidNumber => "invalid number"
  | .numberOutOfRange => "number out of range"
  | .invalidEscape => "invalid escape"
  | .loneSurrogate => "lone leading surrogate in hex escape"
  | .missingSurrogate => "unexpected end of hex escape"
  | .controlCharacter => "control character (\\u0000-\\u001F) found while parsing a string"
  | .tooDeep => "recursion limit exceeded"

/-- What a `Reader` came upon. -/
inductive Found where
  /-- The empty value. -/
  | null
  /-- A truth value. -/
  | bool (b : Bool)
  /-- A whole number. -/
  | int (n : Int)
  /-- A floating-point number. -/
  | float (x : Float)
  /-- A text. -/
  | text (s : String)
  /-- A list. -/
  | list
  /-- An object. -/
  | object
  deriving Repr

/-- The wording for what was `Found`. -/
def Found.message : Found → String
  | .null => "null"
  | .bool b => "boolean `" ++ (if b then "true" else "false") ++ "`"
  | .int n => "integer `" ++ String.ofList (renderInt n) ++ "`"
  | .float x => "floating point `" ++ String.ofList (renderFloat x) ++ "`"
  | .text s => "string " ++ Text.quote s
  | .list => "sequence"
  | .object => "map"

/-- What a value is, to one who expected something else (`Found`). -/
def found : Json → Found
  | .null => .null
  | .bool b => .bool b
  | .int n => .int n.val
  | .float x => .float x
  | .text s => .text s
  | .list _ => .list
  | .object _ => .object

/-- A fault in the shape of a `Json`, which is not what was asked for. -/
inductive ShapeFault where
  /-- A member is missing. -/
  | missingField (name : String)
  /-- A member is given twice. -/
  | duplicateField (name : String)
  /-- A value of another kind. -/
  | invalidType (found : Found) (expected : String)
  /-- A value of the right kind that is not allowed. -/
  | invalidValue (found : Found) (expected : String)
  /-- A list of the wrong length. -/
  | invalidLength (length : Nat) (expected : String)
  /-- A name that is none of the alternatives. -/
  | unknownVariant (name : String) (alternatives : List String)
  deriving Repr

/-- The alternatives `names` as a phrase. -/
def alternatives : List String → String
  | [] => "there are no variants"
  | [a] => "expected `" ++ a ++ "`"
  | [a, b] => "expected `" ++ a ++ "` or `" ++ b ++ "`"
  | names => "expected one of " ++ ", ".intercalate (names.map fun name => "`" ++ name ++ "`")

/-- The wording of a `ShapeFault`. -/
def ShapeFault.message : ShapeFault → String
  | .missingField name => "missing field `" ++ name ++ "`"
  | .duplicateField name => "duplicate field `" ++ name ++ "`"
  | .invalidType found expected => "invalid type: " ++ found.message ++ ", expected " ++ expected
  | .invalidValue found expected => "invalid value: " ++ found.message ++ ", expected " ++ expected
  | .invalidLength n expected =>
    "invalid length " ++ String.ofList (Nat.toDigits 10 n) ++ ", expected " ++ expected
  | .unknownVariant name names => "unknown variant `" ++ name ++ "`, " ++ alternatives names

/-- A place in a text: lines count from one, columns are the bytes of the line in front. -/
structure Position where
  /-- The line. -/
  line : Nat
  /-- The number of bytes of the line in front of the place. -/
  column : Nat
  deriving DecidableEq, Repr

/-- The cause of a `Fault`: one of form or one of shape. -/
inductive Cause where
  /-- A fault of form. -/
  | form (fault : FormFault)
  /-- A fault of shape. -/
  | shape (fault : ShapeFault)
  deriving Repr

/-- The wording of a `Cause`. -/
def Cause.message : Cause → String
  | .form fault => fault.message
  | .shape fault => fault.message

/-- A `Cause`, with its place when it was found in a text. -/
structure Fault where
  /-- What is wrong. -/
  cause : Cause
  /-- Where. -/
  place : Option Position
  deriving Repr

/-- The wording of a `fault`, with its place. -/
def Fault.message (fault : Fault) : String :=
  match fault.place with
  | none => fault.cause.message
  | some p =>
    fault.cause.message ++ " at line " ++ String.ofList (Nat.toDigits 10 p.line) ++ " column "
      ++ String.ofList (Nat.toDigits 10 p.column)

/-- The `fault` in the shape of a value that stands in no text. -/
def Fault.ofShape (fault : ShapeFault) : Fault := ⟨.shape fault, none⟩

/-- How faults are sorted for someone who reads values: the text breaks off, it is malformed, or
its value does not fit. -/
inductive FaultKind where
  /-- The text ends too early. -/
  | cutOff
  /-- The text is not in the form of the format. -/
  | malformed
  /-- The value is not what was asked for. -/
  | misfit
  deriving DecidableEq, Repr

/-- The `FaultKind` of a cause. -/
def Cause.kind : Cause → FaultKind
  | .shape _ => .misfit
  | .form .endInValue | .form .endInList | .form .endInObject | .form .endInText => .cutOff
  | .form _ => .malformed

end GroupChat.Json
