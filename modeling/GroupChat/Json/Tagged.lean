import GroupChat.Json.Record

/-!
# Tagged values

A value of one of several shapes, written as an object with two members: the name of the variant and
its content. The content may stand before the name; it is put aside then until the name is known.

## Main definitions

- `Tagged`: the variants, and the names of the two members.
- `Tagged.shape`: the shape of the value.
-/

namespace GroupChat.Json

/-- The variants of a tagged value, with the members `tag` and `content`. -/
structure Tagged (β : Type) where
  /-- What a value is called. -/
  label : String
  /-- The member with the name of the variant. -/
  tag : String
  /-- The member with the content. -/
  content : String
  /-- How the content of each variant is read. -/
  variants : List (String × Decoder β)
  /-- The name of the variant of a value, and the content. -/
  write : β → String × Json

namespace Tagged

variable {β : Type}

/-- What was found of a `Tagged` value. -/
inductive Found (β : Type) where
  /-- Nothing. -/
  | nothing
  /-- The variant. -/
  | variant (content : Decoder β)
  /-- The content, put aside. -/
  | content (v : Json)
  /-- Both. -/
  | both (b : β)

/-- Takes the member `name`. -/
def readMember (t : Tagged β) (allowed : Nat) (found : Found β) (name : String) :
    Reader (Found β) := do
  if name = t.tag then
    match found with
    | .nothing =>
      Reader.colon
      return .variant (← Shape.readChoice t.variants allowed)
    | .content v =>
      Reader.colon
      let content ← Shape.readChoice t.variants allowed
      return .both (← Reader.ofExcept (content.ofJson .buffered v))
    | _ => Reader.misfit (.duplicateField t.tag)
  else if name = t.content then
    match found with
    | .nothing =>
      Reader.colon
      return .content (← Reader.value allowed)
    | .variant content =>
      Reader.colon
      return .both (← content.read allowed)
    | _ => Reader.misfit (.duplicateField t.content)
  else
    Reader.colon
    Reader.skipValue
    pure found

/-- The value of what was `Found`. -/
def finish (t : Tagged β) : Found β → Except ShapeFault β
  | .nothing | .content _ => .error (.missingField t.tag)
  | .variant _ => .error (.missingField t.content)
  | .both b => .ok b

/-- Takes a value of `t` from a list of the name and the content. -/
def readList (t : Tagged β) (allowed : Nat) : Reader β := do
  if !(← Reader.nextItem true) then Reader.misfit (.invalidLength 0 t.label)
  let content ← Shape.readVariant t.variants
  if !(← Reader.nextItem false) then Reader.misfit (.invalidLength 1 t.label)
  content.read allowed

/-- Takes a value of `t`, which is an object or a list. -/
def read (t : Tagged β) (allowed : Nat) : Reader β := do
  match ← Reader.peekPastSpace with
  | some '\x7b' =>
    Reader.objectOf allowed fun allowed => do
      let found ← Reader.foldMembers (t.readMember allowed) (← Reader.fuel) true .nothing
      Reader.ofExcept (t.finish found)
  | some '[' => Reader.listOf allowed t.readList
  | _ => Reader.misplaced t.label

/-- Puts a `member` of a value at hand to what was `found`. -/
def putMember (t : Tagged β) (origin : Origin) (found : Found β) (member : String × Json) :
    Except ShapeFault (Found β) :=
  if member.1 = t.tag then
    match found with
    | .nothing => .variant <$> Shape.choiceOf t.variants member.2
    | .content v => do
      let content ← Shape.choiceOf t.variants member.2
      .both <$> content.ofJson origin v
    | _ => .error (.duplicateField t.tag)
  else if member.1 = t.content then
    match found with
    | .nothing => .ok (.content member.2)
    | .variant content => .both <$> content.ofJson origin member.2
    | _ => .error (.duplicateField t.content)
  else .ok found

/-- The value of `t` that a `Json` stands for. -/
def ofJson (t : Tagged β) (origin : Origin) : Json → Except ShapeFault β
  | .object ms => do
    let found ← ms.foldlM (t.putMember origin) .nothing
    t.finish found
  | .list [] => .error (.invalidLength 0 t.label)
  | .list [_] => .error (.invalidLength 1 t.label)
  | .list [.text name, v] => do
    let content ← Shape.variantOf t.variants name
    content.ofJson origin v
  | .list [v, _] => .error (.invalidType (found v) "variant identifier")
  | .list vs => .error (.invalidLength vs.length t.label)
  | v => .error (.invalidType (found v) t.label)

/-- The `Shape` of the values of `t`. -/
def shape (t : Tagged β) : Shape β where
  read := t.read
  ofJson := t.ofJson
  toJson b := .object [(t.tag, .text (t.write b).1), (t.content, (t.write b).2)]

end Tagged

end GroupChat.Json
