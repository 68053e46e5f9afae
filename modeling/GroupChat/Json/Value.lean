/-!
# JSON values

The values that a JSON text stands for. Whole numbers that sixty-four bits hold are kept apart from
floating-point numbers, and the members of an object keep the order in which they were written.

## Main definitions

- `JsonInt`: the whole numbers of the format.
- `Json`: values.
- `Json.canonical`: the value with sorted members, where the last of several members of one name
  stands.
-/

namespace GroupChat

/-- A whole number that sixty-four bits hold, with or without a sign. -/
structure JsonInt where
  /-- The number. -/
  val : Int
  lower : -0x8000000000000000 ≤ val
  upper : val < 0x10000000000000000

namespace JsonInt

instance : DecidableEq JsonInt := fun a b =>
  match a, b with
  | ⟨x, _, _⟩, ⟨y, _, _⟩ => if h : x = y then isTrue (by subst h; rfl) else isFalse (by simp [h])

instance : Repr JsonInt := ⟨fun n p => reprPrec n.val p⟩

@[ext]
theorem ext {a b : JsonInt} (h : a.val = b.val) : a = b := by
  cases a; cases b; cases h; rfl

/-- The whole number `n`, if sixty-four bits hold it. -/
def ofInt? (n : Int) : Option JsonInt :=
  if h : -0x8000000000000000 ≤ n ∧ n < 0x10000000000000000 then some ⟨n, h.1, h.2⟩ else none

/-- The signed number `n` of sixty-four bits. -/
def ofInt64 (n : Int64) : JsonInt :=
  ⟨n.toInt, by have := n.le_toInt; omega, by have := n.toInt_lt; omega⟩

/-- The unsigned number `n` of sixteen bits. -/
def ofUInt16 (n : UInt16) : JsonInt :=
  ⟨n.toNat, by omega, by have := n.toNat_lt; omega⟩

@[simp]
theorem val_ofInt64 (n : Int64) : (ofInt64 n).val = n.toInt := rfl

@[simp]
theorem val_ofUInt16 (n : UInt16) : (ofUInt16 n).val = n.toNat := rfl

end JsonInt

/-- A JSON value. -/
inductive Json where
  /-- The empty value. -/
  | null
  /-- A truth value. -/
  | bool (b : Bool)
  /-- A whole number. -/
  | int (n : JsonInt)
  /-- A floating-point number. -/
  | float (x : Float)
  /-- A text. -/
  | text (s : String)
  /-- A list. -/
  | list (items : List Json)
  /-- An object, as its members in the order written. -/
  | object (members : List (String × Json))
  deriving Repr, Inhabited

namespace Json

/-- Puts the member `name` into members sorted by name, in the place of one of the same name. -/
def insertMember {α : Type} (name : String) (value : α) : List (String × α) → List (String × α)
  | [] => [(name, value)]
  | (n, v) :: rest =>
    if name < n then (name, value) :: (n, v) :: rest
    else if name = n then (name, value) :: rest
    else (n, v) :: insertMember name value rest

/-- The `members` sorted by name; of several members of one name the last one stands. -/
def sortMembers {α : Type} (members : List (String × α)) : List (String × α) :=
  members.foldl (fun sorted (name, value) => insertMember name value sorted) []

mutual

/-- The `Json` with the members of all objects sorted by name (`sortMembers`). -/
def canonical : Json → Json
  | .list items => .list (canonicalItems items)
  | .object members => .object (sortMembers (canonicalMembers members))
  | v => v

/-- `canonical` on each item. -/
def canonicalItems : List Json → List Json
  | [] => []
  | v :: rest => v.canonical :: canonicalItems rest

/-- `canonical` on the value of each member. -/
def canonicalMembers : List (String × Json) → List (String × Json)
  | [] => []
  | (name, v) :: rest => (name, v.canonical) :: canonicalMembers rest

end

end Json

end GroupChat
