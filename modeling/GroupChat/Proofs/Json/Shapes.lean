import GroupChat.Json.Shape
import GroupChat.Proofs.Json.Canonical
import GroupChat.Proofs.Json.Values

/-!
# Reading of shapes

What a shape writes is read back, from a text that stands for it as well as from the value at hand.

## Main definitions

- `Decoder.Reads`: a value is read in either way.
- `Shape.Plain`: shapes whose values are read back and have no members to sort.

## Main statements

- `Shape.decode_of_reads`: a text that stands for the value is decoded.
- `Shape.reads_text`, …, `Shape.reads_choice`: what the shapes without members read.
- `Shape.plain_text`, …, `Shape.plain_choice`: what they write is read back.
-/

namespace GroupChat.Json

open Reader

variable {α β : Type} {n : Nat} {v : Json} {a : α} {cs : List Char}

/-- Where so many lists and objects may stand inside each other, a value is read as `a`. -/
structure Decoder.Reads (d : Decoder α) (n : Nat) (v : Json) (a : α) : Prop where
  /-- When it is at hand. -/
  ofJson : ∀ origin, d.ofJson origin v = .ok a
  /-- When it stands in a text. -/
  read : ∀ cs, Writes v cs → Accepts (d.read n) cs a

/-- What `map` makes of what is read. -/
theorem Decoder.Reads.map {d : Decoder α} (f : α → β) (h : d.Reads n v a) :
    (d.map f).Reads n v (f a) where
  ofJson origin := by
    show f <$> d.ofJson origin v = .ok (f a)
    rw [h.ofJson origin]
    rfl
  read cs hcs b rest hb hrest := (h.read cs hcs b rest hb hrest).map

/-- A text that `Writes` anything but `.null` does not begin with an n, by which the reader tells
missing values. -/
theorem head_of_writes (h : Writes v cs) (hv : v ≠ .null) :
    ∃ c rest, cs = c :: rest ∧ isSpace c = false ∧ c ≠ 'n' := by
  have hnumber : IsNumber cs → ∃ c rest, cs = c :: rest ∧ isSpace c = false ∧ c ≠ 'n' := by
    intro form
    obtain ⟨c, rest, rfl, hc⟩ := form.starts
    exact ⟨c, rest, rfl, isSpace_of_isNumber hc, (isScalar_of_isNumber hc).1⟩
  cases h with
  | null => exact absurd rfl hv
  | true | false | text | list | object => exact ⟨_, _, rfl, rfl, by decide⟩
  | int form => exact hnumber form
  | float form => exact hnumber form

namespace Shape

/-- `decode` of a text that stands for a value that the shape `Reads`. -/
theorem decode_of_reads {shape : Shape α} {text : String} (h : shape.Reads nestingLimit v a)
    (htext : IsText v text) : shape.decode text = .ok a := by
  cases htext with
  | mk before behind value =>
    exact run_of_takes (h.read _ value _ _ before behind.parted) behind

theorem ofValue_of_reads {shape : Shape α} (h : shape.Reads n v a) : shape.ofValue v = .ok a := by
  rw [ofValue, h.ofJson]
  rfl

/-! ### What is read -/

theorem reads_text (n : Nat) (s : String) : text.Reads n (.text s) s where
  ofJson _ := rfl
  read cs hcs b rest hb _ := by
    cases hcs with
    | @text s cs spells =>
      have hquoted := takes_quoted spells rest
      rw [String.ofList_toList] at hquoted
      rw [List.cons_append, List.append_assoc]
      exact (takes_peekPastSpace hb rfl).bind hquoted

theorem reads_flag (n : Nat) (x : Bool) : flag.Reads n (.bool x) x where
  ofJson _ := rfl
  read cs hcs b rest hb hrest := by
    cases hcs with
    | true =>
      -- the first letter tells which word it is
      have hscalar : Takes (scalar 't') ('t' :: (['r', 'u', 'e'] ++ rest)) (.bool true) rest := by
        rw [scalar, if_neg (by decide), if_pos rfl]
        exact (takes_skip 't' _).bind ((takes_word _ rest).bind (takes_pure _ rest))
      exact (takes_peekPastSpace hb rfl).bind (hscalar.bind (takes_ofExceptHere rfl rest))
    | false =>
      have hscalar :
          Takes (scalar 'f') ('f' :: (['a', 'l', 's', 'e'] ++ rest)) (.bool false) rest := by
        rw [scalar, if_neg (by decide), if_neg (by decide), if_pos rfl]
        exact (takes_skip 'f' _).bind ((takes_word _ rest).bind (takes_pure _ rest))
      exact (takes_peekPastSpace hb rfl).bind (hscalar.bind (takes_ofExceptHere rfl rest))

/-- `whole` reads an integer within its range. -/
theorem reads_whole {range : Range α} {x : JsonInt} (h : range.ofInt? x.val = some a) (n : Nat) :
    (whole range).Reads n (.int x) a := by
  have hrange : range.of (.int x) = .ok a := by rw [Range.of, h]
  refine ⟨fun _ => hrange, fun cs hcs b rest hb hrest => ?_⟩
  cases hcs with
  | int form read =>
    obtain ⟨c, cs, rfl, hc⟩ := form.starts
    refine (takes_peekPastSpace hb (isSpace_of_isNumber hc)).bind ?_
    dsimp only
    rw [if_pos hc]
    exact (takes_numeral form read hrest).bind (takes_ofExceptHere hrange rest)

theorem reads_any (h : Within n v) : any.Reads n v v.canonical where
  ofJson _ := rfl
  read _ hcs b rest hb hrest := (accepts_value h hcs b rest hb hrest).bind (takes_pure _ rest)

/-- `optional` reads `null` as nothing. -/
theorem reads_null (inner : Shape α) (n : Nat) : (optional inner).Reads n .null none where
  ofJson _ := rfl
  read cs hcs b rest hb _ := by
    cases hcs with
    | null =>
      refine (takes_peekPastSpace hb rfl).bind ((takes_skip 'n' _).bind ?_)
      exact (takes_word _ rest).bind (takes_pure none rest)

/-- `optional` reads anything else as its inner shape does. -/
theorem reads_some {inner : Shape α} (h : inner.Reads n v a) (hv : v ≠ .null) :
    (optional inner).Reads n v (some a) where
  ofJson origin := by
    have hinner := h.ofJson origin
    cases v with
    | null => exact absurd rfl hv
    | bool | int | float | text | list | object =>
      show some <$> inner.ofJson origin _ = _
      rw [hinner]
      rfl
  read cs hcs b rest hb hrest := by
    obtain ⟨c, cs, rfl, hspace, hc⟩ := head_of_writes hcs hv
    refine (takes_peekPastSpace hb hspace).bind ?_
    split
    · -- only the empty value begins with this letter
      exact absurd (Option.some.inj ‹_›) hc
    · exact ((h.read _ hcs).takes hrest).bind (takes_pure _ rest)

theorem mapM_eq_ok {f : Json → Except ShapeFault α} {vs : List Json} {as : List α}
    (h : List.Forall₂ (fun v a => f v = .ok a) vs as) : vs.mapM f = .ok as := by
  induction h with
  | nil => rfl
  | cons hv _ ih =>
    rw [List.mapM_cons, hv, ih]
    rfl

/-- `list` reads item by item. -/
theorem reads_list {inner : Shape α} {vs : List Json} {as : List α}
    (h : List.Forall₂ (inner.Reads n) vs as) : (list inner).Reads (n + 1) (.list vs) as where
  ofJson origin := mapM_eq_ok (h.imp fun _ _ hv => hv.ofJson origin)
  read cs hcs b rest hb _ := by
    cases hcs with
    | @list vs parts cs items separated =>
      have hall : List.Forall₂ (Accepts (inner.read n)) parts as :=
        accepts_of_writes items (h.imp fun _ _ hv => hv.read)
      have hfuel := length_lt_fuel separated (starts_of_writes items) (']' :: rest)
      have hitems := takes_items hall (starts_of_writes items) separated hfuel rest
      rw [List.cons_append, List.append_assoc]
      exact (takes_peekPastSpace hb rfl).bind (takes_listOf blank_nil ((takes_fuel _).bind hitems))

/-- `readVariant` takes the name of a variant. -/
theorem takes_readVariant {variants : List (String × α)} {name : String}
    (h : variants.lookup name = some a) (hcs : Writes (.text name) cs) {b : List Char}
    (hb : Blank b) (rest : List Char) :
    Takes (readVariant variants) (b ++ (cs ++ rest)) a rest := by
  cases hcs with
  | @text s cs spells =>
    have hquoted := takes_quoted spells rest
    rw [String.ofList_toList] at hquoted
    rw [List.cons_append, List.append_assoc]
    refine (takes_peekPastSpace hb rfl).bind (hquoted.bind (takes_ofExceptHere ?_ rest))
    rw [variantOf, h]

theorem takes_readChoice {variants : List (String × α)} {name : String}
    (h : variants.lookup name = some a) (hcs : Writes (.text name) cs) {b : List Char}
    (hb : Blank b) (n : Nat) (rest : List Char) :
    Takes (readChoice variants n) (b ++ (cs ++ rest)) a rest := by
  have hvariant := takes_readVariant h hcs blank_nil rest
  cases hcs with
  | text spells => exact (takes_peekPastSpace hb rfl).bind hvariant

theorem choiceOf_text {variants : List (String × α)} {name : String}
    (h : variants.lookup name = some a) : choiceOf variants (.text name) = .ok a := by
  rw [choiceOf, variantOf, h]

/-- `choice` reads the names of its variants. -/
theorem reads_choice {variants : List (String × α)} {nameOf : α → String}
    (h : variants.lookup (nameOf a) = some a) (n : Nat) :
    (choice variants nameOf).Reads n (.text (nameOf a)) a where
  ofJson _ := choiceOf_text h
  read _ hcs _ rest hb _ := takes_readChoice h hcs hb n rest

/-! ### What is read back -/

/-- What the `shape` writes is read back. At most `depth` lists stand inside each other in it, and
there are neither objects nor floating-point numbers. -/
structure Plain (depth : Nat) (shape : Shape α) : Prop where
  /-- It is read back. -/
  reads : ∀ n a, depth ≤ n → shape.Reads n (shape.toJson a) a
  /-- Nothing stands too deep. -/
  within : ∀ a, Within depth (shape.toJson a)
  /-- Sorting the members of objects changes nothing. -/
  canonical : ∀ a, (shape.toJson a).canonical = shape.toJson a
  /-- There are no floating-point numbers. -/
  floatFree : ∀ a, FloatFree (shape.toJson a)

variable {depth : Nat}

theorem plain_text : text.Plain depth where
  reads n s _ := reads_text n s
  within _ := within_of_isScalar trivial
  canonical _ := rfl
  floatFree := .text

theorem plain_flag : flag.Plain depth where
  reads n b _ := reads_flag n b
  within _ := within_of_isScalar trivial
  canonical _ := rfl
  floatFree := .bool

theorem plain_whole {range : Range α} (h : ∀ a, range.ofInt? (range.toInt a).val = some a) :
    (whole range).Plain depth where
  reads n a _ := reads_whole (h a) n
  within _ := within_of_isScalar trivial
  canonical _ := rfl
  floatFree _ := .int _

theorem plain_int64 : int64.Plain depth := by
  refine plain_whole fun a => ?_
  have hlower := a.le_toInt
  have hupper := a.toInt_lt
  simp only [int64Range, JsonInt.val_ofInt64]
  rw [if_pos (by omega), Int64.ofInt_toInt]

theorem plain_uint16 : uint16.Plain depth := by
  refine plain_whole fun a => ?_
  have hupper := a.toNat_lt
  simp only [uint16Range, JsonInt.val_ofUInt16]
  rw [if_pos (by omega), Int.toNat_natCast, UInt16.ofNat_toNat]

/-- `choice` is `Plain` if every variant is found by its name. -/
theorem plain_choice {variants : List (String × α)} {nameOf : α → String}
    (h : ∀ a, variants.lookup (nameOf a) = some a) : (choice variants nameOf).Plain depth where
  reads n a _ := reads_choice (h a) n
  within _ := within_of_isScalar trivial
  canonical _ := rfl
  floatFree _ := .text _

/-- `optional` is `Plain` if the inner shape never writes `null`, which is taken for nothing. -/
theorem plain_optional {inner : Shape α} (h : inner.Plain depth)
    (hnull : ∀ a, inner.toJson a ≠ .null) : (optional inner).Plain depth where
  reads n a hn := by
    cases a with
    | none => exact reads_null inner n
    | some a => exact reads_some (h.reads n a hn) (hnull a)
  within a := by
    cases a with
    | none => exact within_of_isScalar trivial
    | some a => exact h.within a
  canonical a := by
    cases a with
    | none => rfl
    | some a => exact h.canonical a
  floatFree a := by
    cases a with
    | none => exact .null
    | some a => exact h.floatFree a

/-- `list` is `Plain`, one level deeper than its items. -/
theorem plain_list {inner : Shape α} (h : inner.Plain depth) :
    (list inner).Plain (depth + 1) where
  reads n as hn := by
    obtain ⟨n, rfl⟩ : ∃ k, n = k + 1 := ⟨n - 1, by omega⟩
    -- one level is for the list itself
    refine reads_list (List.forall₂_map_left_iff.2 (List.forall₂_same.2 fun a _ => ?_))
    exact h.reads n a (Nat.le_of_succ_le_succ hn)
  within as v hv := by
    obtain ⟨a, -, rfl⟩ := List.mem_map.1 hv
    exact h.within a
  canonical as := by
    show canonical (.list (as.map inner.toJson)) = .list (as.map inner.toJson)
    rw [canonical_list, List.map_map]
    exact congrArg Json.list (List.map_congr_left fun a _ => h.canonical a)
  floatFree as := by
    refine .list fun v hv => ?_
    obtain ⟨a, -, rfl⟩ := List.mem_map.1 hv
    exact h.floatFree a

end Shape

end GroupChat.Json
