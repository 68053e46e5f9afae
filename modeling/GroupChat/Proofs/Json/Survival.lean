import GroupChat.Proofs.Json.Flat
import GroupChat.Proofs.Json.Tagged

/-!
# What survives writing

What is written is read back. This holds of any value that a reader may meet in the place of the one
written: members in any order, other members among them, and in each member a value that may be met
in the place of its own.

## Main definitions

- `Loosened`: an object with its members in any order among others.
- `Shape.Survives`: what a shape writes is read back, in any form that may be met.

## Main statements

- `Shape.Survives.decode_encode`, `Shape.Survives.decode_text`: a text of any such form is decoded.
- `Record.survives`, `Flat.survives`, `Tagged.survives`: shapes survive if their parts do.
-/

namespace GroupChat.Json

variable {α β γ δ : Type} {ts : List Type} {n depth : Nat} {v w : Json}
  {ms : List (String × Json)} {names : List String} {inner : String → Json → Json → Prop}
  {loose : Json → Json → Prop}

/-! ### Objects in other forms -/

/-- The member `k` in the place of `m`: with the same name, and a value that may be in the place of
the other, as `inner` says. -/
structure Kept (inner : String → Json → Json → Prop) (m k : String × Json) : Prop where
  /-- The names are the same. -/
  name : k.1 = m.1
  /-- The values are in each other's place. -/
  value : inner m.1 m.2 k.2

/-- An object with its members in any order (`Kept`) among others, which are neither lists nor
objects and have none of the `names`. -/
inductive Loosened (names : List String) (inner : String → Json → Json → Prop) :
    Json → Json → Prop where
  /-- From its parts. -/
  | mk {ms kept added all : List (String × Json)} (members : List.Forall₂ (Kept inner) ms kept)
      (others : ∀ m ∈ added, m.1 ∉ names ∧ IsScalar m.2) (order : all.Perm (kept ++ added)) :
      Loosened names inner (.object ms) (.object all)

/-- Added members of other names make no difference (`Agree`), in whichever order all of them come.
-/
theorem agree_of_order {kept added all : List (String × Json)}
    (hothers : ∀ m ∈ added, m.1 ∉ names ∧ IsScalar m.2) (order : all.Perm (kept ++ added)) :
    Agree names all kept :=
  (agree_of_perm names order).trans (agree_append_right kept fun m hm => (hothers m hm).1)

/-- All members are `Within` the depth if those that are kept are, as the added ones are scalars. -/
theorem within_of_order {kept added all : List (String × Json)}
    (hkept : ∀ m ∈ kept, Within n m.2) (hothers : ∀ m ∈ added, m.1 ∉ names ∧ IsScalar m.2)
    (order : all.Perm (kept ++ added)) : ∀ m ∈ all, Within n m.2 := by
  intro m hm
  obtain hm | hm := List.mem_append.1 (order.mem_iff.1 hm)
  · exact hkept m hm
  · exact within_of_isScalar (hothers m hm).2

/-! ### Shapes -/

namespace Shape

/-- What a shape writes for `a` is read back, also from the values that `loose` allows in its
place. -/
structure Survives (shape : Shape α) (loose : Json → Json → Prop) (n : Nat) (a : α) : Prop where
  /-- The value written is allowed. -/
  refl : loose (shape.toJson a) (shape.toJson a)
  /-- Each value allowed is read back. -/
  reads : ∀ w, loose (shape.toJson a) w → shape.Reads n w a
  /-- Nothing stands too deep in it. -/
  within : ∀ w, loose (shape.toJson a) w → Within n w
  /-- There are no floating-point numbers in the value written. -/
  floatFree : FloatFree (shape.toJson a)

/-- A `Plain` shape survives if nothing is changed. -/
theorem Plain.survives {shape : Shape α} (h : shape.Plain depth) (hn : depth ≤ n) (a : α) :
    shape.Survives Eq n a where
  refl := rfl
  reads _ hw := hw ▸ h.reads n a hn
  within _ hw := hw ▸ (h.within a).mono hn
  floatFree := h.floatFree a

/-- `decode` of any text of a value that `loose` allows. -/
theorem Survives.decode_text {shape : Shape α} {a : α} {text : String}
    (h : shape.Survives loose nestingLimit a) (hw : loose (shape.toJson a) w)
    (htext : IsText w text) : shape.decode text = .ok a :=
  decode_of_reads (h.reads w hw) htext

/-- `decode` undoes `encode` for a value that `Survives`. -/
theorem Survives.decode_encode {shape : Shape α} {a : α}
    (h : shape.Survives loose nestingLimit a) : shape.decode (shape.encode a) = .ok a :=
  h.decode_text h.refl (isText_render h.floatFree)

/-- A value of any shape `Survives` in any order of its members. -/
theorem survives_optional_any (h : Sound n v) (hv : FloatFree v) :
    (optional any).Survives Reordered n (some v) where
  refl := .refl v
  reads w hw := by
    have hreads : any.Reads n w w.canonical := reads_any (hw.within h.within)
    rw [hw.canonical h.canonical] at hreads
    exact reads_some hreads (hw.ne_null h.ne_null)
  within _ hw := hw.within h.within
  floatFree := hv

end Shape

/-! ### Records -/

/-- The value `a` of the field `f` is read back from whatever is `inner` of it, or it is not written
and the `fallback`. -/
inductive Member.Survives (f : Member α) (inner : String → Json → Json → Prop) (n : Nat) (a : α) :
    Prop where
  /-- It is written. -/
  | shown (shown : f.shown a = true) (survives : f.shape.Survives (inner f.name) n a) :
      Survives f inner n a
  /-- It is not written. -/
  | hidden (hidden : f.shown a = false) (fallback : f.fallback = some a) : Survives f inner n a

namespace Members

/-- The values of all fields survive (`Member.Survives`). -/
def Survive (inner : String → Json → Json → Prop) (n : Nat) :
    {ts : List Type} → Members ts → Row ts → Prop
  | [], .nil, _ => True
  | _ :: _, .cons f rest, (a, row) => f.Survives inner n a ∧ rest.Survive inner n row

variable {fields : Members ts} {row : Row ts} {kept : List (String × Json)}

theorem members_cons (f : Member α) (rest : Members ts) (a : α) (row : Row ts) :
    (Members.cons f rest).members (a, row) =
      if f.shown a then (f.name, f.shape.toJson a) :: rest.members row else rest.members row :=
  rfl

/-- Members that `Survive` are `Kept` where nothing is changed. -/
theorem Survive.refl (h : fields.Survive inner n row) :
    List.Forall₂ (Kept inner) (fields.members row) (fields.members row) := by
  induction fields with
  | nil => exact .nil
  | cons f rest ih =>
    obtain ⟨a, row⟩ := row
    rw [members_cons]
    cases h.1 with
    | shown shown survives =>
      rw [if_pos shown]
      exact .cons ⟨rfl, survives.refl⟩ (ih h.2)
    | hidden hidden =>
      rw [if_neg (Bool.not_eq_true _ ▸ hidden)]
      exact ih h.2

/-- Members that `Survive` are `FloatFree`. -/
theorem Survive.floatFree (h : fields.Survive inner n row) :
    ∀ m ∈ fields.members row, FloatFree m.2 := by
  induction fields with
  | nil => exact nofun
  | cons f rest ih =>
    obtain ⟨a, row⟩ := row
    rw [members_cons]
    cases h.1 with
    | shown shown survives =>
      rw [if_pos shown]
      exact List.forall_mem_cons.2 ⟨survives.floatFree, ih h.2⟩
    | hidden hidden =>
      rw [if_neg (Bool.not_eq_true _ ▸ hidden)]
      exact ih h.2

/-- Members that are `Kept` are `Within` the depth, whatever they were changed into. -/
theorem Survive.within (h : fields.Survive inner n row)
    (hkept : List.Forall₂ (Kept inner) (fields.members row) kept) :
    ∀ k ∈ kept, Within n k.2 := by
  induction fields generalizing kept with
  | nil =>
    cases hkept
    exact nofun
  | cons f rest ih =>
    obtain ⟨a, row⟩ := row
    rw [members_cons] at hkept
    cases h.1 with
    | shown shown survives =>
      rw [if_pos shown] at hkept
      cases hkept with
      | cons hk hkept =>
        exact List.forall_mem_cons.2 ⟨survives.within _ hk.value, ih h.2 hkept⟩
    | hidden hidden =>
      rw [if_neg (Bool.not_eq_true _ ▸ hidden)] at hkept
      exact ih h.2 hkept

/-- What is `Kept` of members has their names. -/
theorem mem_names_of_kept (hkept : List.Forall₂ (Kept inner) (fields.members row) kept) :
    ∀ k ∈ kept, k.1 ∈ fields.names := by
  induction fields generalizing kept with
  | nil =>
    cases hkept
    exact nofun
  | cons f rest ih =>
    obtain ⟨a, row⟩ := row
    rw [members_cons] at hkept
    have hrest : ∀ kept, List.Forall₂ (Kept inner) (rest.members row) kept →
        ∀ k ∈ kept, k.1 ∈ (Members.cons f rest).names :=
      fun kept hkept k hk => List.mem_append_right _ (ih hkept k hk)
    -- a field that is hidden writes no member
    split_ifs at hkept
    · cases hkept with
      | cons hk hkept =>
        refine List.forall_mem_cons.2 ⟨List.mem_append_left _ ?_, hrest _ hkept⟩
        rw [hk.name]
        exact List.mem_cons_self
    · exact hrest _ hkept

/-- The fields `Gather` their values from what is `Kept` of the members. -/
theorem Survive.gather {P : Standing} (hnames : fields.names.Nodup)
    (h : fields.Survive inner n row)
    (hkept : List.Forall₂ (Kept inner) (fields.members row) kept)
    (hP : ∀ {α : Type} {f : Member α} {a : α} {w : Json}, f.shape.Survives (inner f.name) n a →
      inner f.name (f.shape.toJson a) w → P α f.shape w a) :
    fields.Gather P kept row := by
  induction fields generalizing kept with
  | nil => exact trivial
  | cons f rest ih =>
    obtain ⟨a, row⟩ := row
    obtain ⟨-, hnodup, hdisjoint⟩ := List.nodup_append.1 hnames
    -- what is kept for the fields behind is not for this one
    have hrest : ∀ kept, List.Forall₂ (Kept inner) (rest.members row) kept →
        ∀ k ∈ kept, k.1 ∉ f.names :=
      fun kept hkept k hk hf => hdisjoint _ hf _ (mem_names_of_kept hkept k hk) rfl
    rw [members_cons] at hkept
    cases h.1 with
    | shown shown survives =>
      rw [if_pos shown] at hkept
      cases hkept with
      | @cons _ k _ kept hk hkept =>
        have hf : k.1 ∈ f.names := by
          rw [hk.name]
          exact List.mem_cons_self
        have hothers : f.among kept = [] :=
          filter_eq_nil_of_not_mem (fun _ => Member.answersTo_iff.1) (hrest kept hkept)
        have hone : f.among (k :: kept) = [(k.1, k.2)] := by
          rw [Member.among_cons_of_mem hf, hothers]
        refine ⟨.given hone (hP survives hk.value), ?_⟩
        refine (ih hnodup h.2 hkept).congr (agree_cons ?_ kept)
        exact fun hk' => hdisjoint _ hf _ hk' rfl
    | hidden hidden fallback =>
      rw [if_neg (Bool.not_eq_true _ ▸ hidden)] at hkept
      refine ⟨.missing ?_ fallback, ih hnodup h.2 hkept⟩
      exact filter_eq_nil_of_not_mem (fun _ => Member.answersTo_iff.1) (hrest kept hkept)

end Members

theorem Loosened.refl (h : List.Forall₂ (Kept inner) ms ms) :
    Loosened names inner (.object ms) (.object ms) := by
  have horder : ms.Perm (ms ++ []) := by rw [List.append_nil]
  exact .mk h (fun _ hm => absurd hm List.not_mem_nil) horder

/-- A record `Survives` if its fields `Survive`, whatever the order and with further members of
other names. -/
theorem Record.survives {r : Record β} {b : β} (hnames : r.fields.names.Nodup)
    (hbuild : r.build (r.parts b) = b) (h : r.fields.Survive inner n (r.parts b)) :
    r.shape.Survives (Loosened r.fields.names inner) (n + 1) b where
  refl := .refl h.refl
  reads w hw := by
    cases hw with
    | mk members others order =>
      have hkept : r.fields.Gather (reading n) _ (r.parts b) :=
        h.gather hnames members fun hf hw => hf.reads _ hw
      have hreads := Record.reads_object hnames (hkept.congr (agree_of_order others order))
      rwa [hbuild] at hreads
  within w hw := by
    cases hw with
    | mk members others order => exact within_of_order (h.within members) others order
  floatFree := .object h.floatFree

/-- All fields are written, and by shapes that are `Shape.Plain`. -/
def Members.Plain (depth : Nat) : {ts : List Type} → Members ts → Prop
  | [], .nil => True
  | _ :: _, .cons f rest => (f.shape.Plain depth ∧ ∀ a, f.shown a = true) ∧ rest.Plain depth

theorem Members.Plain.survive {fields : Members ts} (h : fields.Plain depth) (hn : depth ≤ n)
    (row : Row ts) : fields.Survive (fun _ => Eq) n row := by
  induction fields with
  | nil => exact trivial
  | cons f rest ih =>
    obtain ⟨⟨hplain, hshown⟩, hrest⟩ := h
    exact ⟨.shown (hshown row.1) (hplain.survives hn row.1), ih hrest row.2⟩

/-- A record whose fields are written in full and read back (`Members.Plain`). -/
structure Record.Plain (depth : Nat) (r : Record β) : Prop where
  /-- Its fields are plain. -/
  fields : r.fields.Plain depth
  /-- No two fields have the same name. -/
  names : r.fields.names.Nodup
  /-- A value is made of its parts. -/
  build : ∀ b, r.build (r.parts b) = b

/-- A `Plain` record survives other members among its own, and another order. -/
theorem Record.Plain.survives {r : Record β} (h : r.Plain depth) (hn : depth ≤ n) (b : β) :
    r.shape.Survives (Loosened r.fields.names fun _ => Eq) (n + 1) b :=
  Record.survives h.names (h.build b) (h.fields.survive hn (r.parts b))

/-! ### Records with a member among another's -/

theorem forall₂_append_left {R : α → β → Prop} {as as' : List α} {bs : List β}
    (h : List.Forall₂ R (as ++ as') bs) :
    ∃ front back, bs = front ++ back ∧ List.Forall₂ R as front ∧ List.Forall₂ R as' back := by
  induction as generalizing bs with
  | nil => exact ⟨[], bs, rfl, .nil, h⟩
  | cons a as ih =>
    cases h with
    | @cons _ b _ bs hab h =>
      obtain ⟨front, back, rfl, hfront, hback⟩ := ih h
      exact ⟨b :: front, back, rfl, .cons hab hfront, hback⟩

namespace Flat

variable {f : Flat β γ δ} {d : δ} {kept all : List (String × Json)}

/-- What is `Kept` of the members of a `Flat` value: those of the record, and the extra member at
the end. -/
theorem exists_of_kept (hkept : List.Forall₂ (Kept inner) (f.members d) kept) :
    ∃ front k, kept = front ++ [k] ∧
      List.Forall₂ (Kept inner) (f.inner.fields.members (f.inner.parts (f.parts d).1)) front ∧
      Kept inner (f.own.name, f.own.shape.toJson (f.parts d).2) k := by
  obtain ⟨front, back, rfl, hfront, hback⟩ := forall₂_append_left hkept
  cases hback with
  | cons hk hnil =>
    cases hnil
    exact ⟨front, _, rfl, hfront, hk⟩

theorem within_of_kept (h : f.inner.fields.Survive inner n (f.inner.parts (f.parts d).1))
    (hown : f.own.shape.Survives (inner f.own.name) n (f.parts d).2)
    (hkept : List.Forall₂ (Kept inner) (f.members d) kept) : ∀ k ∈ kept, Within n k.2 := by
  obtain ⟨front, k, rfl, hfront, hk⟩ := exists_of_kept hkept
  intro m hm
  obtain hm | hm := List.mem_append.1 hm
  · exact h.within hfront m hm
  · cases List.mem_singleton.1 hm
    exact hown.within _ hk.value

/-- The record and the extra member of a `Flat` value find their values in what is `Kept`. -/
theorem gather_of_kept (hf : f.Proper)
    (h : f.inner.fields.Survive inner n (f.inner.parts (f.parts d).1))
    (hown : f.own.shape.Survives (inner f.own.name) n (f.parts d).2)
    (hkept : List.Forall₂ (Kept inner) (f.members d) kept)
    (hagree : Agree (f.own.name :: f.inner.fields.names) all kept) :
    f.inner.fields.Gather (reading n) all (f.inner.parts (f.parts d).1) ∧
      f.own.Gets (reading n) all (f.parts d).2 := by
  obtain ⟨hnot, hnames⟩ := List.nodup_cons.1 hf.names
  obtain ⟨front, k, rfl, hfront, hk⟩ := exists_of_kept hkept
  constructor
  · -- the record does not see the extra member
    refine (h.gather hnames hfront fun hf hw => hf.reads _ hw).congr ?_
    refine (hagree.mono (List.subset_cons_self _ _)).trans ?_
    exact agree_append_right front (List.forall_mem_singleton.2 (hk.name ▸ hnot))
  · -- the extra member is the only one of its name
    have hone : f.own.among [k] = [(k.1, k.2)] :=
      Member.among_cons_of_mem (hf.mem_names.2 hk.name)
    have hfound : f.own.Gets (reading n) [k] (f.parts d).2 :=
      .given hone (hown.reads k.2 hk.value)
    refine hfound.congr ((hagree.mono ?_).trans ?_)
    · exact fun name hname => hf.mem_names.1 hname ▸ List.mem_cons_self
    · refine agree_append_left [k] fun m hm hname => hnot ?_
      exact hf.mem_names.1 hname ▸ Members.mem_names_of_kept hfront m hm

/-- A `Flat` value `Survives` if the fields of the record and the extra member do. -/
theorem survives (hf : f.Proper)
    (hbuild : f.build (f.inner.build (f.inner.parts (f.parts d).1)) (f.parts d).2 = d)
    (h : f.inner.fields.Survive inner n (f.inner.parts (f.parts d).1))
    (hown : f.own.shape.Survives (inner f.own.name) n (f.parts d).2) :
    f.shape.Survives (Loosened (f.own.name :: f.inner.fields.names) inner) (n + 1) d where
  refl := .refl (List.rel_append h.refl (.cons ⟨rfl, hown.refl⟩ .nil))
  reads w hw := by
    cases hw with
    | mk members others order =>
      -- what was kept and added is gathered back, and the parts make the value
      have hall := within_of_order (within_of_kept h hown members) others order
      obtain ⟨hgather, hgets⟩ := gather_of_kept hf h hown members (agree_of_order others order)
      have hreads := Flat.reads hf hgets hgather hall
      rwa [hbuild] at hreads
  within w hw := by
    cases hw with
    | mk members others order =>
      exact within_of_order (within_of_kept h hown members) others order
  floatFree := by
    refine .object fun m hm => ?_
    obtain hm | hm := List.mem_append.1 hm
    · exact h.floatFree m hm
    · cases List.mem_singleton.1 hm
      exact hown.floatFree

end Flat

/-! ### Tagged values -/

namespace Tagged

variable {t : Tagged β} {shape : Shape α} {f : α → β} {a : α} {name : String}

theorem toJson_eq (hwrite : t.write (f a) = (name, shape.toJson a)) :
    t.shape.toJson (f a) = .object [(t.tag, .text name), (t.content, shape.toJson a)] := by
  show Json.object [(t.tag, .text (t.write (f a)).1), (t.content, (t.write (f a)).2)] = _
  rw [hwrite]

/-- What is `Kept` of a tagged value: the tag as it is, and something for the content. -/
theorem exists_of_kept {kept : List (String × Json)} (hdistinct : t.content ≠ t.tag)
    (hkept : List.Forall₂ (Kept fun name => if name = t.content then loose else Eq)
      [(t.tag, .text name), (t.content, v)] kept) :
    ∃ w, kept = [(t.tag, .text name), (t.content, w)] ∧ loose v w := by
  cases hkept with
  | @cons _ k _ _ htag hkept =>
    cases hkept with
    | @cons _ k' _ _ hcontent hnil =>
      cases hnil
      obtain ⟨name', v'⟩ := k
      obtain ⟨name'', w⟩ := k'
      obtain ⟨rfl, hname⟩ := htag
      obtain ⟨rfl, hvalue⟩ := hcontent
      -- the tag is kept by equality, and only the content may be loosened
      rw [if_neg hdistinct.symm] at hname
      rw [if_pos rfl] at hvalue
      subst hname
      exact ⟨w, rfl, hvalue⟩

/-- A tagged value `Survives` if its content does, be the tag in front or behind. -/
theorem survives (hdistinct : t.content ≠ t.tag)
    (hwrite : t.write (f a) = (name, shape.toJson a))
    (hvariant : t.variants.lookup name = some (shape.map f)) (h : shape.Survives loose n a) :
    t.shape.Survives
      (Loosened [t.tag, t.content] fun name => if name = t.content then loose else Eq) (n + 1)
      (f a) := by
  have hjson := toJson_eq hwrite
  constructor
  case refl =>
    rw [hjson]
    refine .refl (.cons ⟨rfl, ?_⟩ (.cons ⟨rfl, ?_⟩ .nil))
    · rw [if_neg hdistinct.symm]
    · rw [if_pos rfl]
      exact h.refl
  case reads =>
    intro w hw
    rw [hjson] at hw
    cases hw with
    | mk members others order =>
      obtain ⟨v, rfl, hv⟩ := exists_of_kept hdistinct members
      have hagree := agree_of_order others order
      -- tag and content are still the only members of their names
      refine Tagged.reads ⟨hdistinct, hvariant, (h.reads v hv).map f, h.within v hv⟩ ?_ ?_
      · refine hagree.named_eq_singleton List.mem_cons_self ?_
        exact (named_cons_of_eq rfl).trans (congrArg (List.cons _) (named_cons_of_ne hdistinct))
      · refine hagree.named_eq_singleton (List.mem_cons_of_mem _ List.mem_cons_self) ?_
        exact (named_cons_of_ne hdistinct.symm).trans (named_cons_of_eq rfl)
  case within =>
    intro w hw
    rw [hjson] at hw
    cases hw with
    | mk members others order =>
      obtain ⟨v, rfl, hv⟩ := exists_of_kept hdistinct members
      have hname : Within n (.text name) := within_of_isScalar trivial
      refine within_of_order (List.forall_mem_cons.2 ⟨hname, ?_⟩) others order
      exact List.forall_mem_singleton.2 (h.within v hv)
  case floatFree =>
    rw [hjson]
    refine .object (List.forall_mem_cons.2 ⟨.text name, ?_⟩)
    exact List.forall_mem_singleton.2 h.floatFree

end Tagged

end GroupChat.Json
