import GroupChat.Json.Tagged
import GroupChat.Proofs.Json.Records

/-!
# Reading of tagged values

The name of the variant and the content may stand in either order, among other members. Each of them
is found once, and the content is read as soon as both are known.

## Main definitions

- `Tagged.Holds`: the content of a variant is read.
- `Tagged.Awaits`: what is still to come when some members are read.

## Main statements

- `Tagged.Awaits.step`: one member of an object.
- `Tagged.reads`: the value is read.
-/

namespace GroupChat.Json

open Reader

variable {β : Type} {n : Nat} {name : String} {v : Json} {m : String × Json}
  {ms : List (String × Json)}

/-- The members of `ms` with this `name`. -/
def named (name : String) (ms : List (String × Json)) : List (String × Json) :=
  ms.filter fun m => decide (m.1 = name)

theorem named_cons_of_eq (h : m.1 = name) : named name (m :: ms) = m :: named name ms :=
  List.filter_cons_of_pos (decide_eq_true h)

theorem named_cons_of_ne (h : m.1 ≠ name) : named name (m :: ms) = named name ms :=
  List.filter_cons_of_neg (fun hm => h (of_decide_eq_true hm))

theorem named_eq_singleton (h : m.1 = name) (hone : named name (m :: ms) = [(name, v)]) :
    m = (name, v) ∧ named name ms = [] :=
  List.cons.inj ((named_cons_of_eq h).symm.trans hone)

theorem named_ne_nil (h : m.1 = name) : named name (m :: ms) ≠ [] := by
  rw [named_cons_of_eq h]
  exact List.cons_ne_nil _ _

theorem Agree.named_eq_singleton {names : List String} {ms' : List (String × Json)}
    (h : Agree names ms' ms) (hname : name ∈ names) (hone : named name ms = [m]) :
    named name ms' = [m] := by
  have hnamed : (named name ms').Perm (named name ms) :=
    h (fun name' => decide (name' = name)) fun name' hname' => of_decide_eq_true hname' ▸ hname
  exact List.perm_singleton.1 (hone ▸ hnamed)

namespace Tagged

variable {t : Tagged β} {d : Decoder β} {b : β} {found : Found β}

/-- The content `v` of the variant `name` is read as `b`, wherever it stands. -/
structure Holds (t : Tagged β) (n : Nat) (name : String) (d : Decoder β) (v : Json) (b : β) :
    Prop where
  /-- The two members have different names. -/
  distinct : t.content ≠ t.tag
  /-- The variant has the name. -/
  variant : t.variants.lookup name = some d
  /-- It reads the content. -/
  reads : d.Reads n v b
  /-- The content can be put aside. -/
  within : Within n v

/-- What is still to come in the members `ms` ahead, for each thing that can be `Found` before. -/
inductive Awaits (t : Tagged β) (name : String) (d : Decoder β) (v : Json) (b : β)
    (ms : List (String × Json)) : Found β → Prop where
  /-- Both members. -/
  | nothing (tag : named t.tag ms = [(t.tag, .text name)])
      (content : named t.content ms = [(t.content, v)]) : Awaits t name d v b ms .nothing
  /-- The content. -/
  | variant (tag : named t.tag ms = []) (content : named t.content ms = [(t.content, v)]) :
      Awaits t name d v b ms (.variant d)
  /-- The name of the variant. -/
  | content (tag : named t.tag ms = [(t.tag, .text name)]) (content : named t.content ms = []) :
      Awaits t name d v b ms (.content v)
  /-- Neither. -/
  | both (tag : named t.tag ms = []) (content : named t.content ms = []) :
      Awaits t name d v b ms (.both b)

/-- The member `m` takes `found` to `found'`, at hand as well as in a text. -/
structure Steps (t : Tagged β) (n : Nat) (found : Found β) (m : String × Json)
    (found' : Found β) : Prop where
  /-- It is put to what was found. -/
  put : ∀ origin, t.putMember origin found m = .ok found'
  /-- It is read. -/
  read : StepsTo (t.readMember n) found m found'

/-- `Steps` when the tag comes first: the variant is known when the content is read. -/
theorem steps_tag_first (ht : t.Holds n name d v b) :
    t.Steps n .nothing (t.tag, .text name) (.variant d) where
  put origin := by
    rw [putMember, if_pos rfl, Shape.choiceOf_text ht.variant]
    rfl
  read := by
    refine stepsTo_of_accepts (by rw [readMember, if_pos rfl]) fun cs hcs b rest hb _ => ?_
    exact (Shape.takes_readChoice ht.variant hcs hb n rest).bind (takes_pure _ rest)

/-- `Steps` when the tag comes behind the content, which was kept as a value until then. -/
theorem steps_tag_second (ht : t.Holds n name d v b) :
    t.Steps n (.content v) (t.tag, .text name) (.both b) where
  put origin := by
    rw [putMember, if_pos rfl, Shape.choiceOf_text ht.variant]
    show Found.both <$> d.ofJson origin v = _
    rw [ht.reads.ofJson origin]
    rfl
  read := by
    refine stepsTo_of_accepts (by rw [readMember, if_pos rfl]) fun cs hcs b rest hb _ => ?_
    refine (Shape.takes_readChoice ht.variant hcs hb n rest).bind ?_
    exact (takes_ofExcept (ht.reads.ofJson .buffered) rest).bind (takes_pure _ rest)

/-- `Steps` when the content comes first: it is kept as a value. -/
theorem steps_content_first (ht : t.Holds n name d v b) :
    t.Steps n .nothing (t.content, v) (.content v) where
  put origin := by rw [putMember, if_neg ht.distinct, if_pos rfl]
  read := by
    refine stepsTo_of_accepts (by rw [readMember, if_neg ht.distinct, if_pos rfl])
      fun cs hcs b rest hb hrest => ?_
    exact (accepts_value ht.within hcs b rest hb hrest).bind (takes_pure _ rest)

/-- `Steps` when the content comes behind the tag: it is read as the variant says. -/
theorem steps_content_second (ht : t.Holds n name d v b) :
    t.Steps n (.variant d) (t.content, v) (.both b) where
  put origin := by
    rw [putMember, if_neg ht.distinct, if_pos rfl, ht.reads.ofJson origin]
    rfl
  read := by
    refine stepsTo_of_accepts (by rw [readMember, if_neg ht.distinct, if_pos rfl])
      fun cs hcs b rest hb hrest => ?_
    exact (ht.reads.read cs hcs b rest hb hrest).bind (takes_pure _ rest)

/-- `Steps` for any other member: nothing changes. -/
theorem steps_other (htag : m.1 ≠ t.tag) (hcontent : m.1 ≠ t.content) (n : Nat)
    (found : Found β) : t.Steps n found m found where
  put origin := by
    unfold putMember
    rw [if_neg htag, if_neg hcontent]
  read := by
    refine stepsTo_of_accepts (by unfold readMember; rw [if_neg htag, if_neg hcontent])
      fun cs hcs b rest hb hrest => ?_
    exact (accepts_skipValue hcs b rest hb hrest).bind (takes_pure _ rest)

/-- One member that is awaited `Steps`, be it the tag, the content or another one. -/
theorem Awaits.step (ht : t.Holds n name d v b) (h : t.Awaits name d v b (m :: ms) found) :
    ∃ found', t.Steps n found m found' ∧ t.Awaits name d v b ms found' := by
  -- the tag comes first or second, and so does the content, and all else is passed over
  by_cases htag : m.1 = t.tag
  · have hother : m.1 ≠ t.content := fun h => ht.distinct (h.symm.trans htag)
    cases h with
    | nothing tag content =>
      obtain ⟨rfl, hnone⟩ := named_eq_singleton htag tag
      exact ⟨_, steps_tag_first ht, .variant hnone (named_cons_of_ne hother ▸ content)⟩
    | content tag content =>
      obtain ⟨rfl, hnone⟩ := named_eq_singleton htag tag
      exact ⟨_, steps_tag_second ht, .both hnone (named_cons_of_ne hother ▸ content)⟩
    | variant tag | both tag => exact absurd tag (named_ne_nil htag)
  · by_cases hcontent : m.1 = t.content
    · cases h with
      | nothing tag content =>
        obtain ⟨rfl, hnone⟩ := named_eq_singleton hcontent content
        exact ⟨_, steps_content_first ht, .content (named_cons_of_ne htag ▸ tag) hnone⟩
      | variant tag content =>
        obtain ⟨rfl, hnone⟩ := named_eq_singleton hcontent content
        exact ⟨_, steps_content_second ht, .both (named_cons_of_ne htag ▸ tag) hnone⟩
      | content _ content | both _ content => exact absurd content (named_ne_nil hcontent)
    · refine ⟨found, steps_other htag hcontent n found, ?_⟩
      have htags : named t.tag (m :: ms) = named t.tag ms := named_cons_of_ne htag
      have hcontents : named t.content (m :: ms) = named t.content ms := named_cons_of_ne hcontent
      cases h with
      | nothing tag content => exact .nothing (htags ▸ tag) (hcontents ▸ content)
      | variant tag content => exact .variant (htags ▸ tag) (hcontents ▸ content)
      | content tag content => exact .content (htags ▸ tag) (hcontents ▸ content)
      | both tag content => exact .both (htags ▸ tag) (hcontents ▸ content)

/-- `readMember` over all members arrives at `.both`; by induction on the members. -/
theorem Awaits.folds (ht : t.Holds n name d v b) (h : t.Awaits name d v b ms found) :
    Folds (t.readMember n) found ms (.both b) ∧
      ∀ origin, ms.foldlM (t.putMember origin) found = .ok (.both b) := by
  induction ms generalizing found with
  | nil =>
    cases h with
    -- no members are left, so nothing can be missing
    | nothing tag | content tag => cases tag
    | variant tag content => cases content
    | both => exact ⟨.nil _, fun _ => rfl⟩
  | cons m ms ih =>
    obtain ⟨found', hstep, hnext⟩ := h.step ht
    obtain ⟨hfolds, hput⟩ := ih hnext
    refine ⟨.cons hstep.read hfolds, fun origin => ?_⟩
    rw [List.foldlM_cons, hstep.put origin]
    exact hput origin

/-- `Tagged.shape` reads an object with one tag and one content, in either order and with other
members between. -/
theorem reads (ht : t.Holds n name d v b) (htag : named t.tag ms = [(t.tag, .text name)])
    (hcontent : named t.content ms = [(t.content, v)]) : t.shape.Reads (n + 1) (.object ms) b := by
  obtain ⟨hfolds, hput⟩ := Awaits.folds ht (.nothing htag hcontent)
  refine ⟨fun origin => ?_, fun cs hcs b rest hb _ => ?_⟩
  · show (ms.foldlM (t.putMember origin) .nothing >>= t.finish) = _
    rw [hput origin]
    rfl
  · obtain ⟨tail, rfl, htakes⟩ := takes_object t.readMember t.finish hfolds rfl hcs
    exact (takes_peekPastSpace hb rfl).bind (htakes rest)

end Tagged

end GroupChat.Json
