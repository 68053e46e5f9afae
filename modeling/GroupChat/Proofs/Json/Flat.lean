import GroupChat.Json.Flat
import GroupChat.Proofs.Json.Records

/-!
# Reading of records with a member among another's

The extra member may stand anywhere among the members of the record and others. All but the extra
member are put aside in the order in which they stand, so the record finds the same in them as in
all members.

## Main definitions

- `Flat.Proper`: the extra member has one name only, which no field of the record has.

## Main statements

- `Flat.folds_readMember`: what is found in the members of an object.
- `Flat.reads`: the value is read.
-/

namespace GroupChat.Json

open Reader

variable {β γ δ : Type} {n : Nat} {ms : List (String × Json)}

namespace Flat

variable {f : Flat β γ δ} {c : γ} {slot : Option γ}

/-- The extra member `f.own` has one name, which no other member has, and must be there. -/
structure Proper (f : Flat β γ δ) : Prop where
  /-- It has no other name. -/
  aliases : f.own.aliases = []
  /-- It must be there. -/
  fallback : f.own.fallback = none
  /-- No two members have the same name. -/
  names : (f.own.name :: f.inner.fields.names).Nodup

/-- The members of `ms` that are put aside: all but `f.own`. -/
def others (f : Flat β γ δ) (ms : List (String × Json)) : List (String × Json) :=
  ms.filter fun m => decide (m.1 ≠ f.own.name)

/-- The fields of the record find the same in `others`, the members that are put aside, as in all of
them. -/
theorem agree_others (h : f.own.name ∉ f.inner.fields.names) (ms : List (String × Json)) :
    Agree f.inner.fields.names (f.others ms) ms := by
  intro p hp
  rw [others, List.filter_filter]
  refine List.Perm.of_eq (List.filter_congr fun m _ => ?_)
  cases hm : p m.1 with
  | false => rfl
  | true =>
    have hne : m.1 ≠ f.own.name := fun heq => h (heq ▸ hp _ hm)
    exact decide_eq_true hne

theorem Proper.mem_names (hf : f.Proper) {name : String} :
    name ∈ f.own.names ↔ name = f.own.name := by
  rw [Member.names, hf.aliases, List.mem_singleton]

/-- `readMember` over all members: the extra member is read into its slot, and all others are put
aside, in the text as in the value. -/
theorem folds_readMember (hf : f.Proper) (h : f.own.Awaits n ms slot c)
    (hms : ∀ m ∈ ms, Within n m.2) (acc : List (String × Json)) :
    Folds (f.readMember n) (slot, acc) ms (some c, acc ++ f.others ms) ∧
      ∀ origin, ms.foldlM (f.putMember origin) (slot, acc) = .ok (some c, acc ++ f.others ms) := by
  induction ms generalizing slot acc with
  | nil =>
    have hslot : slot = some c := by
      cases h with
      | empty gets =>
        cases gets with
        | given one => cases one
        | missing none fallback => cases hf.fallback.symm.trans fallback
      | filled => rfl
    rw [hslot, others, List.filter_nil, List.append_nil]
    exact ⟨.nil _, fun _ => rfl⟩
  | cons m ms ih =>
    obtain ⟨hm, hrest⟩ := List.forall_mem_cons.1 hms
    by_cases hname : m.1 = f.own.name
    · obtain ⟨rfl, hreads, hfilled⟩ := h.take (hf.mem_names.2 hname)
      obtain ⟨hfolds, hput⟩ := ih hfilled hrest acc
      have hothers : f.others (m :: ms) = f.others ms :=
        List.filter_cons_of_neg (fun hne => of_decide_eq_true hne hname)
      have hstep : StepsTo (f.readMember n) (none, acc) m (some c, acc) := by
        refine stepsTo_of_accepts (by rw [readMember, if_pos hname]; rfl) fun cs hcs => ?_
        intro b rest hb hrest
        exact (hreads.read cs hcs b rest hb hrest).bind (takes_pure _ rest)
      rw [hothers]
      refine ⟨.cons hstep hfolds, fun origin => ?_⟩
      rw [List.foldlM_cons, putMember, if_pos hname, hreads.ofJson origin]
      exact hput origin
    · -- whatever is not the extra member is put aside for the record, even if it is not for that
      have hpass : f.own.Awaits n ms slot c := h.pass fun hm => hname (hf.mem_names.1 hm)
      obtain ⟨hfolds, hput⟩ := ih hpass hrest (acc ++ [m])
      have hothers : f.others (m :: ms) = m :: f.others ms :=
        List.filter_cons_of_pos (decide_eq_true hname)
      have hstep : StepsTo (f.readMember n) (slot, acc) m (slot, acc ++ [m]) := by
        refine stepsTo_of_accepts (by rw [readMember, if_neg hname]) fun cs hcs => ?_
        intro b rest hb hrest
        exact (accepts_value hm hcs b rest hb hrest).bind (takes_pure _ rest)
      rw [List.append_assoc] at hfolds
      rw [hothers]
      refine ⟨.cons hstep hfolds, fun origin => ?_⟩
      rw [List.foldlM_cons, putMember, if_neg hname]
      have hall := hput origin
      rw [List.append_assoc] at hall
      exact hall

/-- `Flat.shape` reads an object in whose members the record and the extra member find their values.
-/
theorem reads {row : Row f.inner.types} (hf : f.Proper) (hown : f.own.Gets (reading n) ms c)
    (h : f.inner.fields.Gather (reading n) ms row) (hms : ∀ m ∈ ms, Within n m.2) :
    f.shape.Reads (n + 1) (.object ms) (f.build (f.inner.build row) c) := by
  obtain ⟨hnot, hnames⟩ := List.nodup_cons.1 hf.names
  obtain ⟨hfolds, hput⟩ := folds_readMember hf (.empty hown) hms []
  have hothers : f.inner.fields.Gather (reading n) (f.others ms) row :=
    h.congr (agree_others hnot ms)
  -- what was put aside is read as a record in the end, whatever stood between
  have hfinish : f.finish (some c, [] ++ f.others ms) = .ok (f.build (f.inner.build row) c) := by
    show (f.inner.ofMembers .buffered (f.others ms) >>= _) = _
    rw [Record.ofMembers_of_gather hnames hothers]
    rfl
  refine ⟨fun origin => ?_, fun cs hcs b rest hb _ => ?_⟩
  · show (ms.foldlM (f.putMember origin) (none, []) >>= f.finish) = _
    rw [hput origin]
    exact hfinish
  · -- a text of the object goes through the same steps
    obtain ⟨tail, rfl, htakes⟩ := takes_object f.readMember f.finish hfolds hfinish hcs
    exact (takes_peekPastSpace hb rfl).bind (htakes rest)

end Flat

end GroupChat.Json
