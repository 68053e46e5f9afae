import Mathlib.Data.List.Induction

/-!
# What holds since

Many things hold because of something that happened once and was not undone since: a connection is
in a room because it came and did not go, and its account has the role with which it came when
nobody else of the account was there. Whether something counts may depend on all that happened
before it.

## Main definitions

- `Since`: something happened, and nothing undid it after that.

## Main statements

- `since_concat`: what the last thing that happened makes of it.
- `since_iff_forall_mem`: nothing depends on what happened before.
-/

namespace GroupChat

variable {α : Type} {p q : List α → α → Prop} {as : List α} {a : α}

/-- Something happened of which `p` holds, and nothing of which `q` holds happened after it. Both
are told what happened before. -/
def Since (p q : List α → α → Prop) (as : List α) : Prop :=
  ∃ before a after, as = before ++ a :: after ∧ p before a ∧
    ∀ more b rest, after = more ++ b :: rest → ¬ q (before ++ a :: more) b

theorem not_since_nil : ¬ Since p q [] := by
  rintro ⟨before, a, after, h, -⟩
  exact List.append_ne_nil_of_right_ne_nil before (List.cons_ne_nil a after) h.symm

/-- `Since` after one more event: it holds by that event, or it held before and was not undone by
it. -/
theorem since_concat : Since p q (as ++ [a]) ↔ p as a ∨ Since p q as ∧ ¬ q as a := by
  constructor
  · rintro ⟨before, x, after, heq, hp, hq⟩
    -- the cause is the last one, or it stands before it
    induction after using List.reverseRecOn with
    | nil =>
      obtain ⟨rfl, hlast⟩ := List.append_inj' heq rfl
      obtain rfl := (List.cons.inj hlast).1
      exact Or.inl hp
    | append_singleton after last _ =>
      rw [← List.cons_append, ← List.append_assoc] at heq
      obtain ⟨rfl, hlast⟩ := List.append_inj' heq rfl
      obtain rfl := (List.cons.inj hlast).1
      refine Or.inr ⟨⟨before, x, after, rfl, hp, fun more b rest hafter => ?_⟩, ?_⟩
      · exact hq more b (rest ++ [a]) (by rw [hafter, List.append_assoc, List.cons_append])
      · exact hq after a [] rfl
  · rintro (hp | ⟨⟨before, x, after, rfl, hp, hq⟩, ha⟩)
    · exact ⟨as, a, [], rfl, hp, fun more b rest h => by cases more <;> cases h⟩
    · refine ⟨before, x, after ++ [a], by simp, hp, fun more b rest hafter => ?_⟩
      -- whatever ends it is the last one, or it stood in the way before
      induction rest using List.reverseRecOn with
      | nil =>
        obtain ⟨rfl, hlast⟩ := List.append_inj' hafter rfl
        obtain rfl := (List.cons.inj hlast).1
        exact ha
      | append_singleton rest last _ =>
        rw [← List.cons_append, ← List.append_assoc] at hafter
        exact hq more b rest (List.append_inj' hafter rfl).1

/-- `Since`, where neither property depends on what happened before. -/
theorem since_iff_forall_mem {p q : α → Prop} :
    Since (fun _ => p) (fun _ => q) as ↔
      ∃ before a after, as = before ++ a :: after ∧ p a ∧ ∀ b ∈ after, ¬ q b := by
  refine exists_congr fun before => exists_congr fun a => exists_congr fun after => ?_
  refine and_congr_right fun _ => and_congr_right fun _ => ?_
  constructor
  · intro h b hb
    obtain ⟨more, rest, hafter⟩ := List.append_of_mem hb
    exact h more b rest hafter
  · rintro h more b rest rfl
    exact h b (List.mem_append_right more List.mem_cons_self)

end GroupChat
