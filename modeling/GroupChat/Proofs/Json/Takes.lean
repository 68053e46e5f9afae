import GroupChat.Json.Enclosed

/-!
# What readers take

A reader is described by what it takes off the front of a text and by what it gives for that. Where
in a text this happens does not matter, as only faults speak of it. A description is put together
from those of the parts.

## Main definitions

- `Reader.Takes`: what a reader takes and gives.
- `Blank`: blanks of the format.

## Main statements

- `Takes.bind`: readers that follow each other.
- `takes_peekPastSpace`: what follows blanks.
- `run_of_takes`: a reader that takes a whole text.
-/

namespace GroupChat.Json

/-- All characters of `cs` are blanks of the format (`isSpace`). -/
def Blank (cs : List Char) : Prop := ∀ c ∈ cs, isSpace c = true

theorem blank_nil : Blank [] := fun _ h => nomatch h

/-! ### Results of several steps -/

theorem of_bind_eq_ok {ε α β : Type} {e : Except ε α} {f : α → Except ε β} {b : β}
    (h : e >>= f = .ok b) : ∃ a, e = .ok a ∧ f a = .ok b := by
  cases e with
  | error fault => cases h
  | ok a => exact ⟨a, rfl, h⟩

theorem of_map_eq_ok {ε α β : Type} {e : Except ε α} {f : α → β} {b : β}
    (h : f <$> e = .ok b) : ∃ a, e = .ok a ∧ f a = b := by
  cases e with
  | error fault => cases h
  | ok a => exact ⟨a, rfl, Except.ok.inj h⟩

namespace Reader

variable {α β : Type} {r : Reader α} {f : α → Reader β} {a : α} {b : β} {c : Char}
  {cs mid rest blanks : List Char}

/-- Off the text `cs` a reader takes all but `rest` and gives `a`, wherever that is. -/
def Takes (r : Reader α) (cs : List Char) (a : α) (rest : List Char) : Prop :=
  ∀ p, ∃ p', r ⟨cs, p⟩ = .ok (a, ⟨rest, p'⟩)

/-! ### Single steps -/

theorem takes_pure (a : α) (cs : List Char) : Takes (pure a) cs a cs := fun p => ⟨p, rfl⟩

/-- `Takes` of a reader and of the one that goes on with the rest. -/
theorem Takes.bind (h : Takes r cs a mid) (hf : Takes (f a) mid b rest) :
    Takes (r >>= f) cs b rest := by
  intro p
  obtain ⟨p', hp'⟩ := h p
  obtain ⟨p'', hp''⟩ := hf p'
  refine ⟨p'', ?_⟩
  show (r ⟨cs, p⟩ >>= fun x => f x.1 x.2) = _
  rw [hp']
  exact hp''

theorem Takes.map {g : α → β} (h : Takes r cs a rest) : Takes (g <$> r) cs (g a) rest := by
  intro p
  obtain ⟨p', hp'⟩ := h p
  refine ⟨p', ?_⟩
  show (r ⟨cs, p⟩ >>= fun x => pure (g x.1, x.2)) = _
  rw [hp']
  rfl

theorem takes_ofExcept {e : Except ShapeFault α} (h : e = .ok a) (cs : List Char) :
    Takes (ofExcept e) cs a cs := by
  rw [h]
  exact takes_pure a cs

theorem takes_ofExceptHere {e : Except ShapeFault α} (h : e = .ok a) (cs : List Char) :
    Takes (ofExceptHere e) cs a cs := by
  rw [h]
  exact takes_pure a cs

theorem takes_peek (cs : List Char) : Takes peek cs cs.head? cs := fun p => ⟨p, rfl⟩

theorem takes_skip (c : Char) (cs : List Char) : Takes skip (c :: cs) () cs := fun _ => ⟨_, rfl⟩

theorem takes_fuel (cs : List Char) : Takes fuel cs (cs.length + 1) cs := fun p => ⟨p, rfl⟩

/-- `placed` adds a position to faults only. -/
theorem Takes.placed (h : Takes r cs a rest) (close : Char) : Takes (placed close r) cs a rest := by
  intro p
  obtain ⟨p', hp'⟩ := h p
  refine ⟨p', ?_⟩
  rw [Reader.placed, hp']

/-- If two readers one after the other succeed, each of them does. -/
theorem bind_eq_ok {c c' : Cursor} {b : β} (h : (r >>= f) c = .ok (b, c')) :
    ∃ a c'', r c = .ok (a, c'') ∧ f a c'' = .ok (b, c') := by
  obtain ⟨x, hr, hf⟩ := of_bind_eq_ok (show (r c >>= fun x => f x.1 x.2) = .ok (b, c') from h)
  exact ⟨x.1, x.2, hr, hf⟩

/-! ### Blanks -/

/-- `space` takes blanks up to the first other character. -/
theorem takes_space (hblanks : Blank blanks) (hrest : ∀ c ∈ rest.head?, isSpace c = false) :
    Takes space (blanks ++ rest) () rest := by
  intro p
  -- only the position depends on the blanks, and it is left open
  suffices h : ∃ p', Cursor.pastSpace p (blanks ++ rest) = ⟨rest, p'⟩ by
    obtain ⟨p', hp'⟩ := h
    exact ⟨p', congrArg (fun c => Except.ok ((), c)) hp'⟩
  induction blanks generalizing p with
  | nil =>
    cases rest with
    | nil => exact ⟨p, rfl⟩
    | cons c rest =>
      refine ⟨p, ?_⟩
      rw [List.nil_append, Cursor.pastSpace, hrest c rfl, if_neg Bool.false_ne_true]
  | cons c blanks ih =>
    rw [List.cons_append, Cursor.pastSpace, if_pos (hblanks c List.mem_cons_self)]
    exact ih (fun d hd => hblanks d (List.mem_cons_of_mem c hd)) _

/-- `peekPastSpace` takes the blanks, and shows what follows them. -/
theorem takes_peekPastSpace (hblanks : Blank blanks) (hc : isSpace c = false) :
    Takes peekPastSpace (blanks ++ c :: cs) (some c) (c :: cs) := by
  refine (takes_space hblanks ?_).bind (takes_peek (c :: cs))
  rintro d hd
  cases hd
  exact hc

theorem takes_peekPastSpace_nil (hblanks : Blank blanks) : Takes peekPastSpace blanks none [] := by
  have hspace : Takes space (blanks ++ []) () [] := takes_space hblanks nofun
  rw [List.append_nil] at hspace
  exact hspace.bind (takes_peek [])

/-! ### Whole texts -/

/-- `run` reads a whole text if `atEnd` holds of what is left. -/
theorem run_eq_ok_iff :
    r.run (String.ofList cs) = .ok a ↔
      ∃ c, (do let a ← r; atEnd; pure a : Reader α) ⟨cs, ⟨1, 0⟩⟩ = .ok (a, c) := by
  rw [run, String.toList_ofList, Cursor.start]
  constructor
  · intro h
    split at h
    · rename_i a' c hall
      cases h
      exact ⟨c, hall⟩
    · cases h
  · rintro ⟨c, hall⟩
    rw [hall]

/-- `run` of a reader that leaves blanks only. -/
theorem run_of_takes (h : Takes r cs a blanks) (hblanks : Blank blanks) :
    r.run (String.ofList cs) = .ok a := by
  have hend : Takes atEnd blanks () [] := (takes_peekPastSpace_nil hblanks).bind (takes_pure () [])
  have hall : Takes (do let a ← r; atEnd; pure a : Reader α) cs a [] :=
    h.bind (hend.bind (takes_pure a []))
  obtain ⟨p, hp⟩ := hall ⟨1, 0⟩
  exact run_eq_ok_iff.2 ⟨⟨[], p⟩, hp⟩

end Reader

end GroupChat.Json
