import Mathlib.Data.List.Forall2
import GroupChat.Store.Outage

/-!
# Outages as patterns of failing calls

Whatever the calls to the store are, each of them can be made to fail or to pass: outages that let a
number of calls pass and make one call fail add up to any pattern. So what is shown about all
outages holds however calls fail.

## Main definitions

- `Outage.meets`: what becomes of several calls.
- `Outage.SameCalls`: two lists of outages make the same calls fail.

## Main statements

- `Outage.exists_meets_eq`: there are outages for every pattern.
- `Outage.sameCalls_of_hits`: outages that differ in their reasons only make the same calls fail.
-/

namespace GroupChat.Outage

/-- Whether each of several calls fails, by `meet`. -/
def meets : List StoreCall → List Outage → List (Option StoreError)
  | [], _ => []
  | call :: calls, outages => (meet call outages).1 :: meets calls (meet call outages).2

/-- The outage `o` when it comes one `call` of its kind later. -/
def later (call : StoreCall) (o : Outage) : Outage :=
  if o.call = call then { o with skip := o.skip + 1 } else o

/-- The same calls fail with `outages` and `outages'`, for whatever reasons, whichever calls are
made. -/
def SameCalls (outages outages' : List Outage) : Prop :=
  ∀ calls, (meets calls outages).map Option.isSome = (meets calls outages').map Option.isSome

/-- `o'` makes the same calls fail as `o`. -/
def Hits (o o' : Outage) : Prop := o' = { o with error := o'.error }

variable {call : StoreCall} {o : Outage} {fired : Option StoreError}

/-- `meetFrom` leaves an outage that is over as it is. -/
theorem meetFrom_cons_of_times_eq_zero (hs : o.skip = 0) (ht : o.times = 0)
    (outages : List Outage) : meetFrom call fired (o :: outages) =
      ((meetFrom call fired outages).1, o :: (meetFrom call fired outages).2) := by
  rw [meetFrom, hs, ht, if_pos rfl, if_pos (Or.inl rfl), ite_self]

/-- `meets` is not changed by an outage that fails no call any more. -/
theorem meets_cons_of_times_eq_zero (hs : o.skip = 0) (ht : o.times = 0) (calls : List StoreCall)
    (outages : List Outage) : meets calls (o :: outages) = meets calls outages := by
  induction calls generalizing outages with
  | nil => rfl
  | cons call calls ih =>
    rw [meets, meets, meet, meetFrom_cons_of_times_eq_zero hs ht, ih]
    rfl

/-- `meetFrom` passes outages that come `later`. -/
theorem meetFrom_map_later (outages : List Outage) :
    meetFrom call fired (outages.map (later call)) = (fired, outages) := by
  induction outages with
  | nil => rfl
  | cons o outages ih =>
    rw [List.map_cons, later]
    by_cases hc : o.call = call
    · rw [if_pos hc, meetFrom, if_pos hc, if_neg (Nat.succ_ne_zero o.skip), ih]
      rfl
    · rw [if_neg hc, meetFrom, if_neg hc, ih]

/-- `meets` can be any list of failures, so the outages stand for any behaviour of the store that is
known beforehand. -/
theorem exists_meets_eq (calls : List StoreCall) (failures : List (Option StoreError))
    (hlen : failures.length = calls.length) : ∃ outages, meets calls outages = failures := by
  induction calls generalizing failures with
  | nil => exact ⟨[], (List.length_eq_zero_iff.1 hlen).symm⟩
  | cons call calls ih =>
    obtain ⟨failed, failures, rfl⟩ := List.exists_cons_of_length_eq_add_one hlen
    obtain ⟨outages, houtages⟩ := ih failures (Nat.succ.inj hlen)
    cases failed with
    | none =>
      -- the outages for the other calls come one call later
      refine ⟨outages.map (later call), ?_⟩
      rw [meets, meet, meetFrom_map_later, houtages]
    | some e =>
      refine ⟨⟨call, 0, 1, e⟩ :: outages.map (later call), ?_⟩
      rw [meets, meet, meetFrom, if_pos rfl, if_pos rfl, if_neg (by simp), meetFrom_map_later]
      rw [meets_cons_of_times_eq_zero rfl rfl, houtages]

/-! ### Failing for other reasons -/

section SameCalls

variable {outages outages' : List Outage} {fired' : Option StoreError}

/-- `meet` fails on both sides of `SameCalls` or on neither, and leaves `SameCalls`. -/
theorem SameCalls.meet (h : SameCalls outages outages') (call : StoreCall) :
    (meet call outages).1.isSome = (meet call outages').1.isSome ∧
      SameCalls (Outage.meet call outages).2 (Outage.meet call outages').2 := by
  constructor
  · have hone := h [call]
    simpa [meets] using hone
  · intro calls
    have hall := h (call :: calls)
    simp only [meets, List.map_cons, List.cons.injEq] at hall
    exact hall.2

/-- `meetFrom` keeps that the outages hit the same calls one by one. -/
theorem meetFrom_of_hits (h : List.Forall₂ Hits outages outages')
    (hf : fired.isSome = fired'.isSome) (call : StoreCall) :
    (meetFrom call fired outages).1.isSome = (meetFrom call fired' outages').1.isSome ∧
      List.Forall₂ Hits (meetFrom call fired outages).2 (meetFrom call fired' outages').2 := by
  induction h generalizing fired fired' with
  | nil => exact ⟨hf, .nil⟩
  | @cons o o' outages outages' ho _ ih =>
    rw [ho, meetFrom, meetFrom, hf]
    dsimp only
    split_ifs
    · exact ⟨(ih hf).1, .cons rfl (ih hf).2⟩
    · -- both fail by this outage, as they have not failed before
      have hboth : (some o.error).isSome = (some o'.error).isSome := rfl
      exact ⟨(ih hboth).1, .cons rfl (ih hboth).2⟩
    · exact ⟨(ih hf).1, .cons rfl (ih hf).2⟩
    · exact ⟨(ih hf).1, .cons rfl (ih hf).2⟩

/-- Outages that hit the same calls one by one do so together: `Hits` implies `SameCalls`. -/
theorem sameCalls_of_hits (h : List.Forall₂ Hits outages outages') :
    SameCalls outages outages' := by
  intro calls
  induction calls generalizing outages outages' with
  | nil => rfl
  | cons call calls ih =>
    have hnone : (none : Option StoreError).isSome = (none : Option StoreError).isSome := rfl
    obtain ⟨hsome, hrest⟩ := meetFrom_of_hits h hnone call
    rw [meets, meets, List.map_cons, List.map_cons, meet, meet, hsome, ih hrest]

end SameCalls

end GroupChat.Outage
