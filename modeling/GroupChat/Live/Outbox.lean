import GroupChat.Table

/-!
# Outboxes

The events that wait for a client. An outbox holds a limited number of texts; one that is offered
when there is no room is dropped, so nobody ever waits for a slow client. The client may stop
listening, and the hub may ask for the connection to be closed.

## Main definitions

- `Outbox`: the texts that wait.
- `Outbox.offer`, `Outbox.take`: putting in and taking out.
- `Lines`: the outboxes of all connections.
- `Lines.Move`: what clients do with their outboxes.

## Main statements

- `Outbox.queue_offer`, `Outbox.accepts_iff`: what is kept and when.
- `Lines.get?_modify`, `Lines.get?_connect`: which outbox a change concerns.
-/

namespace GroupChat

/-- The texts that wait for a client, of which at most `capacity` are accepted. -/
structure Outbox where
  /-- How many texts may wait. -/
  capacity : Nat
  /-- The texts in the order in which they were put in. -/
  queue : List String
  /-- Whether the client listens. -/
  listening : Bool
  /-- Whether the connection is to be closed. -/
  closing : Bool
  /-- Whether it is to be closed when the hub stops. -/
  dependent : Bool
  /-- There is room for one text at least. -/
  capacity_pos : 0 < capacity
  /-- Not more texts wait than may. -/
  length_le : queue.length ≤ capacity

namespace Outbox

instance : Repr Outbox := ⟨fun o p => reprPrec (o.capacity, o.queue, o.listening, o.closing) p⟩

/-- An outbox for `capacity` texts, or for one if that is none. -/
def new (capacity : Nat) (dependent : Bool) : Outbox where
  capacity := max capacity 1
  queue := []
  listening := true
  closing := false
  dependent := dependent
  capacity_pos := by omega
  length_le := by simp

/-- Whether a text is accepted by `o`. -/
def accepts (o : Outbox) : Bool := o.listening && o.queue.length < o.capacity

/-- Puts the `text` in, if it is accepted. -/
def offer (o : Outbox) (text : String) : Outbox :=
  if h : o.accepts = true then
    { o with
      queue := o.queue ++ [text]
      length_le := by
        simp only [accepts, Bool.and_eq_true, decide_eq_true_eq] at h
        simp only [List.length_append, List.length_cons, List.length_nil]
        omega }
  else o

/-- Takes out up to `n` texts. -/
def drop (o : Outbox) (n : Nat) : Outbox :=
  { o with
    queue := o.queue.drop n
    length_le := by
      have := o.length_le
      simp only [List.length_drop]
      omega }

/-- The outbox `o` of a client that stops listening. What waits is lost. -/
def hangUp (o : Outbox) : Outbox := { o with queue := [], listening := false, length_le := by simp }

/-- The outbox `o` of a connection that is to be closed. -/
def close (o : Outbox) : Outbox := { o with closing := true }

/-- `accepts` tells whether the client listens and there is room. -/
theorem accepts_iff {o : Outbox} :
    o.accepts = true ↔ o.listening = true ∧ o.queue.length < o.capacity := by
  simp [accepts]

/-- `offer` puts an accepted text behind the others, and drops one that is not accepted. -/
theorem queue_offer (o : Outbox) (text : String) :
    (o.offer text).queue = if o.accepts then o.queue ++ [text] else o.queue := by
  unfold offer
  split <;> simp_all

@[simp]
theorem capacity_offer (o : Outbox) (text : String) : (o.offer text).capacity = o.capacity := by
  unfold offer
  split <;> rfl

@[simp]
theorem listening_offer (o : Outbox) (text : String) : (o.offer text).listening = o.listening := by
  unfold offer
  split <;> rfl

@[simp]
theorem closing_offer (o : Outbox) (text : String) : (o.offer text).closing = o.closing := by
  unfold offer
  split <;> rfl

end Outbox

/-- The outboxes of all connections, one `Outbox` each. -/
structure Lines where
  /-- The outbox of each connection. -/
  outboxes : Table String Outbox := ∅
  deriving Repr, Inhabited

namespace Lines

/-- Opens the outbox of `connection`. -/
def connect (l : Lines) (connection : String) (outbox : Outbox) : Lines :=
  ⟨l.outboxes.insert connection outbox⟩

/-- The outbox of `connection`. -/
def get? (l : Lines) (connection : String) : Option Outbox := l.outboxes.get? connection

/-- Changes the outbox of `connection`. -/
def modify (l : Lines) (connection : String) (f : Outbox → Outbox) : Lines :=
  match l.get? connection with
  | some o => ⟨l.outboxes.insert connection (f o)⟩
  | none => l

/-- What a client does with its `Outbox`. -/
inductive Move where
  /-- It is opened, for a number of texts. -/
  | connect (connection : String) (capacity : Nat) (dependent : Bool)
  /-- The client takes up to `n` texts out. -/
  | take (connection : String) (n : Nat)
  /-- The client stops listening. -/
  | hangUp (connection : String)
  deriving DecidableEq, Repr

/-- The connection whose client does something in a `Move`. -/
def Move.connection : Move → String
  | .connect connection _ _ | .take connection _ | .hangUp connection => connection

/-- Whether `connection` accepts a text. -/
def accepts (l : Lines) (connection : String) : Bool := (l.get? connection).any Outbox.accepts

/-- Puts the `text` into the outbox of `connection`, if it is accepted. -/
def offer (l : Lines) (connection text : String) : Lines := l.modify connection (·.offer text)

/-- What waits for `connection`, unless the client stopped listening. -/
def waiting (l : Lines) (connection : String) : Option (List String) :=
  (l.get? connection).bind fun o => if o.listening then some o.queue else none

/-- Takes up to `n` texts out of an outbox. -/
def drop (l : Lines) (connection : String) (n : Nat) : Lines := l.modify connection (·.drop n)

/-- Closes `connection`. -/
def close (l : Lines) (connection : String) : Lines := l.modify connection Outbox.close

/-- Stops listening on `connection`. -/
def hangUp (l : Lines) (connection : String) : Lines := l.modify connection Outbox.hangUp

/-- The outboxes `l` after the `Move` of a client. -/
def move (l : Lines) : Move → Lines
  | .connect connection capacity dependent => l.connect connection (.new capacity dependent)
  | .take connection n => l.drop connection n
  | .hangUp connection => l.hangUp connection

/-- Whether `connection` is to be closed. -/
def isClosing (l : Lines) (connection : String) : Bool := (l.get? connection).any Outbox.closing

/-- The connections of `l` that are to be closed. -/
def closing (l : Lines) : List String :=
  (l.outboxes.entries.filter fun e => e.2.closing).map Prod.fst

/-- Closes all connections of `l` that depend on the hub. -/
def closeDependents (l : Lines) : Lines :=
  (l.outboxes.entries.filter fun e => e.2.dependent).foldl (fun l e => l.close e.1) l

/-- `connect` opens the outbox of one connection. -/
theorem get?_connect (l : Lines) (id j : String) (o : Outbox) :
    (l.connect id o).get? j = if j = id then some o else l.get? j :=
  Table.get?_insert ..

/-- `modify` concerns one outbox only. -/
theorem get?_modify (l : Lines) (id j : String) (f : Outbox → Outbox) :
    (l.modify id f).get? j = if j = id then (l.get? j).map f else l.get? j := by
  unfold modify
  split
  · rename_i o ho
    refine (get?_connect l id j (f o)).trans ?_
    split
    · rename_i hj
      rw [hj, ho, Option.map_some]
    · rfl
  · rename_i hnone
    split
    · rename_i hj
      rw [hj, hnone, Option.map_none]
    · rfl

/-- `modify` changes one outbox only. -/
theorem get?_modify_of_ne {l : Lines} {id j : String} (h : id ≠ j) (f : Outbox → Outbox) :
    (l.modify id f).get? j = l.get? j :=
  (get?_modify l id j f).trans (if_neg h.symm)

end Lines

end GroupChat
