import GroupChat.Live.Outbox

/-!
# Writers

Each connection has a writer, which takes one text after the other out of the outbox and writes it
to the socket. When nobody can put anything in any more and everything is written, it says farewell.
A write that fails ends it, and closes the connection.

## Main definitions

- `Writer`: a writer with all that it wrote.
- `Writer.take?`, `Writer.write?`, `Writer.fail?`, `Writer.finish?`: its steps. A step that is not
  possible gives nothing.

## Main statements

- `Writer.take?_eq_some_iff`, `Writer.write?_eq_some_iff`, `Writer.fail?_eq_some_iff`,
  `Writer.finish?_eq_some_iff`: when a step is possible, and what it does.
-/

namespace GroupChat

/-- What a `Writer` writes to a socket. -/
inductive Written where
  /-- A text. -/
  | text (s : String)
  /-- The farewell. -/
  | close
  deriving DecidableEq, Repr, Inhabited

/-- A writer with all that it wrote, `written`. -/
structure Writer where
  /-- The text that is taken out of the outbox and not written yet. -/
  inHand : Option String := none
  /-- What was written. -/
  written : List Written := []
  /-- Whether the writer has ended. -/
  ended : Bool := false
  deriving DecidableEq, Repr, Inhabited

namespace Writer

/-- Takes the next text out of the outbox `o`. -/
def take? (w : Writer) (o : Outbox) : Option (Writer × Outbox) :=
  match w.ended, w.inHand, o.queue with
  | false, none, text :: _ => some ({ w with inHand := some text }, o.drop 1)
  | _, _, _ => none

/-- Writes the text that `w` has in hand. -/
def write? (w : Writer) : Option Writer :=
  w.inHand.map fun text => { w with inHand := none, written := w.written ++ [.text text] }

/-- Fails to write the text that `w` has in hand, which is lost like all that waits in `o`. -/
def fail? (w : Writer) (o : Outbox) : Option (Writer × Outbox) :=
  w.inHand.map fun _ => ({ w with inHand := none, ended := true }, o.close.hangUp)

/-- Ends `w` when nothing is left. The farewell is written if the socket takes it. -/
def finish? (w : Writer) (o : Outbox) (taken : Bool) : Option (Writer × Outbox) :=
  match w.ended, w.inHand, o.queue with
  | false, none, [] =>
    let farewell := if taken then [.close] else []
    some ({ w with written := w.written ++ farewell, ended := true }, o.hangUp)
  | _, _, _ => none

/-- The texts that `w` has written. -/
def texts (w : Writer) : List String :=
  w.written.filterMap fun
    | .text s => some s
    | .close => none

variable {w w' : Writer} {o o' : Outbox}

/-- `take?` is possible when the hand is free and something waits, and takes what has waited
longest. -/
theorem take?_eq_some_iff : w.take? o = some (w', o') ↔
    w.ended = false ∧ w.inHand = none ∧
      ∃ text rest, o.queue = text :: rest ∧ w' = { w with inHand := some text } ∧ o' = o.drop 1 := by
  constructor
  · intro h
    unfold take? at h
    split at h
    · rename_i text rest hworking hfree hqueue
      cases h
      exact ⟨hworking, hfree, text, rest, hqueue, rfl, rfl⟩
    · cases h
  · rintro ⟨hworking, hfree, text, rest, hqueue, rfl, rfl⟩
    simp only [take?, hworking, hfree, hqueue]

/-- `write?` is possible when a text is in hand, and adds it to what was written. -/
theorem write?_eq_some_iff : w.write? = some w' ↔ ∃ text, w.inHand = some text ∧
    w' = { w with inHand := none, written := w.written ++ [.text text] } := by
  rw [write?, Option.map_eq_some_iff]
  exact exists_congr fun text => and_congr_right fun _ => eq_comm

/-- `fail?` is possible when a text is in hand. The writer ends, and the connection is closed. -/
theorem fail?_eq_some_iff : w.fail? o = some (w', o') ↔ ∃ text, w.inHand = some text ∧
    w' = { w with inHand := none, ended := true } ∧ o' = o.close.hangUp := by
  rw [fail?, Option.map_eq_some_iff]
  refine exists_congr fun text => and_congr_right fun _ => ?_
  rw [Prod.mk.injEq, eq_comm, @eq_comm _ o']

/-- `finish?` is possible when nothing is in hand and nothing waits. Whether the farewell is written
or not, the connection is not closed by it. -/
theorem finish?_eq_some_iff {taken : Bool} : w.finish? o taken = some (w', o') ↔
    w.ended = false ∧ w.inHand = none ∧ o.queue = [] ∧
      w' = { w with written := w.written ++ (if taken then [.close] else []), ended := true } ∧
      o' = o.hangUp := by
  constructor
  · intro h
    simp only [finish?] at h
    split at h
    · rename_i hworking hfree hqueue
      cases h
      exact ⟨hworking, hfree, hqueue, rfl, rfl⟩
    · cases h
  · rintro ⟨hworking, hfree, hqueue, rfl, rfl⟩
    simp only [finish?, hworking, hfree, hqueue]

end Writer

end GroupChat
