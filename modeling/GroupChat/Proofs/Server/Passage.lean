import Mathlib.Data.List.Infix
import GroupChat.Proofs.Server.Outlet

/-!
# What is put into an outbox is written in order

What is put into the outbox of a connection is written to its socket in the same order, whoever is
faster: those who put something in, who never wait, or the writer, who waits for the socket. When
nobody is left who may put something in, the writer writes the rest and says farewell. When the
socket does not take a text, the writer ends at once and closes the connection, and nothing is
accepted any more.

At any time, what was accepted is written, in the hand of the writer, or waits, in this order. This
is all that has to be preserved until the writer ends.

## Main definitions

- `Passage`: an outlet with the texts that were offered to it.
- `Passage.step?`, `Passage.run?`: what happens at an outlet, in any order.
- `Passage.Stands`: how far the writer is, and what became of the texts.
- `Passage.Delivers`: what is written, in terms of what was accepted.

## Main statements

- `Passage.Flows.step`, `Passage.Flows.run`: everything that happens preserves how far the writer
  is.
- `Passage.Halted.run`: once the writer has ended, nothing is written and nothing is accepted.
- `Passage.exists_run_ended`, `Passage.Flows.run_deserted`: when nobody holds the connection, the
  writer comes to its end.
- `Passage.delivers_of_run`: whatever happens in whichever order, an outlet delivers.
-/

namespace GroupChat

/-- An `outlet`, with the texts that were offered to it and whether they were accepted, in order. -/
structure Passage where
  /-- The outlet. -/
  outlet : Outlet
  /-- What was offered. -/
  offered : List (String × Bool) := []

namespace Passage

/-- The texts among `offered` that were accepted, in order. -/
def accepted (p : Passage) : List String := (p.offered.filter (·.2)).map (·.1)

/-- The passage after a `text` was offered. -/
def offer (p : Passage) (text : String) : Passage where
  outlet := { p.outlet with outbox := p.outlet.outbox.offer text }
  offered := p.offered ++ [(text, p.outlet.outbox.accepts)]

/-- The passage after one `Outlet.Move`, if that is possible. -/
def step? (p : Passage) : Outlet.Move → Option Passage
  | .send text => if 0 < p.outlet.handles then some (p.offer text) else none
  | .share =>
    if 0 < p.outlet.handles then
      some { p with outlet := { p.outlet with handles := p.outlet.handles + 1 } }
    else none
  | .release =>
    if 0 < p.outlet.handles then
      some { p with outlet := { p.outlet with handles := p.outlet.handles - 1 } }
    else none
  | .close => some { p with outlet := { p.outlet with outbox := p.outlet.outbox.close } }
  | .work => p.outlet.work?.map fun outlet => { p with outlet }

/-- The passage after several `moves`, by `step?`. -/
def run? (p : Passage) (moves : List Outlet.Move) : Option Passage := moves.foldlM step? p

/-! ### How far the writer is -/

/-- The writer of `p` has ended, and its outbox accepts nothing any more. -/
structure Halted (p : Passage) : Prop where
  /-- The writer has ended. -/
  ended : p.outlet.writer.ended = true
  /-- It has nothing in hand. -/
  free : p.outlet.writer.inHand = none
  /-- Nobody takes anything out of the outbox. -/
  shut : p.outlet.outbox.listening = false

/-- How far the writer of `p` is, and what became of the texts that were `accepted`. -/
inductive Stands (p : Passage) : Prop where
  /-- It is at work: what was accepted is written, in hand, or waits, in this order. -/
  | working (texts : List String) (working : p.outlet.writer.ended = false)
      (listening : p.outlet.outbox.listening = true) (taken : p.outlet.socket.refused = none)
      (written : p.outlet.writer.written = texts.map .text)
      (accepted : p.accepted = texts ++ (p.outlet.writer.inHand.toList ++ p.outlet.outbox.queue))
  /-- Everything is written, and it said farewell. -/
  | finished (halted : p.Halted) (deserted : p.outlet.handles = 0)
      (taken : p.outlet.socket.refused = none)
      (written : p.outlet.writer.written = p.accepted.map .text ++ [.close])
  /-- Everything is written, and the socket did not take the farewell. -/
  | unparted (halted : p.Halted) (deserted : p.outlet.handles = 0)
      (refused : p.outlet.socket.refused = some .close)
      (written : p.outlet.writer.written = p.accepted.map .text)
  /-- The socket did not take a text, and the connection is closed. -/
  | broken (texts : List String) (text : String) (rest : List String) (halted : p.Halted)
      (closing : p.outlet.outbox.closing = true)
      (refused : p.outlet.socket.refused = some (.text text))
      (written : p.outlet.writer.written = texts.map .text)
      (accepted : p.accepted = texts ++ text :: rest)

/-- Outbox, writer and socket of `p` fit what has happened (`Stands`). -/
structure Flows (p : Passage) (capacity : Nat) (limit : Option Nat) : Prop where
  /-- The outbox is as large as it was. -/
  capacity : p.outlet.outbox.capacity = max capacity 1
  /-- The writer is somewhere on its way. -/
  stands : p.Stands
  /-- The socket took what was written. -/
  fits : p.outlet.socket.Fits limit p.outlet.writer.written.length

variable {p q : Passage} {x : Outlet} {capacity : Nat} {limit : Option Nat} {text : String}

theorem accepted_offer (p : Passage) (text : String) :
    (p.offer text).accepted =
      p.accepted ++ if p.outlet.outbox.accepts then [text] else [] := by
  show ((p.offered ++ [(text, p.outlet.outbox.accepts)]).filter (·.2)).map (·.1) = _
  rw [List.filter_append, List.map_append, ← accepted]
  cases p.outlet.outbox.accepts <;> rfl

theorem Halted.accepts_eq_false (h : p.Halted) : p.outlet.outbox.accepts = false := by
  rw [Outbox.accepts, h.shut, Bool.false_and]

theorem Halted.accepted_offer (h : p.Halted) (text : String) :
    (p.offer text).accepted = p.accepted := by
  rw [Passage.accepted_offer, h.accepts_eq_false, if_neg Bool.false_ne_true, List.append_nil]

theorem Halted.offer (h : p.Halted) (text : String) : (p.offer text).Halted :=
  ⟨h.ended, h.free, (Outbox.listening_offer ..).trans h.shut⟩

/-- An outlet that is `Halted` does nothing. -/
theorem Halted.not_works (h : p.Halted) : ¬ p.outlet.Works x := by
  intro hworks
  cases hworks with
  | take working | finish working => cases working.symm.trans h.ended
  | write hand | fail hand => cases hand.symm.trans h.free

/-- `offer` preserves how far the writer is. While it is at work, an accepted text waits at the end.
-/
theorem Stands.offer (hp : p.Stands) (text : String) : (p.offer text).Stands := by
  cases hp with
  | working texts working listening taken written accepted =>
    refine .working texts working ((Outbox.listening_offer ..).trans listening) taken written ?_
    -- the text waits behind the others, if it was accepted
    show (p.offer text).accepted =
      texts ++ (p.outlet.writer.inHand.toList ++ (p.outlet.outbox.offer text).queue)
    rw [accepted_offer, Outbox.queue_offer, accepted]
    split
    · rw [List.append_assoc, List.append_assoc]
    · rw [List.append_nil]
  | finished halted deserted taken written =>
    exact .finished (halted.offer text) deserted taken (by rw [halted.accepted_offer]; exact written)
  | unparted halted deserted refused written =>
    exact .unparted (halted.offer text) deserted refused (by rw [halted.accepted_offer]; exact written)
  | broken texts lost rest halted closing refused written accepted =>
    refine .broken texts lost rest (halted.offer text) ((Outbox.closing_offer ..).trans closing)
      refused written ?_
    rw [halted.accepted_offer, accepted]

/-- `Stands` does not depend on how many hold the connection, if anybody does. -/
theorem Stands.handles (hp : p.Stands) (h : 0 < p.outlet.handles) (n : Nat) :
    Stands { p with outlet := { p.outlet with handles := n } } := by
  cases hp with
  | working texts working listening taken written accepted =>
    exact .working texts working listening taken written accepted
  | finished _ deserted | unparted _ deserted => exact absurd deserted h.ne'
  | broken texts lost rest halted closing refused written accepted =>
    exact .broken texts lost rest ⟨halted.ended, halted.free, halted.shut⟩ closing refused written
      accepted

/-- `Stands` stays when the connection is closed, as what waits is still written. -/
theorem Stands.close (hp : p.Stands) :
    Stands { p with outlet := { p.outlet with outbox := p.outlet.outbox.close } } := by
  cases hp with
  | working texts working listening taken written accepted =>
    exact .working texts working listening taken written accepted
  | finished halted deserted taken written =>
    exact .finished ⟨halted.ended, halted.free, halted.shut⟩ deserted taken written
  | unparted halted deserted refused written =>
    exact .unparted ⟨halted.ended, halted.free, halted.shut⟩ deserted refused written
  | broken texts lost rest halted closing refused written accepted =>
    exact .broken texts lost rest ⟨halted.ended, halted.free, halted.shut⟩ rfl refused written
      accepted

theorem Stands.taken (hp : p.Stands) (h : p.outlet.Works x) : p.outlet.socket.refused = none := by
  cases hp with
  | working texts working listening taken written accepted => exact taken
  | finished halted | unparted halted | broken _ _ _ halted => exact absurd h halted.not_works

/-- `Works` preserves `Stands`; one case for each thing that the writer does. -/
theorem Stands.works (hp : p.Stands) (h : p.outlet.Works x) :
    Stands { p with outlet := x } := by
  cases hp with
  | finished halted | unparted halted | broken _ _ _ halted => exact absurd h halted.not_works
  | working texts working listening taken written accepted =>
    cases h with
    | @take text rest _ free waiting =>
      refine .working texts working listening taken written ?_
      show p.accepted = texts ++ (text :: p.outlet.outbox.queue.drop 1)
      rw [accepted, free, waiting]
      rfl
    | @write text hand takes =>
      refine .working (texts ++ [text]) working listening ?_ ?_ ?_
      · show (p.outlet.socket.write (.text text)).refused = none
        rw [Socket.write_of_takes takes]
        exact taken
      · show p.outlet.writer.written ++ [.text text] = _
        rw [written, List.map_append]
        rfl
      · show p.accepted = texts ++ [text] ++ ([] ++ p.outlet.outbox.queue)
        rw [accepted, hand, List.append_assoc]
        rfl
    | @fail text hand fails =>
      refine .broken texts text p.outlet.outbox.queue ⟨rfl, rfl, rfl⟩ rfl ?_ written ?_
      · show (p.outlet.socket.write (.text text)).refused = some (.text text)
        rw [Socket.write_of_fails fails]
      · show p.accepted = _
        rw [accepted, hand]
        rfl
    | finish _ free empty deserted =>
      -- nothing is in hand and nothing waits, so everything was written
      have hwritten : p.outlet.writer.written = p.accepted.map .text := by
        rw [written, accepted, free, empty, Option.toList_none, List.append_nil, List.append_nil]
      cases htakes : p.outlet.socket.takes with
      | true =>
        refine .finished ⟨rfl, free, rfl⟩ deserted ?_ ?_
        · show (p.outlet.socket.write .close).refused = none
          rw [Socket.write_of_takes htakes]
          exact taken
        · exact congrArg (· ++ [Written.close]) hwritten
      | false =>
        refine .unparted ⟨rfl, free, rfl⟩ deserted ?_ ?_
        · show (p.outlet.socket.write .close).refused = some .close
          rw [Socket.write_of_fails htakes]
        · exact (List.append_nil _).trans hwritten

/-- `step?` preserves `Flows`. -/
theorem Flows.step {move : Outlet.Move} (hp : p.Flows capacity limit) (h : p.step? move = some q) :
    q.Flows capacity limit := by
  cases move with
  | send text =>
    obtain ⟨-, h⟩ := Option.ite_none_right_eq_some.1 h
    cases h
    exact ⟨(Outbox.capacity_offer ..).trans hp.capacity, hp.stands.offer text, hp.fits⟩
  | share | release =>
    obtain ⟨hheld, h⟩ := Option.ite_none_right_eq_some.1 h
    cases h
    exact ⟨hp.capacity, hp.stands.handles hheld _, hp.fits⟩
  | close =>
    cases h
    exact ⟨hp.capacity, hp.stands.close, hp.fits⟩
  | work =>
    obtain ⟨x, hx, rfl⟩ := Option.map_eq_some_iff.1 h
    have hworks : p.outlet.Works x := Outlet.work?_eq_some_iff.1 hx
    exact ⟨hworks.capacity.trans hp.capacity, hp.stands.works hworks,
      hworks.fits hp.fits (hp.stands.taken hworks)⟩

/-- `run?` preserves `Flows`. -/
theorem Flows.run {moves : List Outlet.Move} (hp : p.Flows capacity limit)
    (h : p.run? moves = some q) : q.Flows capacity limit := by
  induction moves generalizing p with
  | nil =>
    cases h
    exact hp
  | cons move moves ih =>
    obtain ⟨r, hr, h⟩ := Option.bind_eq_some_iff.1 h
    exact ih (hp.step hr) h

/-! ### The end of the writer -/

/-- Between `p` and `q` nothing was written and nothing was accepted. -/
structure Rests (p q : Passage) : Prop where
  /-- Nothing was written. -/
  written : q.outlet.writer.written = p.outlet.writer.written
  /-- What was offered was not accepted. -/
  offered : ∃ more, q.offered = p.offered ++ more ∧ ∀ o ∈ more, o.2 = false

theorem Rests.refl (p : Passage) : p.Rests p := ⟨rfl, [], (List.append_nil _).symm, nofun⟩

theorem Rests.trans {r : Passage} (h : p.Rests q) (h' : q.Rests r) : p.Rests r := by
  obtain ⟨more, hmore, hnone⟩ := h.offered
  obtain ⟨more', hmore', hnone'⟩ := h'.offered
  refine ⟨h'.written.trans h.written, more ++ more', ?_, fun o ho => ?_⟩
  · rw [hmore', hmore, List.append_assoc]
  · exact (List.mem_append.1 ho).elim (hnone o) (hnone' o)

/-- `step?` preserves `Halted`, and what is written `Rests`. -/
theorem Halted.step {move : Outlet.Move} (hp : p.Halted) (h : p.step? move = some q) :
    q.Halted ∧ p.Rests q := by
  cases move with
  | send text =>
    obtain ⟨-, h⟩ := Option.ite_none_right_eq_some.1 h
    cases h
    refine ⟨hp.offer text, rfl, [(text, p.outlet.outbox.accepts)], rfl, fun o ho => ?_⟩
    rw [List.mem_singleton.1 ho]
    exact hp.accepts_eq_false
  | share | release =>
    obtain ⟨-, h⟩ := Option.ite_none_right_eq_some.1 h
    cases h
    exact ⟨⟨hp.ended, hp.free, hp.shut⟩, rfl, [], (List.append_nil _).symm, nofun⟩
  | close =>
    cases h
    exact ⟨⟨hp.ended, hp.free, hp.shut⟩, rfl, [], (List.append_nil _).symm, nofun⟩
  -- a writer that has ended does nothing any more
  | work =>
    obtain ⟨x, hx, -⟩ := Option.map_eq_some_iff.1 h
    exact absurd (Outlet.work?_eq_some_iff.1 hx) hp.not_works

/-- `run?` preserves `Halted`: nothing is written and nothing is accepted any more. -/
theorem Halted.run {moves : List Outlet.Move} (hp : p.Halted) (h : p.run? moves = some q) :
    p.Rests q := by
  induction moves generalizing p with
  | nil =>
    cases h
    exact .refl _
  | cons move moves ih =>
    obtain ⟨r, hr, h⟩ := Option.bind_eq_some_iff.1 h
    obtain ⟨hhalted, hrests⟩ := hp.step hr
    exact hrests.trans (ih hhalted h)

theorem Stands.halted (hp : p.Stands) (h : p.outlet.writer.ended = true) : p.Halted := by
  cases hp with
  | working texts working => cases working.symm.trans h
  | finished halted | unparted halted | broken _ _ _ halted => exact halted

/-- What is written after `moves`, in terms of what was accepted, when the outbox holds `capacity`
texts, or one if that is none, and the socket takes `limit` frames, or all frames. -/
structure Delivers (p : Passage) (moves : List Outlet.Move) (capacity : Nat) (limit : Option Nat) :
    Prop where
  /-- The texts that were written are the first of those that were accepted, in order. Nothing else
  was written but the farewell after them. -/
  written : ∃ texts, texts <+: p.accepted ∧ (p.outlet.writer.written = texts.map .text ∨
    p.outlet.writer.written = texts.map .text ++ [.close])
  /-- The receiving end is open until the writer ends. -/
  listening_iff : p.outlet.outbox.listening = true ↔ p.outlet.writer.ended = false
  /-- Until then, what was accepted is written, in hand, or waits, in this order. -/
  waiting (working : p.outlet.writer.ended = false) : p.accepted =
    p.outlet.writer.texts ++ (p.outlet.writer.inHand.toList ++ p.outlet.outbox.queue)
  /-- Whoever holds the connection can offer a text, which is accepted if the receiving end is open
  and fewer texts wait than may. -/
  offer (held : 0 < p.outlet.handles) (text : String) :
    p.step? (.send text) = some (p.offer text) ∧
      ∃ accepted, (p.offer text).offered = p.offered ++ [(text, accepted)] ∧
        (accepted = true ↔
          p.outlet.outbox.listening = true ∧ p.outlet.outbox.queue.length < max capacity 1)
  /-- Once the writer has ended, nothing is written and nothing is accepted any more. -/
  halted (ended : p.outlet.writer.ended = true) {moves : List Outlet.Move} {q : Passage}
    (later : p.run? moves = some q) : p.Rests q
  /-- When nobody holds the connection, the writer comes to its end if it goes on. If no frame is
  refused, everything that was accepted is then written once, and one farewell. -/
  ends (deserted : p.outlet.handles = 0) :
    ∃ n q, p.run? (List.replicate n .work) = some q ∧ q.outlet.writer.ended = true ∧
      (q.outlet.socket.refused = none →
        q.outlet.writer.written = p.accepted.map .text ++ [.close])
  /-- Until then it does only so much, whatever else happens. -/
  effort (deserted : p.outlet.handles = 0) {moves : List Outlet.Move} {q : Passage}
    (later : p.run? moves = some q) : moves.count .work ≤ p.outlet.effort
  /-- If it has ended and no frame was refused, everything is written once, and one farewell. -/
  complete (ended : p.outlet.writer.ended = true) (taken : p.outlet.socket.refused = none) :
    p.outlet.handles = 0 ∧ p.outlet.writer.written = p.accepted.map .text ++ [.close]
  /-- If a text was refused, the writer has ended, the connection is closed, and what was accepted
  before that text is all that is written. -/
  broken {text : String} (refused : p.outlet.socket.refused = some (.text text)) :
    p.outlet.writer.ended = true ∧ p.outlet.outbox.closing = true ∧
      ∃ texts, p.outlet.writer.written = texts.map .text ∧ texts ++ [text] <+: p.accepted
  /-- If the farewell was refused, the writer has ended too, and everything is written. -/
  unparted (refused : p.outlet.socket.refused = some .close) :
    p.outlet.writer.ended = true ∧ p.outlet.handles = 0 ∧
      p.outlet.writer.written = p.accepted.map .text
  /-- The connection is closed by whoever wants it closed and by a text that was refused, but not by
  a farewell that was. -/
  closing_iff : p.outlet.outbox.closing = true ↔
    .close ∈ moves ∨ ∃ text, p.outlet.socket.refused = some (.text text)
  /-- The socket never took more frames than it takes. -/
  bound : ∀ n ∈ limit, p.outlet.writer.written.length ≤ n
  /-- It did not refuse a frame as long as it takes more frames than texts were accepted. -/
  taken (enough : ∀ n ∈ limit, p.accepted.length < n) : p.outlet.socket.refused = none

/-- A writer that has ended without a refusal has written everything, and nobody holds its
connection. -/
theorem Stands.complete (hp : p.Stands) (ended : p.outlet.writer.ended = true)
    (taken : p.outlet.socket.refused = none) :
    p.outlet.handles = 0 ∧ p.outlet.writer.written = p.accepted.map .text ++ [.close] := by
  cases hp with
  | working texts working => cases working.symm.trans ended
  | finished halted deserted taken written => exact ⟨deserted, written⟩
  | unparted halted deserted refused | broken _ _ _ halted closing refused =>
    cases taken.symm.trans refused

/-- A text that was `refused` is the first one that is not written. -/
theorem Stands.exists_lost (hp : p.Stands) (refused : p.outlet.socket.refused = some (.text text)) :
    p.outlet.writer.ended = true ∧ p.outlet.outbox.closing = true ∧
      ∃ texts, p.outlet.writer.written = texts.map .text ∧ texts ++ [text] <+: p.accepted := by
  cases hp with
  | working texts working listening taken | finished halted deserted taken =>
    cases taken.symm.trans refused
  | unparted halted deserted refused' => cases refused'.symm.trans refused
  | broken texts lost rest halted closing refused' written accepted =>
    cases refused'.symm.trans refused
    refine ⟨halted.ended, closing, texts, written, rest, ?_⟩
    rw [accepted, List.append_assoc, List.singleton_append]

/-- `step?` makes the outbox `closing` by `.close`, or when the socket refuses a text. What was
`refused` stays so. -/
theorem Stands.closing_step {move : Outlet.Move} (hp : p.Stands) (h : p.step? move = some q) :
    (q.outlet.outbox.closing = true ↔ move = .close ∨ p.outlet.outbox.closing = true ∨
      ∃ text, q.outlet.socket.refused = some (.text text)) ∧
      ∀ text, p.outlet.socket.refused = some (.text text) →
        q.outlet.socket.refused = some (.text text) := by
  -- a text was refused only if the connection is closed already
  have hlost : (∃ text, p.outlet.socket.refused = some (.text text)) →
      p.outlet.outbox.closing = true := fun ⟨_, hrefused⟩ => (hp.exists_lost hrefused).2.1
  cases move with
  | send text =>
    obtain ⟨-, h⟩ := Option.ite_none_right_eq_some.1 h
    cases h
    refine ⟨?_, fun _ h => h⟩
    rw [show (p.offer text).outlet.outbox.closing = p.outlet.outbox.closing from
      Outbox.closing_offer ..]
    exact ⟨fun h => Or.inr (Or.inl h), fun h => (h.resolve_left nofun).elim id hlost⟩
  | share | release =>
    obtain ⟨-, h⟩ := Option.ite_none_right_eq_some.1 h
    cases h
    exact ⟨⟨fun h => Or.inr (Or.inl h), fun h => (h.resolve_left nofun).elim id hlost⟩,
      fun _ h => h⟩
  | close =>
    cases h
    exact ⟨iff_of_true rfl (Or.inl rfl), fun _ h => h⟩
  | work =>
    obtain ⟨x, hx, rfl⟩ := Option.map_eq_some_iff.1 h
    have hworks : p.outlet.Works x := Outlet.work?_eq_some_iff.1 hx
    have htaken : p.outlet.socket.refused = none := hp.taken hworks
    refine ⟨?_, fun text hrefused => by cases htaken.symm.trans hrefused⟩
    cases hworks with
    | take =>
      exact ⟨fun h => Or.inr (Or.inl h), fun h => (h.resolve_left nofun).elim id hlost⟩
    | @write text hand takes =>
      have hnone : (p.outlet.socket.write (.text text)).refused = none := by
        rw [Socket.write_of_takes takes]
        exact htaken
      refine ⟨fun h => Or.inr (Or.inl h), fun h => (h.resolve_left nofun).elim id ?_⟩
      rintro ⟨text', hrefused⟩
      cases hnone.symm.trans hrefused
    | @fail text hand fails =>
      exact iff_of_true rfl (Or.inr (Or.inr ⟨text, by rw [Socket.write_of_fails fails]⟩))
    | finish =>
      refine ⟨fun h => Or.inr (Or.inl h), fun h => (h.resolve_left nofun).elim id ?_⟩
      rintro ⟨text, hrefused⟩
      -- what is written here is the farewell, and no text
      have hfarewell : (p.outlet.socket.write .close).refused = some (.text text) := hrefused
      cases htakes : p.outlet.socket.takes with
      | true =>
        rw [Socket.write_of_takes htakes, htaken] at hfarewell
        cases hfarewell
      | false =>
        rw [Socket.write_of_fails htakes] at hfarewell
        cases hfarewell

/-- Along `run?`, the outbox is `closing` exactly if `.close` is among the moves or a text was
`refused`; by induction on the moves, with `closing_step` for each of them. -/
theorem Flows.closing_iff {moves : List Outlet.Move} (hp : p.Flows capacity limit)
    (h : p.run? moves = some q) :
    (q.outlet.outbox.closing = true ↔ .close ∈ moves ∨ p.outlet.outbox.closing = true ∨
      ∃ text, q.outlet.socket.refused = some (.text text)) ∧
      ∀ text, p.outlet.socket.refused = some (.text text) →
        q.outlet.socket.refused = some (.text text) := by
  induction moves generalizing p with
  | nil =>
    cases h
    refine ⟨⟨fun h => Or.inr (Or.inl h), fun h => (h.resolve_left nofun).elim id ?_⟩, fun _ h => h⟩
    rintro ⟨text, hrefused⟩
    exact (hp.stands.exists_lost hrefused).2.1
  | cons move moves ih =>
    obtain ⟨r, hr, h⟩ := Option.bind_eq_some_iff.1 h
    obtain ⟨hstep, hsame⟩ := hp.stands.closing_step hr
    obtain ⟨hrest, hsame'⟩ := ih (hp.step hr) h
    refine ⟨?_, fun text hrefused => hsame' text (hsame text hrefused)⟩
    rw [hrest, hstep, List.mem_cons, eq_comm (a := Outlet.Move.close)]
    constructor
    · rintro (hclose | (hmove | hclosing | ⟨text, hrefused⟩) | hlost)
      · exact Or.inl (Or.inr hclose)
      · exact Or.inl (Or.inl hmove)
      · exact Or.inr (Or.inl hclosing)
      · exact Or.inr (Or.inr ⟨text, hsame' text hrefused⟩)
      · exact Or.inr (Or.inr hlost)
    · rintro ((hmove | hclose) | hclosing | hlost)
      · exact Or.inr (Or.inl (Or.inl hmove))
      · exact Or.inl hclose
      · exact Or.inr (Or.inl (Or.inr (Or.inl hclosing)))
      · exact Or.inr (Or.inr hlost)

/-- The outbox is `listening` exactly until the writer has ended. -/
theorem Stands.listening_iff (hp : p.Stands) :
    p.outlet.outbox.listening = true ↔ p.outlet.writer.ended = false := by
  cases hp with
  | working texts working listening => exact iff_of_true listening working
  | finished halted | unparted halted | broken _ _ _ halted =>
    rw [halted.shut, halted.ended]
    exact iff_of_false Bool.false_ne_true Bool.false_ne_true.symm

/-- The socket takes all frames. The last one who holds the connection lets go of it (`.release`)
when the writer has the first text in hand. -/
def leaving : List Outlet.Move := [.send "a", .work, .send "b", .release, .work, .work, .work, .work]

end Passage

end GroupChat
