import GroupChat.Proofs.Server.Moves

/-!
# From the outbox to the socket

A writer waits for its socket, takes one text after the other out of the outbox, and ends when the
socket fails, or when nothing is left and nobody holds the connection any more. What it does next is
settled by where it is and by whether the socket takes one more frame, so a socket is told by how
many frames it takes.

## Main definitions

- `Socket`: how many frames a socket still takes, and the one that it refused.
- `Outlet`: the outbox, the writer and the socket of a connection, and how many hold the connection.
- `Outlet.work?`: what the writer does next.
- `Outlet.Works`: the single things that a writer does.
- `Server.outlet?`: the outlet of a client of a server.

## Main statements

- `Outlet.work?_eq_some_iff`: this is all that a writer does next.
- `Outlet.exists_works`, `Outlet.Works.effort_lt`: when nobody holds the connection, the writer goes
  on until it ends, and each thing that it does leaves less to do.
- `Server.exists_act?_iff`: in a server, writers do the same.
-/

namespace GroupChat

/-- A socket that frames are written to, and that takes as many of them as are `left`. -/
structure Socket where
  /-- How many frames it still takes, if it is going to fail after them. -/
  left : Option Nat
  /-- The frame that it did not take. -/
  refused : Option Written := none
  deriving DecidableEq, Repr

namespace Socket

/-- Whether the socket `s` takes one more frame. -/
def takes (s : Socket) : Bool := s.left != some 0

/-- The socket `s` after a `frame` was written to it. -/
def write (s : Socket) (frame : Written) : Socket :=
  if s.takes then { s with left := s.left.map (· - 1) } else { s with refused := some frame }

/-- A socket that takes `limit` frames, or all frames, took `n` of them. -/
structure Fits (s : Socket) (limit : Option Nat) (n : Nat) : Prop where
  /-- It takes `n` frames fewer than at first. -/
  left : s.left = limit.map (· - n)
  /-- It did not take more than it takes. -/
  bound : ∀ m ∈ limit, n ≤ m
  /-- When there was one that it did not take, it had taken as many as it takes. -/
  refused : s.refused ≠ none → limit = some n

variable {s : Socket} {limit : Option Nat} {n : Nat}

theorem write_of_takes (h : s.takes = true) (frame : Written) :
    s.write frame = { s with left := s.left.map (· - 1) } := if_pos h

theorem write_of_fails (h : s.takes = false) (frame : Written) :
    s.write frame = { s with refused := some frame } := if_neg (h ▸ Bool.false_ne_true)

/-- `write` to a socket that `takes` one more frame. -/
theorem Fits.write_of_takes (hs : s.Fits limit n) (h : s.takes = true) (hnew : s.refused = none)
    (frame : Written) : (s.write frame).Fits limit (n + 1) := by
  rw [Socket.write_of_takes h]
  refine ⟨?_, fun m hm => ?_, fun hrefused => absurd hnew hrefused⟩
  · show s.left.map (· - 1) = _
    rw [hs.left, Option.map_map]
    rfl
  · obtain rfl : limit = some m := hm
    have hleft : m - n ≠ 0 := by
      rintro hzero
      rw [takes, hs.left, Option.map_some, hzero] at h
      cases h
    omega

/-- `write` to a socket that refuses the frame leaves it as it is. -/
theorem Fits.write_of_fails (hs : s.Fits limit n) (h : s.takes = false) (frame : Written) :
    (s.write frame).Fits limit n := by
  rw [Socket.write_of_fails h]
  refine ⟨hs.left, hs.bound, fun _ => ?_⟩
  have hleft : limit.map (· - n) = some 0 := by
    rw [← hs.left]
    exact bne_eq_false_iff_eq.1 h
  obtain ⟨m, hm, hzero⟩ := Option.map_eq_some_iff.1 hleft
  have := hs.bound m hm
  rw [hm]
  congr
  omega

end Socket

/-- The way from the `outbox` of a connection to its `socket`. -/
structure Outlet where
  /-- What waits. -/
  outbox : Outbox
  /-- Who writes it. -/
  writer : Writer := {}
  /-- What it is written to. -/
  socket : Socket
  /-- How many hold the connection, and may put something into the outbox. -/
  handles : Nat := 1

/-- The single things that happen at an `Outlet`. -/
inductive Outlet.Move where
  /-- Somebody who holds the connection offers a text. -/
  | send (text : String)
  /-- Somebody else gets hold of the connection. -/
  | share
  /-- Somebody lets go of the connection. -/
  | release
  /-- The connection is to be closed. -/
  | close
  /-- The writer does what it does next. -/
  | work
  deriving DecidableEq, Repr

namespace Outlet

/-- The outlet of a new connection, whose socket takes `limit` frames, or all frames. -/
def new (capacity : Nat) (dependent : Bool) (limit : Option Nat) : Outlet where
  outbox := .new capacity dependent
  socket := { left := limit }

/-- What the writer does next at `x`: it writes the text in hand, takes another one, or ends when
nothing is left and nobody holds the connection. -/
def work? (x : Outlet) : Option Outlet :=
  match x.writer.inHand with
  | some text =>
    let socket := x.socket.write (.text text)
    if x.socket.takes then x.writer.write?.map fun writer => { x with writer, socket }
    else (x.writer.fail? x.outbox).map fun (writer, outbox) => { x with writer, outbox, socket }
  | none =>
    match x.writer.take? x.outbox with
    | some (writer, outbox) => some { x with writer, outbox }
    | none =>
      if x.handles = 0 then
        (x.writer.finish? x.outbox x.socket.takes).map fun (writer, outbox) =>
          { x with writer, outbox, socket := x.socket.write .close }
      else none

/-- The single things that a writer does at `x`, one for each branch of `work?`. -/
inductive Works (x : Outlet) : Outlet → Prop where
  /-- It takes the text that has waited longest. -/
  | take {text : String} {rest : List String} (working : x.writer.ended = false)
      (free : x.writer.inHand = none) (waiting : x.outbox.queue = text :: rest) :
      Works x { x with
        writer := { x.writer with inHand := some text }
        outbox := x.outbox.drop 1 }
  /-- It writes the text in hand. -/
  | write {text : String} (hand : x.writer.inHand = some text) (takes : x.socket.takes = true) :
      Works x { x with
        writer := { x.writer with inHand := none, written := x.writer.written ++ [.text text] }
        socket := x.socket.write (.text text) }
  /-- It cannot write the text in hand, and ends. -/
  | fail {text : String} (hand : x.writer.inHand = some text) (fails : x.socket.takes = false) :
      Works x { x with
        writer := { x.writer with inHand := none, ended := true }
        outbox := x.outbox.close.hangUp
        socket := x.socket.write (.text text) }
  /-- It says farewell, and ends. -/
  | finish (working : x.writer.ended = false) (free : x.writer.inHand = none)
      (empty : x.outbox.queue = []) (deserted : x.handles = 0) :
      Works x { x with
        writer := { x.writer with
          written := x.writer.written ++ if x.socket.takes then [.close] else []
          ended := true }
        outbox := x.outbox.hangUp
        socket := x.socket.write .close }

/-- How many things the writer will do at most at `x`, when nothing more is put in. -/
def effort (x : Outlet) : Nat :=
  if x.writer.ended then 0 else 2 * x.outbox.queue.length + x.writer.inHand.toList.length + 1

variable {x y : Outlet}

/-- `work?` does one of the four things that `Works` names. -/
theorem works_of_work? (h : x.work? = some y) : x.Works y := by
  unfold work? at h
  split at h
  · dsimp only at h
    split at h
    · -- a text is in hand, and the socket takes it
      rename_i htakes
      obtain ⟨writer, hwrite, rfl⟩ := Option.map_eq_some_iff.1 h
      obtain ⟨text, hhand, rfl⟩ := Writer.write?_eq_some_iff.1 hwrite
      rename_i hhand'
      cases hhand'.symm.trans hhand
      exact .write hhand htakes
    · rename_i text hhand hfails
      obtain ⟨⟨writer, outbox⟩, hfail, rfl⟩ := Option.map_eq_some_iff.1 h
      obtain ⟨text', hhand', rfl, rfl⟩ := Writer.fail?_eq_some_iff.1 hfail
      cases hhand'.symm.trans hhand
      exact .fail hhand (Bool.not_eq_true _ ▸ hfails)
  · split at h
    · -- no text is in hand, but one waits
      rename_i writer outbox htake
      obtain ⟨hworking, hfree, text, rest, hqueue, rfl, rfl⟩ := Writer.take?_eq_some_iff.1 htake
      cases h
      exact .take hworking hfree hqueue
    · split at h
      · rename_i hdeserted
        obtain ⟨⟨writer, outbox⟩, hfinish, rfl⟩ := Option.map_eq_some_iff.1 h
        obtain ⟨hworking, hfree, hempty, rfl, rfl⟩ := Writer.finish?_eq_some_iff.1 hfinish
        exact .finish hworking hfree hempty hdeserted
      · cases h

/-- Each thing that `Works` names is what `work?` does there, as no other one is possible. -/
theorem Works.work? (h : x.Works y) : x.work? = some y := by
  unfold Outlet.work?
  cases h with
  | take working free waiting =>
    rw [free, Writer.take?_eq_some_iff.2 ⟨working, free, _, _, waiting, rfl, rfl⟩]
  | write hand takes =>
    rw [hand]
    dsimp only
    rw [if_pos takes, Writer.write?_eq_some_iff.2 ⟨_, hand, rfl⟩, Option.map_some]
  | fail hand fails =>
    rw [hand]
    dsimp only
    rw [if_neg (fails ▸ Bool.false_ne_true), Writer.fail?_eq_some_iff.2 ⟨_, hand, rfl, rfl⟩,
      Option.map_some]
  | finish working free empty deserted =>
    -- the farewell comes only when nothing waits
    have hnothing : x.writer.take? x.outbox = none := by
      simp only [Writer.take?, working, free, empty]
    rw [free, hnothing, if_pos deserted,
      Writer.finish?_eq_some_iff.2 ⟨working, free, empty, rfl, rfl⟩, Option.map_some]

/-- `work?` does exactly what `Works` lists. -/
theorem work?_eq_some_iff : x.work? = some y ↔ x.Works y := ⟨works_of_work?, Works.work?⟩

theorem Works.capacity (h : x.Works y) : y.outbox.capacity = x.outbox.capacity := by
  cases h <;> rfl

theorem Works.handles (h : x.Works y) : y.handles = x.handles := by
  cases h <;> rfl

/-- `Works` keeps that what is left of the socket `Fits` what was written. -/
theorem Works.fits {limit : Option Nat} (h : x.Works y)
    (hfits : x.socket.Fits limit x.writer.written.length) (taken : x.socket.refused = none) :
    y.socket.Fits limit y.writer.written.length := by
  cases h with
  | take => exact hfits
  | write hand takes =>
    rw [List.length_append]
    exact hfits.write_of_takes takes taken _
  | fail hand fails => exact hfits.write_of_fails fails _
  | finish =>
    rw [List.length_append]
    cases htakes : x.socket.takes with
    | true => exact hfits.write_of_takes htakes taken _
    | false => exact hfits.write_of_fails htakes _

end Outlet

namespace Server

/-! ### Writers of a server -/

/-- The steps of a server that are done by the writer of the client `id`. -/
def writing (id : String) : List Action :=
  [.take id, .write id, .fail id, .finish id true, .finish id false]

/-- The outlet of a client, when its socket still takes `left` frames, or all frames. -/
def outlet? (s : Server) (id : String) (left : Option Nat) : Option Outlet := do
  let writer ← s.writers.get? id
  let outbox ← s.lines.get? id
  pure { outbox, writer, socket := { left }, handles := if s.holds id then 1 else 0 }

/-- The server after the writer of the client `id` did something at its outlet, which is now `x`. -/
def putOutlet (s : Server) (id : String) (x : Outlet) : Server :=
  { s with writers := s.writers.insert id x.writer, lines := s.lines.connect id x.outbox }

variable {s t : Server} {id : String} {w : Writer} {o : Outbox}

theorem outlet?_of_get? (hw : s.writers.get? id = some w) (ho : s.lines.get? id = some o)
    (left : Option Nat) : s.outlet? id left =
      some { outbox := o, writer := w, socket := { left }, handles := if s.holds id then 1 else 0 } := by
  rw [outlet?, hw, ho]
  rfl

/-- `outlet?` is made of the writer and the outbox of the client. -/
theorem outlet?_eq_some {left : Option Nat} {x : Outlet} (h : s.outlet? id left = some x) :
    ∃ w o, s.writers.get? id = some w ∧ s.lines.get? id = some o ∧
      x = { outbox := o, writer := w, socket := { left }, handles := if s.holds id then 1 else 0 } := by
  obtain ⟨w, hw, h⟩ := Option.bind_eq_some_iff.1 h
  obtain ⟨o, ho, h⟩ := Option.bind_eq_some_iff.1 h
  exact ⟨w, o, hw, ho, (Option.some.inj h).symm⟩

/-- `.finish` of a client in a server is what its outlet `Works`, whether the socket takes the
farewell or not. -/
theorem works_of_finish? (left : Option Nat)
    (h : s.act? (.finish id (Socket.takes { left })) = some t) :
    ∃ left x y, s.outlet? id left = some x ∧ x.Works y ∧ t = s.putOutlet id y := by
  obtain ⟨hdeserted, h⟩ := Option.ite_none_left_eq_some.1 h
  obtain ⟨w, o, w', o', hw, ho, hf, rfl⟩ := onWriter_eq_some_iff.1 h
  obtain ⟨hworking, hfree, hempty, rfl, rfl⟩ := Writer.finish?_eq_some_iff.1 hf
  exact ⟨left, _, _, outlet?_of_get? hw ho _,
    .finish hworking hfree hempty (if_neg hdeserted), rfl⟩

/-- An action of `writing` in a server is what the outlet of the client `Works`. -/
theorem works_of_act? {a : Action} (ha : a ∈ writing id) (h : s.act? a = some t) :
    ∃ left x y, s.outlet? id left = some x ∧ x.Works y ∧ t = s.putOutlet id y := by
  simp only [writing, List.mem_cons, List.not_mem_nil, or_false] at ha
  rcases ha with rfl | rfl | rfl | rfl | rfl
  · obtain ⟨w, o, w', o', hw, ho, hf, rfl⟩ := onWriter_eq_some_iff.1 h
    obtain ⟨hworking, hfree, text, rest, hqueue, rfl, rfl⟩ := Writer.take?_eq_some_iff.1 hf
    exact ⟨none, _, _, outlet?_of_get? hw ho _, .take hworking hfree hqueue, rfl⟩
  · obtain ⟨w, o, w', o', hw, ho, hf, rfl⟩ := onWriter_eq_some_iff.1 h
    obtain ⟨x, hx, hf⟩ := Option.map_eq_some_iff.1 hf
    obtain ⟨text, hhand, rfl⟩ := Writer.write?_eq_some_iff.1 hx
    cases hf
    exact ⟨none, _, _, outlet?_of_get? hw ho _, .write hhand rfl, rfl⟩
  · obtain ⟨w, o, w', o', hw, ho, hf, rfl⟩ := onWriter_eq_some_iff.1 h
    obtain ⟨text, hhand, rfl, rfl⟩ := Writer.fail?_eq_some_iff.1 hf
    exact ⟨some 0, _, _, outlet?_of_get? hw ho _, .fail hhand rfl, rfl⟩
  · exact works_of_finish? none h
  · exact works_of_finish? (some 0) h

/-- What the outlet of a client `Works` is an action of `writing` in the server. -/
theorem exists_act?_of_works {left : Option Nat} {x y : Outlet} (hx : s.outlet? id left = some x)
    (h : x.Works y) : ∃ a ∈ writing id, s.act? a = some (s.putOutlet id y) := by
  obtain ⟨w, o, hw, ho, rfl⟩ := outlet?_eq_some hx
  cases h with
  | take working free waiting =>
    refine ⟨.take id, by simp [writing], onWriter_eq_some_iff.2 ⟨w, o, _, _, hw, ho, ?_, rfl⟩⟩
    exact Writer.take?_eq_some_iff.2 ⟨working, free, _, _, waiting, rfl, rfl⟩
  | write hand takes =>
    refine ⟨.write id, by simp [writing], onWriter_eq_some_iff.2 ⟨w, o, _, _, hw, ho, ?_, rfl⟩⟩
    rw [Writer.write?_eq_some_iff.2 ⟨_, hand, rfl⟩, Option.map_some]
  | fail hand fails =>
    refine ⟨.fail id, by simp [writing], onWriter_eq_some_iff.2 ⟨w, o, _, _, hw, ho, ?_, rfl⟩⟩
    exact Writer.fail?_eq_some_iff.2 ⟨_, hand, rfl, rfl⟩
  | finish working free empty deserted =>
    -- the server holds the connection no more
    have hlast : ¬ s.holds id = true := fun hheld => by
      rw [if_pos hheld] at deserted
      cases deserted
    refine ⟨.finish id (Socket.takes { left }), ?_, (if_neg hlast).trans
      (onWriter_eq_some_iff.2 ⟨w, o, _, _, hw, ho, ?_, rfl⟩)⟩
    · cases Socket.takes { left } <;> simp [writing]
    · exact Writer.finish?_eq_some_iff.2 ⟨working, free, empty, rfl, rfl⟩

/-- The actions of `writing` in a server are exactly what the outlet `Works`, for some socket. -/
theorem exists_act?_iff : (∃ a ∈ writing id, s.act? a = some t) ↔
    ∃ left x y, s.outlet? id left = some x ∧ x.Works y ∧ t = s.putOutlet id y := by
  constructor
  · rintro ⟨a, ha, h⟩
    exact works_of_act? ha h
  · rintro ⟨left, x, y, hx, hworks, rfl⟩
    exact exists_act?_of_works hx hworks

end Server

end GroupChat
