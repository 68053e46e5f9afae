import GroupChat.Server.Basic

/-!
# Settling

A server that nobody disturbs comes to rest: everything that arrived is read, handled and written,
and only time or a client can bring about more. Of the orders in which this may happen one is fixed
here: writers go first, then the hub, then the clients.

## Main definitions

- `Server.settle`: the server at rest.
- `Server.perform`: the server at rest after a step.
- `Server.pass`: the server at rest after a time.

## Main statements

- `Server.reachable_settle`, `Server.reachable_perform`, `Server.reachable_pass`: all of this is
  done in single steps.
-/

namespace GroupChat.Server

/-! ### Writers -/

/-- The steps of the writer of the client `id`, in the order in which they are tried. A client that
has torn down its connection takes nothing. -/
def writerMoves (s : Server) (id : String) : List Action :=
  if (s.sessions.get? id).any Session.hungUp then [.fail id, .take id, .finish id false]
  else [.write id, .take id, .finish id true]

/-- The server after up to `n` steps of a writer. -/
def runWriter (id : String) : Nat → Server → Server
  | 0, s => s
  | n + 1, s =>
    match (s.writerMoves id).findSome? s.act? with
    | some t => runWriter id n t
    | none => s

/-- The server `s` when the writer of the client `id` has written what waits. -/
def flush (s : Server) (id : String) : Server :=
  runWriter id (2 * ((s.lines.waiting id).getD []).length + 2) s

/-- The server `s` when all writers have written what waits. -/
def flushAll (s : Server) : Server := s.writers.keys.foldl flush s

/-! ### The hub and the clients -/

/-- The steps of the client `id`, in the order in which they are tried. -/
def clientMoves (id : String) : List Action :=
  [.approach id, .post id, .start id, .read id, .notice id, .timeOut id]

/-- The steps of the hub and the clients of `s`, in the order in which they are tried. -/
def moves (s : Server) : List Action :=
  .handle :: s.sessions.keys.flatMap clientMoves ++ [.retire, .proceed]

/-- How many steps of the hub and the clients of `s` are possible at most. -/
def work (s : Server) : Nat :=
  s.sessions.values.foldl (fun n session => n + session.work) (s.queue.length + 9)

/-- The server after up to `n` steps of the hub and the clients. -/
def run : Nat → Server → Server
  | 0, s => s.flushAll
  | n + 1, s =>
    let s := s.flushAll
    match s.moves.findSome? s.act? with
    | some t => run n t
    | none => s

/-- The server `s` at rest. -/
def settle (s : Server) : Server := s.run s.work

/-- The server `s` at rest after a step, if that is possible. -/
def perform (s : Server) (a : Action) : Server := ((s.act? a).getD s).settle

/-! ### Time -/

/-- The times at which a silent client of `s` is given up, the earliest first. -/
def deadlines (s : Server) : List Nat :=
  (s.sessions.values.filterMap (·.deadline s.patience)).mergeSort

/-- The server `s` at a time, if that is not over. -/
def reach (s : Server) (time : Nat) : Server := s.perform (.wait (time - s.clock))

/-- The server `s` at rest after a time. Clients are given up one after the other. -/
def pass (s : Server) (milliseconds : Nat) : Server :=
  let time := s.clock + milliseconds
  ((s.deadlines.filter (· ≤ time)).foldl reach s).reach time

/-! ### Single steps -/

theorem reachable_of_findSome {s t : Server} {as : List Action}
    (h : as.findSome? s.act? = some t) : Reachable s t := by
  obtain ⟨a, -, ha⟩ := List.exists_of_findSome?_eq_some h
  exact .step a .refl ha

theorem reachable_foldl {α : Type} {f : Server → α → Server} (hf : ∀ s a, Reachable s (f s a))
    (as : List α) (s : Server) : Reachable s (as.foldl f s) := by
  induction as generalizing s with
  | nil => exact .refl
  | cons a as ih => exact (hf s a).trans (ih (f s a))

theorem reachable_runWriter (id : String) (n : Nat) (s : Server) :
    Reachable s (runWriter id n s) := by
  induction n generalizing s with
  | zero => exact .refl
  | succ n ih =>
    rw [runWriter]
    split
    · next t h => exact (reachable_of_findSome h).trans (ih t)
    · exact .refl

theorem reachable_flushAll (s : Server) : Reachable s s.flushAll :=
  reachable_foldl (fun s id => reachable_runWriter id _ s) _ s

/-- `run` takes steps that are possible only. -/
theorem reachable_run (n : Nat) (s : Server) : Reachable s (s.run n) := by
  induction n generalizing s with
  | zero => exact reachable_flushAll s
  | succ n ih =>
    rw [run]
    split
    · next t h => exact (reachable_flushAll s).trans ((reachable_of_findSome h).trans (ih t))
    · exact reachable_flushAll s

/-- `settle` takes single steps only. -/
theorem reachable_settle (s : Server) : Reachable s s.settle := reachable_run _ s

/-- `perform` takes its action if that is possible, and then whatever else is. -/
theorem reachable_perform (s : Server) (a : Action) : Reachable s (s.perform a) := by
  unfold perform
  cases h : s.act? a with
  | none => exact reachable_settle s
  | some t => exact (Reachable.step a .refl h).trans (reachable_settle t)

/-- `pass` lets time go on, and takes steps that are possible meanwhile. -/
theorem reachable_pass (s : Server) (milliseconds : Nat) :
    Reachable s (s.pass milliseconds) :=
  (reachable_foldl (fun s time => reachable_perform s (.wait (time - s.clock))) _ s).trans
    (reachable_perform _ _)

end GroupChat.Server
