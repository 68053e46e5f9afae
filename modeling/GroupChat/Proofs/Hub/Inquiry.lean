import GroupChat.Hub.Inquiry
import GroupChat.Proofs.Hub.Answer
import GroupChat.Proofs.Hub.Lookup

/-!
# Questions

A question changes nothing, and its answer goes to whoever asked.

## Main definitions

- `Turn.Replies`: a question was answered.
- `usersResult`: the answer to a question for accounts.

## Main statements

- `getUsers_shows`: what is answered to a question for accounts.
- `getUsers_gives`, `getChats_gives`, `getNotifications_gives`, `userRooms_gives`: the requests.
-/

namespace GroupChat.Hub

open Wire

/-- Between `t` and `u` a question of the kind `event` was answered to `c`, and nothing else
happened. -/
def Turn.Replies (t u : Turn) (c : Connection) (event : String) : Prop :=
  ∃ result, t.Becomes u t.hub.rooms t.hub.store [.send c (.success (replyWith event result))]

variable {t u : Turn}

/-- A turn that `Asks` and then runs `reply` has `Replies` as a whole. -/
theorem Turn.Asks.replies {s : Turn} (h : t.Asks s) (c : Connection) (event : String)
    (result : Json) : Step.Gives (reply c event result) s fun _ u => t.Replies u c event := by
  refine (reply_gives c event result s).mono fun _ u hu => ⟨result, ?_⟩
  rw [h.rooms, h.store] at hu
  exact h.becomes hu

/-- `userResults` shows each account with whether `onlineCount` is above zero; one failing count
fails the request. -/
theorem userResults_gives (accounts : List Account) (t : Turn) :
    Request.Gives (userResults accounts) t (fun _ u => t.Asks u ∧ ¬ t.hub.Calm)
      fun users u => t.Asks u ∧
        users = accounts.map fun a => userResult a (0 < t.hub.store.onlineCount a.id) := by
  induction accounts generalizing t with
  | nil => exact Request.gives_pure ⟨Turn.Asks.refl t, rfl⟩
  | cons account accounts ih =>
    rw [userResults]
    refine (orFail_ask_gives _ _ t).bind (fun _ _ h => ⟨h.1, h.2.1⟩) ?_
    rintro count s ⟨hs, rfl⟩
    refine (ih s).bind (fun _ _ h => ⟨hs.trans h.1, fun hcalm => h.2 (hs.calm hcalm)⟩) ?_
    rintro users u ⟨hu, rfl⟩
    refine Request.gives_pure ⟨hs.trans hu, ?_⟩
    rw [List.map_cons, hs.store]

/-- The accounts of a `name`, as `userResult` shows them with what the store has counted. -/
def usersResult (s : Store) (name : String) : Json :=
  .object [("users",
    .list ((s.accountsNamed name).map fun a => userResult a (0 < s.onlineCount a.id)))]

/-- `getUsers` under calm answers with the accounts that the store finds, each shown online or not.
-/
theorem getUsers_shows (c : Connection) (r : SearchRequest) (t : Turn) :
    Request.Gives (getUsers c r) t (fun _ u => t.Asks u ∧ ¬ t.hub.Calm)
      fun _ u => t.Becomes u t.hub.rooms t.hub.store
        [.send c (.success (replyWith "get-users" (usersResult t.hub.store r.name)))] := by
  unfold getUsers
  refine (orFail_ask_gives _ _ t).bind (fun _ _ h => ⟨h.1, h.2.1⟩) ?_
  rintro accounts s ⟨hs, rfl⟩
  refine (userResults_gives _ s).bind
    (fun _ _ h => ⟨hs.trans h.1, fun hcalm => h.2 (hs.calm hcalm)⟩) ?_
  rintro users u ⟨hu, rfl⟩
  have hu := hs.trans hu
  refine Request.Gives.lift ((reply_gives c _ _ u).mono fun _ v hv => ?_)
  rw [hu.rooms, hu.store, hs.store] at hv
  exact hu.becomes hv

/-- `getUsers` only asks the store and replies. -/
theorem getUsers_gives (c : Connection) (r : SearchRequest) (t : Turn) :
    Request.Gives (getUsers c r) t (fun _ u => t.Asks u)
      fun _ u => t.Replies u c "get-users" :=
  (getUsers_shows c r t).mono (fun _ _ h => h.1) fun _ _ h => ⟨_, h⟩

/-- `getChats` only asks the store and replies. -/
theorem getChats_gives (hc : t.hub.Coherent) (c : Connection) (r : RangeRequest) :
    Request.Gives (getChats c r) t (fun _ u => t.Asks u)
      fun _ u => t.Replies u c "get-chats" := by
  unfold getChats
  refine (memberRoom_gives hc c r.room).bind (fun _ _ h => h.1) ?_
  rintro room s ⟨hs, -⟩
  refine (orFail_ask_gives _ _ s).bind (fun _ _ h => hs.trans h.1) ?_
  rintro messages u ⟨hu, -⟩
  exact Request.Gives.lift ((hs.trans hu).replies c _ _)

theorem getNotifications_gives (hc : t.hub.Coherent) (c : Connection) (r : RangeRequest) :
    Request.Gives (getNotifications c r) t (fun _ u => t.Asks u)
      fun _ u => t.Replies u c "get-notifs" := by
  unfold getNotifications
  refine (memberRoom_gives hc c r.room).bind (fun _ _ h => h.1) ?_
  rintro room s ⟨hs, -⟩
  refine (orFail_ask_gives _ _ s).bind (fun _ _ h => hs.trans h.1) ?_
  rintro notifications u ⟨hu, -⟩
  exact Request.Gives.lift ((hs.trans hu).replies c _ _)

theorem userRooms_gives (c : Connection) (t : Turn) :
    Request.Gives (userRooms c) t (fun _ u => t.Asks u)
      fun _ u => t.Replies u c "user-rooms" := by
  unfold userRooms
  refine (orFail_ask_gives _ _ t).bind (fun _ _ h => h.1) ?_
  rintro memberships s ⟨hs, -⟩
  exact Request.Gives.lift (hs.replies c _ _)

end GroupChat.Hub
