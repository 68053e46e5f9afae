import GroupChat.Store.History
import Mathlib.Data.List.Basic

/-!
# Reading history

Messages and notifications are read in the same way: of all that is kept, what belongs to a room and
lies between two times is put in order of time. A list in order of time is determined by what it
holds of each moment. As the order among records of one moment is the one in which they were kept,
it is known of each moment what a reading holds of it, and everything else follows: readings of
consecutive ranges make up the reading of the whole range, and a later reading holds an earlier one.

## Main definitions

- `HistoryCall`: adds a message or a notification.
- `readBetween`: what is read of a room between two times.
- `Reads`: what a reading must be.
- `Readable`: all readings are so, and can be made in parts.

## Main statements

- `sublist_of_atMoment`: lists in order of time are compared moment by moment.
- `atMoment_readBetween`: what a reading holds of one moment.
- `readBetween_append`, `readBetween_sublist`: readings in parts, and earlier readings.
- `Store.readable_of_calls`: what is read after any sequence of calls.
-/

namespace GroupChat

/-! ### Lists in order of time -/

section Order

variable {α : Type} {time : α → Int64} {l l₁ l₂ : List α}

/-- The records of `l` are in the order of their `time`. -/
def Ordered (time : α → Int64) (l : List α) : Prop := l.Pairwise fun a b => time a ≤ time b

/-- The records of `l` from the moment `t`. -/
def atMoment (time : α → Int64) (t : Int64) (l : List α) : List α := l.filter fun a => time a = t

theorem mem_atMoment {a : α} {t : Int64} : a ∈ atMoment time t l ↔ a ∈ l ∧ time a = t := by
  rw [atMoment, List.mem_filter, decide_eq_true_iff]

theorem atMoment_cons (a : α) (l : List α) (t : Int64) :
    atMoment time t (a :: l) = if time a = t then a :: atMoment time t l else atMoment time t l := by
  rw [atMoment, List.filter_cons]
  by_cases ht : time a = t
  · rw [if_pos ht, if_pos (decide_eq_true ht), atMoment]
  · rw [if_neg ht, if_neg (by simpa using ht), atMoment]

theorem Ordered.time_le {a b : α} (h : Ordered time (b :: l)) (ha : a ∈ b :: l) :
    time b ≤ time a := by
  rcases List.mem_cons.1 ha with rfl | ha
  · exact Int64.le_refl _
  · exact List.rel_of_pairwise_cons h ha

/-- Of two `Ordered` lists, one is a sublist of the other if it is so `atMoment` by moment. -/
theorem sublist_of_atMoment (h₁ : Ordered time l₁) (h₂ : Ordered time l₂)
    (h : ∀ t, (atMoment time t l₁).Sublist (atMoment time t l₂)) : l₁.Sublist l₂ := by
  have hsubset : ∀ {l₁ l₂ : List α}, (∀ t, (atMoment time t l₁).Sublist (atMoment time t l₂)) →
      ∀ a ∈ l₁, a ∈ l₂ := by
    intro l₁ l₂ h a ha
    exact (mem_atMoment.1 ((h (time a)).subset (mem_atMoment.2 ⟨ha, rfl⟩))).1
  induction l₂ generalizing l₁ with
  | nil => rw [List.eq_nil_iff_forall_not_mem.2 fun a ha => List.not_mem_nil (hsubset h a ha)]
  | cons b l₂ ih =>
    cases l₁ with
    | nil => exact List.nil_sublist _
    | cons a l₁ =>
      by_cases hab : a = b
      · -- both begin with the same record
        subst hab
        refine (ih h₁.of_cons h₂.of_cons fun t => ?_).cons_cons a
        have ht := h t
        rw [atMoment_cons, atMoment_cons] at ht
        split_ifs at ht
        · exact List.cons_sublist_cons.1 ht
        · exact ht
      · -- the second one begins with a record that the first one does not hold at that moment
        refine (ih h₁ h₂.of_cons fun t => ?_).cons b
        have ht := h t
        rw [atMoment_cons b] at ht
        split_ifs at ht with hb
        · rcases List.sublist_cons_iff.1 ht with ht | ⟨r, hr, -⟩
          · exact ht
          · have hmem : b ∈ a :: l₁ := (mem_atMoment.1 (hr ▸ List.mem_cons_self)).1
            have hfirst : time a = t := by
              refine Int64.le_antisymm (hb ▸ h₁.time_le hmem) ?_
              exact hb ▸ h₂.time_le (hsubset h a List.mem_cons_self)
            rw [atMoment_cons, if_pos hfirst] at hr
            exact absurd (List.cons.inj hr).1 hab
        · exact ht

theorem eq_of_atMoment (h₁ : Ordered time l₁) (h₂ : Ordered time l₂)
    (h : ∀ t, atMoment time t l₁ = atMoment time t l₂) : l₁ = l₂ := by
  apply List.Sublist.antisymm
  · exact sublist_of_atMoment h₁ h₂ fun t => h t ▸ List.Sublist.refl _
  · exact sublist_of_atMoment h₂ h₁ fun t => h t ▸ List.Sublist.refl _

/-- The records of `l` in the order of their `time`, those of one moment as they were. -/
def inOrder (time : α → Int64) (l : List α) : List α := l.mergeSort fun a b => time a ≤ time b

theorem ordered_of_pairwise
    (h : l.Pairwise fun a b => decide (time a ≤ time b) = true) : Ordered time l :=
  h.imp fun hab => of_decide_eq_true hab

section Sorting

variable (time l)

theorem time_trans (a b c : α) (hab : decide (time a ≤ time b) = true)
    (hbc : decide (time b ≤ time c) = true) : decide (time a ≤ time c) = true :=
  decide_eq_true (Int64.le_trans (of_decide_eq_true hab) (of_decide_eq_true hbc))

theorem time_total (a b : α) : (decide (time a ≤ time b) || decide (time b ≤ time a)) = true := by
  rw [Bool.or_eq_true, decide_eq_true_iff, decide_eq_true_iff]
  exact Int64.le_total _ _

theorem ordered_inOrder : Ordered time (inOrder time l) :=
  ordered_of_pairwise (List.pairwise_mergeSort (time_trans time) (time_total time) l)

/-- `inOrder` is stable: records of one moment stay in the order in which they were. -/
theorem atMoment_inOrder (t : Int64) : atMoment time t (inOrder time l) = atMoment time t l := by
  have hperm : (atMoment time t (inOrder time l)).Perm (atMoment time t l) :=
    (List.mergeSort_perm l _).filter _
  have hsorted : (atMoment time t l).Pairwise fun a b => decide (time a ≤ time b) = true := by
    refine List.pairwise_of_forall_mem_list fun a ha b hb => decide_eq_true ?_
    rw [(mem_atMoment.1 ha).2, (mem_atMoment.1 hb).2]
    exact Int64.le_refl t
  -- sorting is stable: what is sorted already keeps its order
  have hsublist : (atMoment time t l).Sublist (inOrder time l) :=
    List.sublist_mergeSort (time_trans time) (time_total time) hsorted List.filter_sublist
  -- and no more items than these are from this moment
  have hboth : (atMoment time t l).Sublist (atMoment time t (inOrder time l)) := by
    have hfilter := hsublist.filter fun a => decide (time a = t)
    rwa [List.filter_eq_self.2 fun a ha => decide_eq_true (mem_atMoment.1 ha).2] at hfilter
  exact (hboth.eq_of_length hperm.length_eq.symm).symm

end Sorting

end Order

/-! ### Reading a room -/

section Reading

variable {α : Type} (room : α → String) (time : α → Int64)

/-- The record `a` belongs to the room `k` and lies between `since` and `upTo`, of which the latter
may be missing. -/
def Wanted (k : String) (since : Int64) (upTo : Option Int64) (a : α) : Prop :=
  room a = k ∧ since ≤ time a ∧ ∀ last ∈ upTo, time a ≤ last

theorem inRange_iff {since t : Int64} {upTo : Option Int64} :
    inRange since upTo t = true ↔ since ≤ t ∧ ∀ last ∈ upTo, t ≤ last := by
  cases upTo <;> simp [inRange]

-- The times up to an end are compared with it, as there are too many to try them all.
instance (k : String) (since : Int64) (upTo : Option Int64) :
    DecidablePred (Wanted room time k since upTo) :=
  fun a => decidable_of_iff (room a = k ∧ inRange since upTo (time a) = true)
    (and_congr_right fun _ => inRange_iff)

/-- What is read of the room `k` between `since` and `upTo`. -/
def readBetween (kept : List α) (k : String) (since : Int64) (upTo : Option Int64) : List α :=
  inOrder time (kept.filter fun a => room a == k && inRange since upTo (time a))

/-- What a reading must be, where `kept` is all that was kept, in the order in which it was. -/
structure Reads (kept : List α) (k : String) (since : Int64) (upTo : Option Int64)
    (page : List α) : Prop where
  /-- It holds each record of the room between the two times, as often as it was kept. -/
  wanted : page.Perm (kept.filter (Wanted room time k since upTo))
  /-- Older records come first. -/
  ordered : Ordered time page
  /-- Records of one time are in the order in which they were kept. -/
  stable : ∀ t, atMoment time t page = atMoment time t (kept.filter (Wanted room time k since upTo))

/-- Whatever `read` gives is as it must be (`Reads`), and a range can be read in two parts. -/
structure Readable (kept : List α) (read : String → Int64 → Option Int64 → List α) : Prop where
  /-- Each reading is as it must be. -/
  reads : ∀ k since upTo, Reads room time kept k since upTo (read k since upTo)
  /-- The reading up to `m` and the one from the next time on make up the whole. Where the range has
  no end, it ends with the last of all times. -/
  parts : ∀ k since m upTo, since ≤ m → m < upTo.getD Int64.maxValue →
    read k since (some m) ++ read k (m + 1) upTo = read k since upTo

variable {room time}
variable {kept : List α} {k : String} {since m : Int64} {upTo : Option Int64}

/-- `readBetween` sorts what is `Wanted`. -/
theorem readBetween_eq (kept : List α) (k : String) (since : Int64) (upTo : Option Int64) :
    readBetween room time kept k since upTo =
      inOrder time (kept.filter (Wanted room time k since upTo)) := by
  rw [readBetween]
  congr 2
  funext a
  rw [Bool.eq_iff_iff, Bool.and_eq_true, beq_iff_eq, inRange_iff, decide_eq_true_iff, Wanted]

/-- `readBetween` satisfies `Reads`: everything that is wanted is read once, in order of time. -/
theorem reads_readBetween (kept : List α) (k : String) (since : Int64) (upTo : Option Int64) :
    Reads room time kept k since upTo (readBetween room time kept k since upTo) := by
  rw [readBetween_eq]
  exact ⟨List.mergeSort_perm _ _, ordered_inOrder time _, atMoment_inOrder time _⟩

/-- `readBetween` has of each moment in the range all that was kept of the room, and nothing of the
others. -/
theorem atMoment_readBetween (t : Int64) :
    atMoment time t (readBetween room time kept k since upTo) =
      if inRange since upTo t then atMoment time t (kept.filter (room · = k)) else [] := by
  rw [(reads_readBetween kept k since upTo).stable, atMoment, atMoment, List.filter_filter]
  -- a moment is inside of the range, with all its items, or outside
  split_ifs with ht
  · rw [List.filter_filter]
    refine List.filter_congr fun a _ => ?_
    rw [Bool.eq_iff_iff, Bool.and_eq_true, Bool.and_eq_true, decide_eq_true_iff,
      decide_eq_true_iff, decide_eq_true_iff]
    constructor
    · rintro ⟨hat, hroom, -⟩
      exact ⟨hat, hroom⟩
    · rintro ⟨hat, hroom⟩
      exact ⟨hat, hroom, inRange_iff.1 (hat ▸ ht)⟩
  · rw [List.filter_eq_nil_iff]
    intro a _ ha
    rw [Bool.and_eq_true, decide_eq_true_iff, decide_eq_true_iff] at ha
    exact ht (inRange_iff.2 (ha.1 ▸ ha.2.2))

theorem time_le_of_mem_readBetween {a : α}
    (h : a ∈ readBetween room time kept k since upTo) :
    since ≤ time a ∧ ∀ last ∈ upTo, time a ≤ last := by
  rw [(reads_readBetween kept k since upTo).wanted.mem_iff, List.mem_filter,
    decide_eq_true_iff] at h
  exact h.2.2

/-- `readBetween` of a range is that of its two parts. -/
theorem readBetween_append (hsince : since ≤ m) (hm : m < upTo.getD Int64.maxValue) :
    readBetween room time kept k since (some m) ++ readBetween room time kept k (m + 1) upTo =
      readBetween room time kept k since upTo := by
  -- the next time is no overflow
  have hnext : ∀ t, m + 1 ≤ t ↔ ¬ t ≤ m := by
    have hlast : m < Int64.maxValue := by
      cases upTo with
      | none => exact hm
      | some last => exact Int64.lt_of_lt_of_le hm (Int64.le_maxValue last)
    intro t
    grind
  refine eq_of_atMoment (List.pairwise_append.2 ?_) (reads_readBetween ..).ordered fun t => ?_
  · refine ⟨(reads_readBetween ..).ordered, (reads_readBetween ..).ordered, fun a ha b hb => ?_⟩
    have hfirst : time a ≤ m := (time_le_of_mem_readBetween ha).2 m rfl
    have hsecond : ¬ time b ≤ m := (hnext _).1 (time_le_of_mem_readBetween hb).1
    exact Int64.le_trans hfirst (Int64.le_of_lt (Int64.not_le.1 hsecond))
  · rw [atMoment, List.filter_append, ← atMoment, ← atMoment, atMoment_readBetween,
      atMoment_readBetween, atMoment_readBetween]
    by_cases ht : t ≤ m
    · -- the moment lies in the first part
      have hend : ∀ last ∈ upTo, t ≤ last := by
        rintro last rfl
        exact Int64.le_trans ht (Int64.le_of_lt hm)
      have hsecond : ¬ inRange (m + 1) upTo t = true :=
        fun h => (hnext t).1 (inRange_iff.1 h).1 ht
      rw [if_neg hsecond, List.append_nil]
      refine if_congr ?_ rfl rfl
      rw [inRange_iff, inRange_iff]
      refine and_congr_right fun _ => iff_of_true ?_ hend
      rintro last ⟨⟩
      exact ht
    · -- the moment lies in the second part
      have hbegin : since ≤ t := Int64.le_trans hsince (Int64.le_of_lt (Int64.not_le.1 ht))
      have hfirst : ¬ inRange since (some m) t = true := fun h => ht ((inRange_iff.1 h).2 m rfl)
      rw [if_neg hfirst, List.nil_append]
      refine if_congr ?_ rfl rfl
      rw [inRange_iff, inRange_iff]
      exact and_congr_left fun _ => iff_of_true ((hnext t).2 ht) hbegin

/-- `readBetween` reads again what it read once, with what came later in between. -/
theorem readBetween_sublist (kept more : List α) (k : String) (since : Int64)
    (upTo : Option Int64) :
    (readBetween room time kept k since upTo).Sublist
      (readBetween room time (kept ++ more) k since upTo) := by
  refine sublist_of_atMoment (reads_readBetween ..).ordered (reads_readBetween ..).ordered
    fun t => ?_
  rw [atMoment_readBetween, atMoment_readBetween]
  split_ifs
  · exact ((List.sublist_append_left kept more).filter _).filter _
  · exact List.Sublist.refl _

variable (room time) in
theorem readable_readBetween (kept : List α) :
    Readable room time kept (readBetween room time kept) where
  reads := reads_readBetween kept
  parts _ _ _ _ := readBetween_append

end Reading

/-! ### Sequences of calls -/

/-- A call that adds to the history: `addMessage` or `addNotification`. -/
inductive HistoryCall where
  /-- Adds a message. -/
  | message (m : ChatMessage)
  /-- Adds a notification. -/
  | notification (n : Notification)
  deriving DecidableEq, Repr

/-- The message that a `HistoryCall` adds. -/
def HistoryCall.message? : HistoryCall → Option ChatMessage
  | message m => some m
  | notification _ => none

/-- The notification that a `HistoryCall` adds. -/
def HistoryCall.notification? : HistoryCall → Option Notification
  | message _ => none
  | notification n => some n

namespace Store

/-- The store after one `HistoryCall`. -/
def note (s : Store) : HistoryCall → Store
  | .message m => s.addMessage m
  | .notification n => s.addNotification n

/-- The store after `calls` that add to the history. -/
def noteAll (s : Store) (calls : List HistoryCall) : Store := calls.foldl note s

variable {s : Store}

/-- `noteAll` keeps the messages among the calls, in their order. -/
theorem messages_noteAll (calls : List HistoryCall) :
    (s.noteAll calls).messages = s.messages ++ calls.filterMap HistoryCall.message? := by
  induction calls generalizing s with
  | nil => exact (List.append_nil _).symm
  | cons call calls ih =>
    rw [noteAll, List.foldl_cons, ← noteAll, ih]
    cases call with
    | message m => exact List.append_assoc ..
    | notification n => rfl

/-- `noteAll` keeps the notifications among the calls, in their order. -/
theorem notifications_noteAll (calls : List HistoryCall) :
    (s.noteAll calls).notifications =
      s.notifications ++ calls.filterMap HistoryCall.notification? := by
  induction calls generalizing s with
  | nil => exact (List.append_nil _).symm
  | cons call calls ih =>
    rw [noteAll, List.foldl_cons, ← noteAll, ih]
    cases call with
    | message m => rfl
    | notification n => exact List.append_assoc ..

theorem messagesIn_eq (s : Store) :
    s.messagesIn = readBetween ChatMessage.room ChatMessage.time s.messages := rfl

theorem notificationsIn_eq (s : Store) :
    s.notificationsIn = readBetween Notification.room Notification.time s.notifications := rfl

/-- **History is read exactly, in order and in parts.** After any sequence of calls the messages and
the notifications of every room can be read between any two times as they must be, and what is read
now is part of what is read after any further calls. -/
theorem readable_of_calls (s : Store) (calls : List HistoryCall) :
    Readable ChatMessage.room ChatMessage.time
        (s.messages ++ calls.filterMap HistoryCall.message?) (s.noteAll calls).messagesIn ∧
      Readable Notification.room Notification.time
        (s.notifications ++ calls.filterMap HistoryCall.notification?)
        (s.noteAll calls).notificationsIn ∧
      ∀ more k since upTo,
        ((s.noteAll calls).messagesIn k since upTo).Sublist
            ((s.noteAll (calls ++ more)).messagesIn k since upTo) ∧
          ((s.noteAll calls).notificationsIn k since upTo).Sublist
            ((s.noteAll (calls ++ more)).notificationsIn k since upTo) := by
  rw [← messages_noteAll, ← notifications_noteAll]
  refine ⟨readable_readBetween .., readable_readBetween .., fun more k since upTo => ?_⟩
  have hmore : s.noteAll (calls ++ more) = (s.noteAll calls).noteAll more := List.foldl_append
  rw [hmore, messagesIn_eq, messagesIn_eq, notificationsIn_eq, notificationsIn_eq,
    messages_noteAll more, notifications_noteAll more]
  exact ⟨readBetween_sublist .., readBetween_sublist ..⟩

/-- A message at `Int64.maxValue`, and one at `Int64.minValue` written after it. -/
def backwards : List HistoryCall :=
  [.message ⟨"1", "ann", "den", "late", Int64.maxValue⟩,
    .message ⟨"2", "ann", "den", "early", Int64.minValue⟩]

/-- All that `backwards` has put in can be read up to the last time but one, and then from the last
one on. -/
theorem readable_of_backwards :
    Int64.minValue ≤ Int64.maxValue - 1 ∧
      Int64.maxValue - 1 < (none : Option Int64).getD Int64.maxValue ∧
      (noteAll {} backwards).messagesIn "den" Int64.minValue (some (Int64.maxValue - 1)) ++
          (noteAll {} backwards).messagesIn "den" (Int64.maxValue - 1 + 1) none =
        (noteAll {} backwards).messagesIn "den" Int64.minValue none := by
  refine ⟨by decide, by decide, ?_⟩
  exact (readable_of_calls {} backwards).1.parts "den" _ _ none (by decide) (by decide)

end Store

end GroupChat
