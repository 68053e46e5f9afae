import GroupChat.Server.Frame

/-!
# What frames give

What the hub is given for the frames of a client is said here by the bytes of the frames. A frame
gives one item if it holds a text of bounded length or other bytes, or it is a sign of life, or it
ends the reading. `Frame.read`, `Message.item?` and `Message.isLast` tell these three apart.

## Main definitions

- `Frame.Yields`: a frame gives an item.
- `Frame.IsSign`: a frame is a sign of life, and gives nothing.
- `Frame.Ends`: nothing is read after a frame.
- `Feeds`: the items that frames give, in order.

## Main statements

- `Frame.read_cases`: what becomes of a frame.
- `Frame.item?_read_iff`: when the hub is given an item for a frame.
- `Feeds.items_eq`: the items that frames give are those of the messages that are read.
-/

namespace GroupChat

namespace Frame

/-- The bytes of a text, which was sent in one frame (`.text`) or in several (`.fragments`). -/
def textBytes? : Frame → Option ByteArray
  | .text payload => some payload
  | .fragments parts => some (parts.foldl (· ++ ·) ByteArray.empty)
  | .binary _ | .ping _ | .pong _ | .close => none

/-- The frame `f` of the client `c` gives the hub an item. A text gives the event in its `Envelope`,
or the reason why it holds none. Other bytes give an error. -/
inductive Yields (limit : Nat) (c : Connection) (f : Frame) : Inbound → Prop where
  /-- The frame holds the envelope of an event. -/
  | event {s : String} {e : Envelope} (text : f.textBytes? = some s.toUTF8)
      (short : s.toUTF8.size ≤ limit) (holds : Envelope.parse s = .ok e) :
      Yields limit c f (.event c e)
  /-- The frame holds a text that is no envelope. -/
  | malformed {s : String} {err : ChatError} (text : f.textBytes? = some s.toUTF8)
      (short : s.toUTF8.size ≤ limit) (fails : Envelope.parse s = .error err) :
      Yields limit c f (.malformed c err)
  /-- The frame holds other bytes. -/
  | binary {payload : ByteArray} (bytes : f = .binary payload) (short : payload.size ≤ limit) :
      Yields limit c f (.malformed c (.badPayload "binary frames are not supported"))

/-- A frame of at most `limit` bytes is a sign of life, which gives the hub nothing. -/
inductive IsSign (limit : Nat) : Frame → Prop where
  /-- A question whether somebody is there. -/
  | ping {payload : ByteArray} (short : payload.size ≤ limit) (control : payload.size ≤ 125) :
      IsSign limit (.ping payload)
  /-- The answer to such a question. -/
  | pong {payload : ByteArray} (short : payload.size ≤ limit) (control : payload.size ≤ 125) :
      IsSign limit (.pong payload)

/-- Nothing is read after a frame: it is `.close`, or it cannot be read. -/
inductive Ends (limit : Nat) : Frame → Prop where
  /-- The wish to end the connection. -/
  | close : Ends limit .close
  /-- A text that is too long. -/
  | longText {f : Frame} {bytes : ByteArray} (text : f.textBytes? = some bytes)
      (long : limit < bytes.size) : Ends limit f
  /-- A text that is not encoded as one. -/
  | noText {f : Frame} {bytes : ByteArray} (text : f.textBytes? = some bytes)
      (broken : ∀ s : String, s.toUTF8 ≠ bytes) : Ends limit f
  /-- Other bytes that are too many. -/
  | longBinary {payload : ByteArray} (long : limit < payload.size) : Ends limit (.binary payload)
  /-- A question that is too long. -/
  | longPing {payload : ByteArray} (long : min limit 125 < payload.size) :
      Ends limit (.ping payload)
  /-- An answer that is too long. -/
  | longPong {payload : ByteArray} (long : min limit 125 < payload.size) :
      Ends limit (.pong payload)

variable {limit : Nat} {c : Connection} {f : Frame} {item : Inbound}

/-! ### Texts -/

/-- `String.fromUTF8?` gives the text with these bytes, if there is one. -/
theorem fromUTF8?_eq_some_iff {bytes : ByteArray} {s : String} :
    String.fromUTF8? bytes = some s ↔ s.toUTF8 = bytes := by
  constructor
  · intro h
    unfold String.fromUTF8? at h
    split at h
    · cases h
      rfl
    · cases h
  · rintro rfl
    simp only [String.fromUTF8?, String.toUTF8_eq_toByteArray, dif_pos s.isValidUTF8]
    rfl

/-- `totalSize` counts the bytes that the parts of a text have together. -/
theorem totalSize_eq (parts : List ByteArray) :
    totalSize parts = (parts.foldl (· ++ ·) ByteArray.empty).size := by
  suffices hall : ∀ start : ByteArray, (parts.foldl (· ++ ·) start).size =
      start.size + totalSize parts by
    rw [hall, show ByteArray.empty.size = 0 from rfl, Nat.zero_add]
  induction parts with
  | nil => exact fun _ => rfl
  | cons part parts ih =>
    intro start
    rw [List.foldl_cons, ih, ByteArray.size_append, totalSize, Nat.add_assoc]

/-- `Frame.read` reads the bytes of a text, unless they are too many. -/
theorem read_of_textBytes? {bytes : ByteArray} (h : f.textBytes? = some bytes) :
    f.read limit = if bytes.size ≤ limit then ofBytes bytes else .failure := by
  cases f with
  | text payload =>
    cases h
    rfl
  | fragments parts =>
    cases h
    rw [read, totalSize_eq]
  | binary | ping | pong | close => cases h

/-- A frame that holds a text of bounded length is read as this text. -/
theorem read_of_text {s : String} (text : f.textBytes? = some s.toUTF8)
    (short : s.toUTF8.size ≤ limit) : f.read limit = .text s := by
  rw [read_of_textBytes? text, if_pos short, ofBytes, fromUTF8?_eq_some_iff.2 rfl]

/-! ### What becomes of a frame -/

/-- A frame with the bytes of a text is read as this text, or it `Ends` the reading. -/
theorem read_cases_of_textBytes? {bytes : ByteArray} (hbytes : f.textBytes? = some bytes) :
    (∃ s : String, f.textBytes? = some s.toUTF8 ∧ s.toUTF8.size ≤ limit ∧
        f.read limit = .text s) ∨
      f.Ends limit ∧ (f.read limit).isLast = true := by
  by_cases hshort : bytes.size ≤ limit
  · by_cases hs : ∃ s : String, s.toUTF8 = bytes
    · obtain ⟨s, rfl⟩ := hs
      exact Or.inl ⟨s, hbytes, hshort, read_of_text hbytes hshort⟩
    · -- bytes of no text cannot be decoded
      have hnone : String.fromUTF8? bytes = none :=
        Option.eq_none_iff_forall_not_mem.2 fun s hmem => hs ⟨s, fromUTF8?_eq_some_iff.1 hmem⟩
      refine Or.inr ⟨.noText hbytes fun s h => hs ⟨s, h⟩, ?_⟩
      rw [read_of_textBytes? hbytes, if_pos hshort, ofBytes, hnone]
      rfl
  · refine Or.inr ⟨.longText hbytes (Nat.lt_of_not_le hshort), ?_⟩
    rw [read_of_textBytes? hbytes, if_neg hshort]
    rfl

/-- A frame that is read for its length alone, as pings and pongs are, `IsSign` or `Ends` the
reading. -/
theorem read_cases_of_control {payload : ByteArray}
    (hread : f.read limit =
      if payload.size ≤ min limit maxControlSize then .signOfLife else .failure)
    (hsign : payload.size ≤ limit → payload.size ≤ 125 → f.IsSign limit)
    (hends : min limit 125 < payload.size → f.Ends limit) :
    (f.IsSign limit ∧ f.read limit = .signOfLife) ∨
      f.Ends limit ∧ (f.read limit).isLast = true := by
  by_cases hshort : payload.size ≤ min limit maxControlSize
  · rw [if_pos hshort] at hread
    exact Or.inl ⟨hsign (Nat.le_min.1 hshort).1 (Nat.le_min.1 hshort).2, hread⟩
  · rw [if_neg hshort] at hread
    exact Or.inr ⟨hends (Nat.lt_of_not_le hshort), by rw [hread]; rfl⟩

/-- Every frame holds a text or other bytes, is a sign of life, or ends the reading. -/
theorem read_cases (limit : Nat) (f : Frame) :
    (∃ s : String, f.textBytes? = some s.toUTF8 ∧ s.toUTF8.size ≤ limit ∧
        f.read limit = .text s) ∨
      (∃ payload, f = .binary payload ∧ payload.size ≤ limit ∧ f.read limit = .binary) ∨
      (f.IsSign limit ∧ f.read limit = .signOfLife) ∨
      f.Ends limit ∧ (f.read limit).isLast = true := by
  cases f with
  | text payload => exact (read_cases_of_textBytes? rfl).imp_right fun h => Or.inr (Or.inr h)
  | fragments parts => exact (read_cases_of_textBytes? rfl).imp_right fun h => Or.inr (Or.inr h)
  | binary payload =>
    by_cases hshort : payload.size ≤ limit
    · exact Or.inr (Or.inl ⟨payload, rfl, hshort, if_pos hshort⟩)
    · refine Or.inr (Or.inr (Or.inr ⟨.longBinary (Nat.lt_of_not_le hshort), ?_⟩))
      rw [read, if_neg hshort]
      rfl
  | ping payload => exact Or.inr (Or.inr (read_cases_of_control rfl .ping .longPing))
  | pong payload => exact Or.inr (Or.inr (read_cases_of_control rfl .pong .longPong))
  | close => exact Or.inr (Or.inr (Or.inr ⟨.close, rfl⟩))

/-- A frame gives an item exactly if the message that is read does. -/
theorem item?_read_iff : (f.read limit).item? c = some item ↔ f.Yields limit c item := by
  constructor
  · intro h
    rcases read_cases limit f with ⟨s, text, short, hread⟩ | ⟨payload, rfl, short, hread⟩ |
      ⟨-, hread⟩ | ⟨-, hlast⟩
    · rw [hread] at h
      cases h
      cases hparse : Envelope.parse s with
      | ok e =>
        rw [Inbound.ofText, hparse]
        exact .event text short hparse
      | error err =>
        rw [Inbound.ofText, hparse]
        exact .malformed text short hparse
    · rw [hread] at h
      cases h
      exact .binary rfl short
    · rw [hread] at h
      cases h
    · rw [Message.item?_of_isLast hlast] at h
      cases h
  · intro h
    cases h with
    | event text short holds =>
      rw [read_of_text text short, Message.item?, Inbound.ofText, holds]
    | malformed text short fails =>
      rw [read_of_text text short, Message.item?, Inbound.ofText, fails]
    | binary bytes short =>
      rw [bytes, read, if_pos short]
      rfl

/-- The item that a frame gives is about its client. -/
theorem Yields.connection (h : f.Yields limit c item) : item.connection = c := by
  cases h <;> rfl

/-- A sign of life gives no item. -/
theorem IsSign.item? (h : f.IsSign limit) (c : Connection) : (f.read limit).item? c = none := by
  cases h with
  | ping short control =>
    rw [read, maxControlSize, if_pos (Nat.le_min.2 ⟨short, control⟩)]
    rfl
  | pong short control =>
    rw [read, maxControlSize, if_pos (Nat.le_min.2 ⟨short, control⟩)]
    rfl

/-- A frame after which no item comes ends the reading, or it is a sign of life. -/
theorem ends_or_isSign (h : (f.read limit).item? c = none) :
    (f.Ends limit ∧ (f.read limit).isLast = true) ∨
      (f.IsSign limit ∧ (f.read limit).isLast = false) := by
  rcases read_cases limit f with ⟨s, -, -, hread⟩ | ⟨payload, -, -, hread⟩ | ⟨hsign, hread⟩ |
    hends
  · rw [hread] at h
    cases h
  · rw [hread] at h
    cases h
  · rw [hread]
    exact Or.inr ⟨hsign, rfl⟩
  · exact Or.inl hends

end Frame

/-- The items that the hub is given for frames of the client `c`, in order (`Frame.Yields`). -/
inductive Feeds (limit : Nat) (c : Connection) : List Frame → List Inbound → Prop where
  /-- No frame, and no item. -/
  | nil : Feeds limit c [] []
  /-- One more frame gives one more item. -/
  | item {fs : List Frame} {items : List Inbound} {f : Frame} {item : Inbound}
      (before : Feeds limit c fs items) (yields : f.Yields limit c item) :
      Feeds limit c (fs ++ [f]) (items ++ [item])
  /-- One more sign of life gives nothing. -/
  | sign {fs : List Frame} {items : List Inbound} {f : Frame} (before : Feeds limit c fs items)
      (sign : f.IsSign limit) : Feeds limit c (fs ++ [f]) items

/-- The items that frames give are about their client. -/
theorem Feeds.connection {limit : Nat} {c : Connection} {fs : List Frame} {items : List Inbound}
    (h : Feeds limit c fs items) {item : Inbound} (hitem : item ∈ items) : item.connection = c := by
  induction h with
  | nil => cases hitem
  | item before yields ih =>
    rcases List.mem_append.1 hitem with hitem | hitem
    · exact ih hitem
    · rw [List.mem_singleton.1 hitem]
      exact yields.connection
  | sign before sign ih => exact ih hitem

/-- What the hub is given for the messages `ms` of the client `c`. -/
def Message.items (c : Connection) (ms : List Message) : List Inbound :=
  ms.filterMap (·.item? c)

end GroupChat
