import GroupChat.Hub.Basic

/-!
# Frames

What a client sends, frame by frame. A text may be sent in one frame or in several. Frames that are
too long, and texts that are none, break the connection.

## Main definitions

- `Frame`: what a client sends.
- `Message`: what is understood.
- `Frame.read`: the message of a frame.
- `Message.item?`: what the hub is given for a message.
-/

namespace GroupChat

/-- What a client sends over its socket, before it is a `Message`. -/
inductive Frame where
  /-- A text in one frame. -/
  | text (payload : ByteArray)
  /-- A text in several frames. -/
  | fragments (parts : List ByteArray)
  /-- Bytes that are no text. -/
  | binary (payload : ByteArray)
  /-- A question whether somebody is there. -/
  | ping (payload : ByteArray)
  /-- The answer to such a question. -/
  | pong (payload : ByteArray)
  /-- The wish to end the connection. -/
  | close

/-- What is understood of a `Frame`. -/
inductive Message where
  /-- A text. -/
  | text (s : String)
  /-- Bytes that are no text. -/
  | binary
  /-- A sign of life. -/
  | signOfLife
  /-- The wish to end the connection. -/
  | close
  /-- The connection is broken. -/
  | failure
  deriving DecidableEq, Repr, Inhabited

namespace Frame

/-- How many bytes a `.ping` or `.pong` may have. -/
def maxControlSize : Nat := 125

/-- The text of the bytes in `payload`. -/
def ofBytes (payload : ByteArray) : Message :=
  match String.fromUTF8? payload with
  | some s => .text s
  | none => .failure

/-- How many bytes the parts of `.fragments` have together. -/
def totalSize : List ByteArray → Nat
  | [] => 0
  | part :: parts => part.size + totalSize parts

/-- The message of a frame, where `limit` is the largest number of bytes. The parts of a text count
together. -/
def read (limit : Nat) : Frame → Message
  | .text payload => if payload.size ≤ limit then ofBytes payload else .failure
  | .fragments parts =>
    if totalSize parts ≤ limit then ofBytes (parts.foldl (· ++ ·) .empty)
    else .failure
  | .binary payload => if payload.size ≤ limit then .binary else .failure
  | .ping payload | .pong payload =>
    if payload.size ≤ min limit maxControlSize then .signOfLife else .failure
  | .close => .close

end Frame

/-- What the hub is given for a text of the client `c`. -/
def Inbound.ofText (c : Connection) (s : String) : Inbound :=
  match Envelope.parse s with
  | .ok e => .event c e
  | .error e => .malformed c e

/-- The client that an `Inbound` item is about. -/
def Inbound.connection : Inbound → Connection
  | .register c => c
  | .event c _ => c
  | .malformed c _ => c
  | .unregister c => c

namespace Message

/-- What the hub is given for a `Message` of the client `c`. -/
def item? (c : Connection) : Message → Option Inbound
  | .text s => some (.ofText c s)
  | .binary => some (.malformed c .binaryFrame)
  | .signOfLife | .close | .failure => none

/-- Whether nothing is read after a `Message`. -/
def isLast : Message → Bool
  | .close | .failure => true
  | .text _ | .binary | .signOfLife => false

theorem item?_of_isLast {c : Connection} {m : Message} (h : m.isLast = true) :
    m.item? c = none := by
  cases m <;> simp_all [item?, isLast]

end Message

end GroupChat
