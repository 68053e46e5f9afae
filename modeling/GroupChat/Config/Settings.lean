import GroupChat.Config.SocketAddress

/-!
# Settings

What can be chosen when the hub is started: on the command line, where each choice has a flag, or in
the environment, where most have a variable.

## Main definitions

- `Settings`: the choices.
- `Flag`: the names under which they are made.
- `Chosen`: the choices made so far.
-/

namespace GroupChat

/-- What is chosen when the hub is started. -/
structure Settings where
  /-- The address to listen on. -/
  listen : SocketAddress
  /-- The file with the accounts. -/
  accounts : Option String
  /-- The largest frame that a client may send, in bytes. -/
  maxFrameSize : Nat
  /-- After how many silent seconds a client is given up. -/
  idleTimeout : Nat
  /-- How many events may wait for one client. -/
  outboundCapacity : Nat
  /-- How many frames may wait for the hub. -/
  inboundCapacity : Nat
  /-- The file with the certificate. -/
  tlsCert : Option String
  /-- The file with the private key. -/
  tlsKey : Option String
  /-- A token whose digest is wanted, and nothing else. -/
  hashToken : Option String
  deriving DecidableEq, Repr

/-- Why a command line is not followed. -/
inductive UsageError where
  /-- A value is not in the form that the flag wants. -/
  | malformedValue
  /-- A value is missing or empty. -/
  | missingValue
  /-- A value is given to a flag that wants none. -/
  | surplusValue
  /-- There is no such flag. -/
  | unknownArgument
  /-- A flag is given twice. -/
  | repeatedFlag
  /-- Help is wanted. -/
  | help
  /-- The version is wanted. -/
  | version
  deriving DecidableEq, Repr

/-- The names under which `Settings` are chosen. -/
inductive Flag where
  /-- The address to listen on. -/
  | listen
  /-- The file with the accounts. -/
  | accounts
  /-- The largest frame. -/
  | maxFrameSize
  /-- The silent seconds. -/
  | idleTimeout
  /-- The events that may wait. -/
  | outboundCapacity
  /-- The frames that may wait. -/
  | inboundCapacity
  /-- The file with the certificate. -/
  | tlsCert
  /-- The file with the private key. -/
  | tlsKey
  /-- The token to digest. -/
  | hashToken
  deriving DecidableEq, Repr

namespace Flag

/-- All flags, in the order in which `CommandLine.fromEnvironment` looks at them. -/
def all : List Flag :=
  [listen, accounts, maxFrameSize, idleTimeout, outboundCapacity, inboundCapacity, tlsCert, tlsKey,
    hashToken]

/-- The name of a `Flag` on the command line. -/
def name : Flag → String
  | listen => "listen"
  | accounts => "accounts"
  | maxFrameSize => "max-frame-size"
  | idleTimeout => "idle-timeout-secs"
  | outboundCapacity => "outbound-capacity"
  | inboundCapacity => "inbound-capacity"
  | tlsCert => "tls-cert"
  | tlsKey => "tls-key"
  | hashToken => "hash-token"

/-- The name of a `Flag` in the environment. -/
def environmentName? : Flag → Option String
  | listen => some "CHAT_LISTEN"
  | accounts => some "CHAT_ACCOUNTS"
  | maxFrameSize => some "CHAT_MAX_FRAME_SIZE"
  | idleTimeout => some "CHAT_IDLE_TIMEOUT_SECS"
  | outboundCapacity => some "CHAT_OUTBOUND_CAPACITY"
  | inboundCapacity => some "CHAT_INBOUND_CAPACITY"
  | tlsCert => some "CHAT_TLS_CERT"
  | tlsKey => some "CHAT_TLS_KEY"
  | hashToken => none

/-- The flag of the `name`. -/
def ofName? (name : String) : Option Flag := all.find? fun f => f.name == name

end Flag

/-- The choices made so far, one for each `Flag`. -/
structure Chosen where
  /-- The address to listen on. -/
  listen : Option SocketAddress := none
  /-- The file with the accounts. -/
  accounts : Option String := none
  /-- The largest frame. -/
  maxFrameSize : Option Nat := none
  /-- The silent seconds. -/
  idleTimeout : Option Nat := none
  /-- The events that may wait. -/
  outboundCapacity : Option Nat := none
  /-- The frames that may wait. -/
  inboundCapacity : Option Nat := none
  /-- The file with the certificate. -/
  tlsCert : Option String := none
  /-- The file with the private key. -/
  tlsKey : Option String := none
  /-- The token to digest. -/
  hashToken : Option String := none
  deriving DecidableEq, Repr

namespace Chosen

/-- Whether a `Flag` was given. -/
def has (c : Chosen) : Flag → Bool
  | .listen => c.listen.isSome
  | .accounts => c.accounts.isSome
  | .maxFrameSize => c.maxFrameSize.isSome
  | .idleTimeout => c.idleTimeout.isSome
  | .outboundCapacity => c.outboundCapacity.isSome
  | .inboundCapacity => c.inboundCapacity.isSome
  | .tlsCert => c.tlsCert.isSome
  | .tlsKey => c.tlsKey.isSome
  | .hashToken => c.hashToken.isSome

/-- A number of sixty-four bits, which may have a plus sign in front. -/
def parseNumber (text : String) : Except UsageError Nat :=
  let ds : List Char :=
    match text.toList with
    | '+' :: rest => rest
    | cs => cs
  let n : Nat := ds.foldl (fun n c => n * 10 + (c.toNat - '0'.toNat)) 0
  if ds.isEmpty ∨ !ds.all Char.isDigit ∨ 0x10000000000000000 ≤ n then .error .malformedValue
  else .ok n

/-- The name of a file, which is not empty. -/
def parsePath (text : String) : Except UsageError String :=
  if text.isEmpty then .error .missingValue else .ok text

/-- An address to listen on. -/
def parseAddress (text : String) : Except UsageError SocketAddress :=
  match SocketAddress.parse? text with
  | some address => .ok address
  | none => .error .malformedValue

/-- Gives the `flag` a value, which is read off the `text`. -/
def assign (c : Chosen) (flag : Flag) (text : String) : Except UsageError Chosen :=
  match flag with
  | .listen => do return { c with listen := some (← parseAddress text) }
  | .accounts => do return { c with accounts := some (← parsePath text) }
  | .maxFrameSize => do return { c with maxFrameSize := some (← parseNumber text) }
  | .idleTimeout => do return { c with idleTimeout := some (← parseNumber text) }
  | .outboundCapacity => do return { c with outboundCapacity := some (← parseNumber text) }
  | .inboundCapacity => do return { c with inboundCapacity := some (← parseNumber text) }
  | .tlsCert => do return { c with tlsCert := some (← parsePath text) }
  | .tlsKey => do return { c with tlsKey := some (← parsePath text) }
  | .hashToken => .ok { c with hashToken := some text }

end Chosen

namespace Settings

/-- The `Settings` of someone who chose nothing. -/
def standard : Settings where
  listen := .v4 ⟨127, 0, 0, 1⟩ 9999
  accounts := none
  maxFrameSize := 4096
  idleTimeout := 600
  outboundCapacity := 100
  inboundCapacity := 100
  tlsCert := none
  tlsKey := none
  hashToken := none

/-- The choices `c`, and the `standard` settings for the rest. -/
def ofChosen (c : Chosen) : Settings where
  listen := c.listen.getD standard.listen
  accounts := c.accounts
  maxFrameSize := c.maxFrameSize.getD standard.maxFrameSize
  idleTimeout := c.idleTimeout.getD standard.idleTimeout
  outboundCapacity := c.outboundCapacity.getD standard.outboundCapacity
  inboundCapacity := c.inboundCapacity.getD standard.inboundCapacity
  tlsCert := c.tlsCert
  tlsKey := c.tlsKey
  hashToken := c.hashToken

end Settings

end GroupChat
