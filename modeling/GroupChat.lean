import GroupChat.Account
import GroupChat.Auth.Tokens
import GroupChat.Auth.Upgrade
import GroupChat.Config.CommandLine
import GroupChat.Config.Settings
import GroupChat.Config.SocketAddress
import GroupChat.Config.Startup
import GroupChat.Decimal.Layout
import GroupChat.Decimal.Shortest
import GroupChat.Digest.Base64
import GroupChat.Digest.Sha256
import GroupChat.Error
import GroupChat.History
import GroupChat.Hub.Answer
import GroupChat.Hub.Basic
import GroupChat.Hub.Delivery
import GroupChat.Hub.Handle
import GroupChat.Hub.Inquiry
import GroupChat.Hub.Lookup
import GroupChat.Hub.Membership
import GroupChat.Hub.Mint
import GroupChat.Hub.NewRoom
import GroupChat.Hub.Presence
import GroupChat.Hub.Talk
import GroupChat.Json.Cursor
import GroupChat.Json.Enclosed
import GroupChat.Json.Fault
import GroupChat.Json.Flat
import GroupChat.Json.Numeral
import GroupChat.Json.Printer
import GroupChat.Json.Reader
import GroupChat.Json.Record
import GroupChat.Json.Shape
import GroupChat.Json.Skip
import GroupChat.Json.Tagged
import GroupChat.Json.Value
import GroupChat.Json.Word
import GroupChat.Live.Broadcast
import GroupChat.Live.Connection
import GroupChat.Live.Outbox
import GroupChat.Live.Room
import GroupChat.Room
import GroupChat.Server.Basic
import GroupChat.Server.Frame
import GroupChat.Server.Session
import GroupChat.Server.Settle
import GroupChat.Server.Writer
import GroupChat.Store.Accounts
import GroupChat.Store.Basic
import GroupChat.Store.History
import GroupChat.Store.Outage
import GroupChat.Store.Rooms
import GroupChat.Table
import GroupChat.Text.Blank
import GroupChat.Text.Casing
import GroupChat.Text.CharSet
import GroupChat.Text.LowerCase
import GroupChat.Text.Printable
import GroupChat.Text.Quoted
import GroupChat.Wire.ClientEvent
import GroupChat.Wire.Record
import GroupChat.Wire.ServerEvent
import GroupChat.Main
import GroupChat.Proofs.Json.Takes
import GroupChat.Proofs.Json.Grammar
import GroupChat.Proofs.Json.Texts
import GroupChat.Proofs.Json.Numbers
import GroupChat.Proofs.Json.Canonical
import GroupChat.Proofs.Json.Values
import GroupChat.Proofs.Json.Shapes
import GroupChat.Proofs.Json.Records
import GroupChat.Proofs.Json.Flat
import GroupChat.Proofs.Json.Tagged
import GroupChat.Proofs.Json.Survival
import GroupChat.Proofs.Json.Yields
import GroupChat.Proofs.Json.Spelling
import GroupChat.Proofs.Wire.Encoding
import GroupChat.Proofs.Since
import GroupChat.Proofs.Live.Roster
import GroupChat.Proofs.Live.Attendance
import GroupChat.Proofs.Live.Room
import GroupChat.Proofs.Live.Rooms
import GroupChat.Proofs.Live.Broadcast
import GroupChat.Proofs.Live.Roles
import GroupChat.Proofs.Store.Rooms
import GroupChat.Proofs.Store.Relation
import GroupChat.Proofs.Store.Outage
import GroupChat.Proofs.Text.LowerCase
import GroupChat.Proofs.Store.Accounts
import GroupChat.Proofs.Store.History
import GroupChat.Proofs.Text.Blank
import GroupChat.Proofs.Auth.Tokens
import GroupChat.Proofs.Hub.Turn
import GroupChat.Proofs.Hub.Lookup
import GroupChat.Proofs.Hub.Answer
import GroupChat.Proofs.Hub.Told
import GroupChat.Proofs.Hub.Membership
import GroupChat.Proofs.Hub.NewRoom
import GroupChat.Proofs.Hub.Talk
import GroupChat.Proofs.Hub.Presence
import GroupChat.Proofs.Hub.Handle
import GroupChat.Proofs.Wire.Requests
import GroupChat.Proofs.Hub.Mirror
import GroupChat.Proofs.Hub.Authority
import GroupChat.Proofs.Hub.Atomicity
import GroupChat.Proofs.Hub.Pair
import GroupChat.Proofs.Hub.Privacy
import GroupChat.Proofs.Hub.Inside
import GroupChat.Proofs.Hub.Audience
import GroupChat.Proofs.Hub.Silence
import GroupChat.Proofs.Hub.Reference
import GroupChat.Proofs.Hub.Trace
import GroupChat.Proofs.Hub.Decision
import GroupChat.Proofs.Hub.Response
import GroupChat.Proofs.Hub.Isolation
import GroupChat.Proofs.Hub.Permanence
import GroupChat.Proofs.Hub.Founder
import GroupChat.Proofs.Hub.Naming
import GroupChat.Proofs.Hub.Record
import GroupChat.Proofs.Hub.History
import GroupChat.Proofs.Hub.Online
import GroupChat.Proofs.Hub.Tenancy
import GroupChat.Proofs.Hub.Refusal
import GroupChat.Proofs.Hub.Lockstep
import GroupChat.Proofs.Hub.Uniform
import GroupChat.Proofs.Hub.Causes
import GroupChat.Proofs.Hub.Drawing
import GroupChat.Proofs.Hub.Notices
import GroupChat.Proofs.Hub.Replay
import GroupChat.Proofs.Hub.Signals
import GroupChat.Proofs.Hub.FanOut
import GroupChat.Proofs.Hub.Announcement
import GroupChat.Proofs.Hub.Admission
import GroupChat.Proofs.Server.Script
import GroupChat.Proofs.Server.Moves
import GroupChat.Proofs.Server.Course
import GroupChat.Proofs.Server.Hub
import GroupChat.Proofs.Server.Wiring
import GroupChat.Proofs.Server.Shutdown
import GroupChat.Proofs.Server.Outlet
import GroupChat.Proofs.Server.Passage
