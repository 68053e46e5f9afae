import GroupChat.Auth.Tokens
import GroupChat.Config.CommandLine
import GroupChat.Wire.Record

/-!
# Starting

What happens before the hub serves anyone: the command line is read, the accounts are loaded, and
the files for encrypted connections are looked at.

## Main definitions

- `parseAccounts`: the accounts in the content of a file.
- `Settings.tls`: the files for encrypted connections.
- `Startup.run`: what a command line leads to.
-/

namespace GroupChat

/-- Why a file cannot be read. -/
inductive FileError where
  /-- There is no such file. -/
  | notFound
  /-- It is a directory. -/
  | isDirectory
  /-- Something on the way to it is not a directory. -/
  | notADirectory
  /-- Its name cannot be one. -/
  | invalidName
  /-- Its name is too long. -/
  | nameTooLong
  /-- It does not hold text. -/
  | notText
  deriving DecidableEq, Repr

/-- The wording of a `FileError`. -/
def FileError.message : FileError → String
  | .notFound => "No such file or directory (os error 2)"
  | .isDirectory => "Is a directory (os error 21)"
  | .notADirectory => "Not a directory (os error 20)"
  | .invalidName => "file name contained an unexpected NUL byte"
  | .nameTooLong => "File name too long (os error 36)"
  | .notText => "stream did not contain valid UTF-8"

/-- Why the hub cannot start. -/
inductive ConfigError where
  /-- The accounts cannot be read. -/
  | unreadable (e : FileError)
  /-- The accounts are malformed. -/
  | malformed (fault : Json.Fault)
  /-- Only one of the two files for encrypted connections is given. -/
  | incompleteTls
  deriving Repr

/-- The wording of a `ConfigError`. -/
def ConfigError.message : ConfigError → String
  | .unreadable e => "Failed to read accounts file: " ++ e.message
  | .malformed fault => "Failed to parse accounts file: " ++ fault.message
  | .incompleteTls => "TLS requires both a certificate and a private key"

/-- The text of a file with this `content`. -/
def fileText (content : Except FileError ByteArray) : Except ConfigError String :=
  match content with
  | .error e => .error (.unreadable e)
  | .ok bytes =>
    match String.fromUTF8? bytes with
    | some text => .ok text
    | none => .error (.unreadable .notText)

/-- The accounts in the `content` of a file. -/
def parseAccounts (content : Except FileError ByteArray) :
    Except ConfigError (List AccountEntry) := do
  let text ← fileText content
  ((Json.Shape.list Wire.accountEntry.shape).decode text).mapError .malformed

/-- The certificate and the private key of `s`, if connections are encrypted. -/
def Settings.tls (s : Settings) : Except ConfigError (Option (String × String)) :=
  match s.tlsCert, s.tlsKey with
  | some cert, some key => .ok (some (cert, key))
  | none, none => .ok none
  | _, _ => .error .incompleteTls

namespace Startup

/-- What a command line leads to, by `Outcome.ofSettings`. -/
inductive Outcome where
  /-- The command line is not followed. -/
  | usage (e : UsageError)
  /-- The digest of a token is printed. -/
  | digest (text : String)
  /-- The hub cannot start. -/
  | failure (e : ConfigError)
  /-- The files for encrypted connections are of no use, so that nobody can be served. -/
  | unservable (cert key : String)
  /-- The hub starts with these accounts. -/
  | ready (settings : Settings) (entries : List AccountEntry) (tls : Option (String × String))
  deriving Repr

/-- The accounts that the settings `s` name. -/
def loadAccounts (s : Settings) (read : String → Except FileError ByteArray) :
    Except ConfigError (List AccountEntry) :=
  match s.accounts with
  | none => .ok []
  | some path => parseAccounts (read path)

/-- Whether the files `cert` and `key` for encrypted connections can be read and there is a key. -/
def isServable (cert key : Except FileError ByteArray) : Bool :=
  match cert, key with
  | .ok _, .ok bytes => 0 < bytes.size
  | _, _ => false

/-- What the settings `s` lead to. -/
def ofSettings (s : Settings) (read : String → Except FileError ByteArray) : Outcome :=
  match s.hashToken with
  | some token => .digest (tokenDigest token)
  | none =>
    match loadAccounts s read with
    | .error e => .failure e
    | .ok entries =>
      match s.tls with
      | .error e => .failure e
      | .ok none => .ready s entries none
      | .ok (some (cert, key)) =>
        if isServable (read cert) (read key) then .ready s entries (some (cert, key))
        else .unservable cert key

/-- What a command line leads to, where `read` gives the content of a file. -/
def run (arguments : List String) (lookup : String → Option String)
    (read : String → Except FileError ByteArray) : Outcome :=
  match Settings.ofArguments arguments lookup with
  | .error e => .usage e
  | .ok s => ofSettings s read

/-- The name of the program and its version. -/
def versionText : String := "chat_hub 0.1.0\n"

/-- How the flag `f` is shown in the help. -/
def flagHelp (f : Flag) : String :=
  let source := (f.environmentName?.map fun name => " [env: " ++ name ++ "]").getD ""
  "  --" ++ f.name ++ " <VALUE>" ++ source ++ "\n"

/-- The help. -/
def helpText : String :=
  "WebSocket chat hub with rooms, presence and history\n\nUsage: chat_hub [OPTIONS]\n\nOptions:\n"
    ++ String.join (Flag.all.map flagHelp)

/-- What is printed for an `Outcome`. -/
def Outcome.printed : Outcome → String
  | .usage .help => helpText
  | .usage .version => versionText
  | .digest text => text ++ "\n"
  | _ => ""

/-- What is said to someone whose command line is not followed, for an `Outcome`. -/
def Outcome.hint : Outcome → String
  | .usage .help | .usage .version => ""
  | .usage _ => helpText
  | _ => ""

/-- What is logged for an `Outcome`. -/
def Outcome.logged : Outcome → List String
  | .failure e => [e.message]
  | _ => []

/-- The exit code of an `Outcome`. -/
def Outcome.exitCode : Outcome → UInt8
  | .usage .help | .usage .version => 0
  | .usage _ => 2
  | .failure _ => 1
  | .unservable .. => 101
  | _ => 0

end Startup

end GroupChat
