import GroupChat.Config.Startup

/-!
# The program

Reads the command line, the environment and the file with the accounts, prints what they lead to and
ends. The sockets that a running hub serves are outside of this library.

## Main definitions

- `main`: the program.
-/

namespace GroupChat.Program

/-- Why a file cannot be read. The system's number for the cause comes with either sign. -/
def fileError : IO.Error → FileError
  | .inappropriateType _ code _ =>
    if code = 21 ∨ code = 0 - 21 then .isDirectory else .notADirectory
  | .invalidArgument _ code _ =>
    if code = 36 ∨ code = 0 - 36 then .nameTooLong else .invalidName
  | _ => .notFound

/-- The content of a file. -/
def readFile (path : String) : IO (Except FileError ByteArray) := do
  match ← (IO.FS.readBinFile path).toBaseIO with
  | .ok bytes => pure (.ok bytes)
  | .error e => pure (.error (fileError e))

/-- The variables of the environment that flags have. -/
def environment : IO (List (String × String)) := do
  let pairs ← (Flag.all.filterMap Flag.environmentName?).mapM fun name => do
    let value ← IO.getEnv name
    pure (value.map fun value => (name, value))
  pure (pairs.filterMap id)

/-- What the command line and the environment lead to. -/
def outcome (arguments : List String) : IO Startup.Outcome := do
  let assignments ← environment
  match Settings.ofArguments arguments fun name => assignments.lookup name with
  | .error e => pure (.usage e)
  | .ok settings =>
    let paths := [settings.accounts, settings.tlsCert, settings.tlsKey].filterMap id
    let contents ← paths.mapM fun path => do
      let content ← readFile path
      pure (path, content)
    pure (Startup.ofSettings settings fun path =>
      (contents.lookup path).getD (.error .notFound))

end GroupChat.Program

/-- Prints what the command line leads to, and gives the exit code. -/
def main (arguments : List String) : IO UInt32 := do
  let outcome ← GroupChat.Program.outcome arguments
  IO.print outcome.printed
  IO.eprint outcome.hint
  for line in outcome.logged do
    IO.eprintln line
  pure outcome.exitCode.toUInt32
