import GroupChat.Config.Settings

/-!
# The command line

The arguments are looked at one after the other. A value that stands behind its flag as an argument
of its own is checked only when the next flag or the end is reached, so that an unknown argument in
between counts first. After the arguments the environment is looked at.

## Main definitions

- `CommandLine.Progress`: the choices made, and the flag that waits for its value.
- `CommandLine.step`: one argument.
- `Settings.ofArguments`: the settings of a command line and an environment.
-/

namespace GroupChat

namespace CommandLine

/-- What was made of the arguments so far, the `Chosen` settings and a flag that waits. -/
structure Progress where
  /-- The choices made. -/
  chosen : Chosen := {}
  /-- The last flag and the value behind it, which are not checked yet. -/
  pending : Option (Flag × Option String) := none
  deriving DecidableEq, Repr

/-- Gives the `flag` its `value`, unless it has one. -/
def Progress.give (p : Progress) (flag : Flag) (value : Option String) :
    Except UsageError Progress :=
  match value with
  | none => .error .missingValue
  | some text =>
    if p.chosen.has flag then .error .repeatedFlag
    else do
      let chosen ← p.chosen.assign flag text
      pure { p with chosen }

/-- Checks the value of the flag of `p` that waits. -/
def Progress.settle (p : Progress) : Except UsageError Progress :=
  match p.pending with
  | none => .ok p
  | some (flag, value) => Progress.give { p with pending := none } flag value

/-- What an argument looks like, as `Argument.of` finds out. -/
inductive Argument where
  /-- Two dashes alone. -/
  | terminator
  /-- The long name of a flag, and a value behind an equality sign. -/
  | long (name : String) (value : Option String)
  /-- A flag of one letter. -/
  | short (letter : Char)
  /-- Anything else. -/
  | plain (text : String)
  deriving DecidableEq, Repr

/-- What the argument `text` looks like. -/
def Argument.of (text : String) : Argument :=
  match text.toList with
  | ['-', '-'] => .terminator
  | '-' :: '-' :: rest =>
    let name := rest.takeWhile (· ≠ '=')
    match rest.dropWhile (· ≠ '=') with
    | _ :: value => .long (String.ofList name) (some (String.ofList value))
    | [] => .long (String.ofList name) none
  | '-' :: letter :: _ => .short letter
  | _ => .plain text

/-- Stops for a flag that wants no value, with the `reason`. -/
def Progress.stop (p : Progress) (reason : UsageError) (value : Option String) :
    Except UsageError Progress :=
  match value with
  | some _ => .error .surplusValue
  | none => do
    let _ ← p.settle
    .error reason

/-- Takes one `argument`. -/
def step (p : Progress) (argument : Argument) : Except UsageError Progress :=
  match argument with
  | .terminator => .ok p
  | .long "help" value => p.stop .help value
  | .long "version" value => p.stop .version value
  | .long name value =>
    match Flag.ofName? name with
    | none => .error .unknownArgument
    | some flag => do
      let p ← p.settle
      match value with
      | some _ => p.give flag value
      | none => pure { p with pending := some (flag, none) }
  | .short 'h' => p.stop .help none
  | .short 'V' => p.stop .version none
  | .short _ => .error .unknownArgument
  | .plain text =>
    match p.pending with
    | some (flag, none) => .ok { p with pending := some (flag, some text) }
    | _ => .error .unknownArgument

/-- Takes all arguments, by `step`. Nothing may stand behind two dashes. -/
def steps : Progress → List String → Except UsageError Progress
  | p, [] => p.settle
  | p, text :: rest =>
    match Argument.of text with
    | .terminator => if rest.isEmpty then p.settle else .error .unknownArgument
    | argument => do
      let p ← step p argument
      steps p rest

/-- Looks with `lookup` at the variables of the flags that were not given. -/
def fromEnvironment (lookup : String → Option String) (c : Chosen) :
    List Flag → Except UsageError Chosen
  | [] => .ok c
  | flag :: rest =>
    match if c.has flag then none else flag.environmentName?.bind lookup with
    | none => fromEnvironment lookup c rest
    | some text => do
      let c ← c.assign flag text
      fromEnvironment lookup c rest

end CommandLine

/-- The settings of the command line `arguments` and an environment. -/
def Settings.ofArguments (arguments : List String) (lookup : String → Option String) :
    Except UsageError Settings := do
  let p ← CommandLine.steps {} arguments
  let chosen ← CommandLine.fromEnvironment lookup p.chosen Flag.all
  pure (Settings.ofChosen chosen)

end GroupChat
