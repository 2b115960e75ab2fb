import Provision.CommandLine.Arguments
import Provision.CommandLine.World
import Provision.Dialogue.Terminal
import Provision.Installation.Revision

/-!
# Running a command

A command reads its files, finds the values and prints them. On the way it keeps a transcript of
the records of the journal and the questions that were put.
-/

namespace Provision

/-- Why a command is refused or fails (`CliError`). -/
inductive Refusal where
  | failure (failure : Failure)
  | configureNonInteractive (previous : String)
  | noTerminal
  deriving DecidableEq

/-- The message of a refusal. -/
def Refusal.message : Refusal → String
  | .failure cause => cause.message
  | .configureNonInteractive previous =>
    "configure is not supported in non-interactive mode, edit " ++ previous ++
      " directly instead"
  | .noTerminal =>
    "stdin is not a terminal; pass --non-interactive to accept defaults without prompting"

/-- What happens on the way. -/
inductive Entry where
  | record (record : Record)
  | question (question : Question)
  deriving DecidableEq

/-- The entry of an event. -/
def Entry.ofEvent : Event → Entry
  | .asked q => .question q
  | .noted notice => .record notice.record

namespace CommandLine

/-- An activity of a command: it may be refused, and it leaves a transcript. -/
abbrev Action := ExceptT Refusal (StateM (List Entry))

/-- Puts entries into the transcript. -/
def tell (entries : List Entry) : Action Unit :=
  modify (· ++ entries)

/-- Puts a record into the transcript. -/
def record (level : Level) (component message : String)
    (fields : List (String × FieldValue)) : Action Unit :=
  tell [.record ⟨level, component, message, fields⟩]

/-- Goes on with a value, or is refused by a failure. -/
def orRefuse {α : Type} (outcome : Except Failure α) : Action α :=
  match outcome with
  | .ok value => pure value
  | .error failure => throw (.failure failure)

/-- The manifest at a path. -/
def manifestAt (world : World) (path : String) : Action Manifest :=
  orRefuse ((world.contents path).readManifest path)

/-- The values at a path. -/
def valuesAt (world : World) (path : String) : Action Bindings := do
  match ← orRefuse (world.contents path).readValues? with
  | some values => return values
  | none =>
    record .debug "params_core::manifest" ("No values file at " ++ quoted path) []
    return .empty

/-- The manifest and the overrides that the arguments name (`load_inputs`). -/
def inputs (world : World) (input : InputArguments) : Action (Manifest × Bindings) := do
  let manifest ← manifestAt world input.declarations
  let overrides ← match input.overrides with
    | some path => valuesAt world path
    | none => pure .empty
  record .debug "params::commands" "Loaded inputs"
    [("params", .shown (toString manifest.params.length)),
      ("overrides", .shown (toString overrides.size))]
  return (manifest, overrides)

/-- Refuses to go on where nobody can answer (`ensure_interactive`). -/
def needTerminal (world : World) : Action Unit :=
  if world.canType then pure () else throw .noTerminal

/-- The mode of a pass; the interactive one needs a terminal. -/
def modeOf (world : World) (nonInteractive : Bool) : Action Mode := do
  if nonInteractive then return .nonInteractive
  needTerminal world
  return .interactive

/-- The prompter of the world. -/
def prompter (world : World) : Prompter (List String) :=
  terminal world.canSee

/-- The values that a run has found. -/
def valuesOf (run : Run (List String) Bindings) : Action Bindings := do
  tell (run.events.map Entry.ofEvent)
  orRefuse run.outcome

/-- Finds a value for every parameter (`run_resolve`). -/
def resolve (world : World) (nonInteractive : Bool) (input : InputArguments) : Action String := do
  let (manifest, overrides) ← inputs world input
  let mode ← modeOf world nonInteractive
  let values ←
    valuesOf (Provision.resolve (prompter world) mode manifest.params overrides world.typed)
  return input.format.printed values

/-- Finds new values for an installation; this is done with questions only
    (`run_configure`). -/
def configure (world : World) (nonInteractive : Bool) (input : InputArguments)
    (previous : String) : Action String := do
  if nonInteractive then throw (.configureNonInteractive previous)
  needTerminal world
  let (manifest, overrides) ← inputs world input
  let stored ← valuesAt world previous
  let values ←
    valuesOf (reconfigure (prompter world) .interactive manifest.params stored overrides
      world.typed)
  return input.format.printed values

/-- Moves an installation to other declarations, unless it has them already (`run_update`). -/
def update (world : World) (nonInteractive : Bool) (input : InputArguments)
    (origin previous : String) : Action String := do
  let (manifest, overrides) ← inputs world input
  let old ← manifestAt world origin
  let component := "params::commands::update"
  if old.sameVersion manifest then
    record .info component
      (previous ++ " is already up to date. Its version is " ++ manifest.version.getD "" ++ ".") []
    return ""
  record .info component
    ("Updating " ++ previous ++ " from version " ++ old.version.getD "unknown" ++
      " to version " ++ manifest.version.getD "unknown" ++ ".") []
  let mode ← modeOf world nonInteractive
  let stored ← valuesAt world previous
  let values ←
    valuesOf (Provision.update (prompter world) mode old.params manifest.params stored overrides
      world.typed)
  return input.format.printed values

/-- Runs a command with its flags; the result is what is printed (`run`). -/
def invoke (world : World) (invocation : Invocation) : Action String := do
  record .debug "params" "Verbose mode enabled" []
  match invocation.command with
  | .resolve input => resolve world invocation.nonInteractive input
  | .configure input previous => configure world invocation.nonInteractive input previous
  | .update input origin previous => update world invocation.nonInteractive input origin previous

/-- Whether a record is shown: those for debugging only if more output is asked for. -/
def isShown (verbose : Bool) (record : Record) : Bool :=
  verbose || record.level != .debug

/-- A character of a message; those that could steer a terminal are shown by their codes. -/
def messageChar (c : Char) : List Char :=
  if c = '\x1b' ∨ c = '\x07' ∨ c = '\x08' ∨ c = '\x0c' ∨ c = '\x7f' then
    ['\\', 'x'] ++ Nat.toDigits 16 (c.toNat / 16) ++ Nat.toDigits 16 (c.toNat % 16)
  else if 0x80 ≤ c.toNat ∧ c.toNat ≤ 0x9f then
    ['\\', 'u', '{'] ++ Nat.toDigits 16 c.toNat ++ ['}']
  else [c]

/-- The line of a record. The component is named if more output is asked for. -/
def line (verbose : Bool) (record : Record) : String :=
  record.level.name ++ " " ++ (if verbose then record.component ++ ": " else "") ++
    String.ofList (record.message.toList.flatMap messageChar) ++
    String.join (record.fields.map fun field => " " ++ field.1 ++ "=" ++ field.2.inLine)

/-- What a user gets to see on the way. -/
inductive Shown where
  | line (text : String)
  | question (question : Question)
  deriving DecidableEq

/-- What is shown of an entry. -/
def shown? (verbose : Bool) : Entry → Option Shown
  | .record r => if isShown verbose r then some (.line (line verbose r)) else none
  | .question q => some (.question q)

/-- How a command line ends. -/
inductive Outcome where
  /-- The arguments mean nothing. -/
  | rejected
  | finished (printed : String) (shown : List Shown)
  | refused (refusal : Refusal) (shown : List Shown)

/-- The text that names the program and its version. -/
def versionText : String :=
  "params 0.1.0\n"

/-- The text that explains the arguments. -/
def helpText : String :=
  "Usage: params [-v] resolve|configure|update -d FILE [-o FILE] [-f json|toml|env]\n" ++
    "  configure: -p FILE\n  update: --from FILE -p FILE\n  --non-interactive\n"

/-- Answers a request. -/
def answer (world : World) : Request → Outcome
  | .version => .finished versionText []
  | .help => .finished helpText []
  | .invoke invocation =>
    match (invoke world invocation).run [] with
    | (.ok printed, entries) => .finished printed (entries.filterMap (shown? invocation.verbose))
    | (.error refusal, entries) =>
      .refused refusal (entries.filterMap (shown? invocation.verbose))

/-- Runs a command line. -/
def run (world : World) (words : List String) : Outcome :=
  match Arguments.ofWords? world.environment words with
  | none => .rejected
  | some request => answer world request

/-- The status with which a command line ends. -/
def Outcome.status : Outcome → Nat
  | .rejected => 2
  | .finished _ _ => 0
  | .refused _ _ => 1

end CommandLine

end Provision
