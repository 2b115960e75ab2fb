import Provision.Output.Format

/-!
# Arguments of the command line

A command, options with a value each, and flags. An option is given as one word with its value
or as two; the short flags and one short option can share a word. Nothing may be given twice, and
words that mean nothing are refused.
-/

namespace Provision

/-- The commands. -/
inductive CommandName where
  | resolve
  | configure
  | update
  deriving DecidableEq, Repr

/-- The command with a name. -/
def CommandName.ofName? (name : String) : Option CommandName :=
  if name = "resolve" then some .resolve
  else if name = "configure" then some .configure
  else if name = "update" then some .update
  else none

/-- The files that every command reads, and the format of its output (`InputArgs`). -/
structure InputArguments where
  declarations : String
  overrides : Option String
  format : Format
  deriving DecidableEq, Repr

/-- A command with its arguments (`Commands`). -/
inductive Command where
  | resolve (input : InputArguments)
  | configure (input : InputArguments) (previous : String)
  | update (input : InputArguments) (origin previous : String)
  deriving DecidableEq, Repr

/-- A command with the flags that go with it (`Cli`). -/
structure Invocation where
  verbose : Bool
  nonInteractive : Bool
  command : Command
  deriving DecidableEq, Repr

/-- What a user asks for. -/
inductive Request where
  | version
  | help
  | invoke (invocation : Invocation)
  deriving DecidableEq, Repr

namespace Arguments

/-- The options that have a value. -/
inductive OptionName where
  | declarations
  | overrides
  | format
  | previous
  | origin
  deriving DecidableEq, Repr

/-- The options that a command has. -/
def OptionName.isOf : OptionName → CommandName → Bool
  | .previous, command => command != .resolve
  | .origin, command => command == .update
  | _, _ => true

/-- The option with a long name. -/
def OptionName.ofLong? (name : String) : Option OptionName :=
  if name = "declarations" then some .declarations
  else if name = "overrides" then some .overrides
  else if name = "format" then some .format
  else if name = "previous" then some .previous
  else if name = "from" then some .origin
  else none

/-- The option with a short name. -/
def OptionName.ofShort? (name : Char) : Option OptionName :=
  if name = 'd' then some .declarations
  else if name = 'o' then some .overrides
  else if name = 'f' then some .format
  else if name = 'p' then some .previous
  else none

/-- What has been given to a command so far. -/
structure Given where
  verbose : Bool
  nonInteractive : Bool
  help : Bool
  declarations : Option String
  overrides : Option String
  format : Option Format
  previous : Option String
  origin : Option String

/-- Nothing given. -/
def Given.nothing : Given :=
  ⟨false, false, false, none, none, none, none, none⟩

/-- A path that is given for the first time. A path is not empty. -/
def newPath? (old : Option String) (value : String) : Option String :=
  if old.isSome || value.isEmpty then none else some value

/-- Gives an option its value. -/
def Given.setOption? (given : Given) (option : OptionName) (value : String) : Option Given :=
  match option with
  | .declarations =>
    (newPath? given.declarations value).map fun path => { given with declarations := some path }
  | .overrides =>
    (newPath? given.overrides value).map fun path => { given with overrides := some path }
  | .format =>
    if given.format.isSome then none
    else (Format.ofName? value).map fun format => { given with format := some format }
  | .previous =>
    (newPath? given.previous value).map fun path => { given with previous := some path }
  | .origin =>
    (newPath? given.origin value).map fun path => { given with origin := some path }

/-- Gives the flag for more output. -/
def Given.setVerbose? (given : Given) : Option Given :=
  if given.verbose then none else some { given with verbose := true }

/-- Gives the flag that forbids questions. -/
def Given.setNonInteractive? (given : Given) : Option Given :=
  if given.nonInteractive then none else some { given with nonInteractive := true }

/-- Whether a word can be the value of the option in front of it: it is no option itself. -/
def takesNext (word : String) : Bool :=
  word == "-" || !word.startsWith "-"

/-- A text without the given character in front. -/
def withoutFirst (c : Char) (cs : List Char) : List Char :=
  match cs with
  | d :: rest => if d = c then rest else cs
  | [] => []

/-- Reads the short flags and options of one word; an option without a value in the word waits
    for it. -/
def readShort? (command : CommandName) (given : Given) :
    List Char → Option (Given × Option OptionName)
  | [] => some (given, none)
  | 'v' :: rest => given.setVerbose?.bind fun given => readShort? command given rest
  | 'h' :: _ => some ({ given with help := true }, none)
  | c :: rest =>
    match OptionName.ofShort? c with
    | none => none
    | some option =>
      if !option.isOf command then none
      else if rest.isEmpty then some (given, some option)
      else
        (given.setOption? option (String.ofList (withoutFirst '=' rest))).map (·, none)

/-- Reads a long flag or option, with the value that an equals sign attaches to it. -/
def readLong? (command : CommandName) (given : Given) (name : String)
    (value : Option String) : Option (Given × Option OptionName) :=
  match OptionName.ofLong? name with
  | some option =>
    if !option.isOf command then none
    else
      match value with
      | some value => (given.setOption? option value).map (·, none)
      | none => some (given, some option)
  | none =>
    if value.isSome then none
    else if name = "verbose" then given.setVerbose?.map (·, none)
    else if name = "non-interactive" then given.setNonInteractive?.map (·, none)
    else if name = "help" then some ({ given with help := true }, none)
    else none

/-- The name and the attached value of a long option. -/
def splitEquals (cs : List Char) : String × Option String :=
  match cs.span (· != '=') with
  | (name, '=' :: value) => (String.ofList name, some (String.ofList value))
  | (name, _) => (String.ofList name, none)

/-- Reads one word behind a command. -/
def readWord? (command : CommandName) (given : Given) (word : String) :
    Option (Given × Option OptionName) :=
  match word.toList with
  | '-' :: '-' :: rest =>
    let parts := splitEquals rest
    readLong? command given parts.1 parts.2
  | '-' :: c :: rest => readShort? command given (c :: rest)
  | _ => none

/-- Reads the words behind a command. An option that waits for its value takes the next word,
    and help is given as soon as it is asked for. -/
def readWords? (command : CommandName) :
    Option OptionName → Given → List String → Option Given
  | none, given, [] => some given
  | some _, _, [] => none
  | some option, given, word :: rest =>
    if takesNext word then
      (given.setOption? option word).bind fun given => readWords? command none given rest
    else none
  | none, given, word :: rest =>
    if word = "--" then (if rest.isEmpty then some given else none)
    else
      match readWord? command given word with
      | none => none
      | some (given, waiting) =>
        if given.help then some given else readWords? command waiting given rest

/-- The command that has been given, if nothing that it needs is missing. -/
def Given.command? (given : Given) (name : CommandName) : Option Command := do
  let declarations ← given.declarations
  let input : InputArguments := ⟨declarations, given.overrides, given.format.getD .json⟩
  match name with
  | .resolve => return .resolve input
  | .configure => return .configure input (← given.previous)
  | .update => return .update input (← given.origin) (← given.previous)

/-- Whether questions are forbidden by the flag, or else by the environment, which says `true`
    or `false` if it says anything. -/
def nonInteractive? (flag : Bool) (environment : Option String) : Option Bool :=
  if flag then some true
  else
    match environment with
    | none => some false
    | some value =>
      if value = "true" then some true else if value = "false" then some false else none

/-- The request that the words behind a command make. -/
def request? (environment : Option String) (verbose : Bool) (name : CommandName)
    (words : List String) : Option Request := do
  let given ← readWords? name none .nothing words
  if given.help then return .help
  let nonInteractive ← nonInteractive? given.nonInteractive environment
  let command ← given.command? name
  return .invoke ⟨verbose || given.verbose, nonInteractive, command⟩

/-- What the short flags in front of a command ask for: a request, or more output or not. -/
def readLeading? (verbose : Bool) : List Char → Option (Request ⊕ Bool)
  | [] => some (.inr verbose)
  | c :: rest =>
    if c = 'v' then (if verbose then none else readLeading? true rest)
    else if c = 'V' then some (.inl .version)
    else if c = 'h' then some (.inl .help)
    else none

/-- What a flag in front of a command asks for. -/
def leading? (verbose : Bool) (word : String) : Option (Request ⊕ Bool) :=
  if word = "--verbose" then (if verbose then none else some (.inr true))
  else if word = "--version" then some (.inl .version)
  else if word = "--help" then some (.inl .help)
  else
    match word.toList with
    | '-' :: c :: rest => readLeading? verbose (c :: rest)
    | _ => none

/-- Whether there is help for these words: none, the name of a command, or `help` itself. -/
def isTopic : List String → Bool
  | [] => true
  | [word] => word == "help" || (CommandName.ofName? word).isSome
  | "help" :: [word] => word == "help" || (CommandName.ofName? word).isSome
  | _ => false

/-- The request that the words of a command line make; `verbose` tells whether more output has
    been asked for already. -/
def readRequest? (environment : Option String) (verbose : Bool) : List String → Option Request
  | [] => none
  | word :: rest =>
    match CommandName.ofName? word with
    | some name => request? environment verbose name rest
    | none =>
      if word = "help" then (if isTopic rest then some .help else none)
      else
        match leading? verbose word with
        | none => none
        | some (.inl request) => some request
        | some (.inr verbose) => readRequest? environment verbose rest

/-- The request of a command line, with what the environment says of questions. -/
def ofWords? (environment : Option String) (words : List String) : Option Request :=
  readRequest? environment false words

end Arguments

end Provision
