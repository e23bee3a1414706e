import ChallengeLogin.CommandLine.Option

namespace ChallengeLogin.CommandLine

inductive Fault where
  | helpShown
  | versionShown
  -- help in place of a command line that gives nothing
  | nothingGiven
  | noCommand (program : String)
  | unknownCommand (word : String)
  | unknownArgument (word : String)
  -- a value on an option that takes none
  | needlessValue (label value : String)
  | missingValue (label : String)
  | givenTwice (label : String)
  | badValue (label value reason : String)
  | missingArguments (labels : List String)
deriving DecidableEq, Repr

-- The exit code of the program where a command line is refused.
def Fault.exitCode : Fault → Nat
  | .helpShown | .versionShown => 0
  | _ => 2

section Values

-- Where a value comes from, the weakest first.
inductive Source where
  | implied
  | environment
  | words
deriving DecidableEq, Repr

def Source.rank : Source → Nat
  | .implied => 0
  | .environment => 1
  | .words => 2

-- A number of verbosity steps and where it comes from.
structure Verbosity where
  source : Source := .implied
  steps : Nat := 0
deriving DecidableEq, Repr

-- The verbosity of a command within a program. The command's own one counts unless it comes from a
-- weaker source.
def Verbosity.within (command program : Verbosity) : Verbosity :=
  if command.source.rank < program.source.rank then program else command

structure Values where
  url : Option Url := none
  secretKey : Option String := none
  nonce : Option String := none
  showCookie : Bool := false
  cookie : Option String := none
  verbosity : Verbosity := {}
deriving DecidableEq, Repr

namespace Values

-- Whether an option has been given.
def has (values : Values) : Opt → Bool
  | .url => values.url.isSome
  | .secretKey => values.secretKey.isSome
  | .nonce => values.nonce.isSome
  | .showCookie => values.showCookie
  | .cookie => values.cookie.isSome
  | .verbosity => values.verbosity.source ≠ .implied
  | .help | .version => false

-- Sets the value of an option from a text.
def put (values : Values) (source : Source) (opt : Opt) (text : String) : Except Fault Values :=
  match opt with
  | .url =>
    match siteOf text with
    | .ok url => .ok { values with url := some url }
    | .error reason => .error (.badValue opt.label text reason)
  | .secretKey => .ok { values with secretKey := some text }
  | .nonce => .ok { values with nonce := some text }
  | .cookie => .ok { values with cookie := some text }
  | .showCookie => .ok { values with showCookie := true }
  | .verbosity =>
    match stepsOf text with
    | .ok steps => .ok { values with verbosity := ⟨source, steps⟩ }
    | .error reason => .error (.badValue opt.label text reason)
  | .help | .version => .ok values

end Values

end Values

-- A command and the options that it has, in the order in which they are declared.
structure Command where
  name : String
  options : List Opt
  required : List Opt
deriving DecidableEq, Repr

-- A program and its commands.
structure Interface where
  name : String
  options : List Opt
  commands : List Command
  needsCommand : Bool
deriving DecidableEq, Repr

section Words

-- The kinds of words.
inductive Word where
  -- ends the options
  | divider
  | long (name : String) (value : Option String)
  | letters (letters : List Char)
  | plain
deriving DecidableEq, Repr

-- The kind of a word. A single dash is a plain word.
def Word.ofText (text : String) : Word :=
  match text.toList with
  | ['-', '-'] => .divider
  | '-' :: '-' :: rest =>
    let (name, value) := Text.cutAt (· == '=') rest
    .long (String.ofList name) (value.map String.ofList)
  | '-' :: c :: rest => .letters (c :: rest)
  | _ => .plain

-- What has been read of the words of a program or of a command
structure State where
  values : Values := {}
  -- an option that takes a value, with the value once it is there; the next option sets it
  pending : Option (Opt × Option String) := none
  divided : Bool := false
deriving DecidableEq, Repr

namespace State

-- Whether the next plain word is a value.
def awaitsValue (state : State) : Bool :=
  match state.pending with
  | some (_, none) => true
  | _ => false

-- Sets an option that takes a value.
def assign (values : Values) (opt : Opt) (value : Option String) : Except Fault Values :=
  match value with
  | none => .error (.missingValue opt.label)
  | some text =>
    if values.has opt then .error (.givenTwice opt.label) else values.put .words opt text

-- Sets the pending option.
def settle (state : State) : Except Fault State :=
  match state.pending with
  | none => .ok state
  | some (opt, value) =>
    (assign state.values opt value).map fun values => { state with values, pending := none }

-- Uses an option that takes no value.
def useBare (state : State) (opt : Opt) : Except Fault State := do
  let state ← state.settle
  match opt.use with
  | .shown => .error (if opt = .version then .versionShown else .helpShown)
  | .counted =>
    let values ← state.values.put .words opt (toString (state.values.verbosity.steps + 1))
    return { state with values }
  | .bare | .valued =>
    if state.values.has opt then .error (.givenTwice opt.label)
    else
      let values ← state.values.put .words opt "true"
      return { state with values }

-- Uses an option with a value in the same word, or with one that is still to come.
def useValued (state : State) (opt : Opt) (value : Option String) : Except Fault State := do
  let state ← state.settle
  match value with
  | none => return { state with pending := some (opt, none) }
  | some text =>
    let values ← assign state.values opt (some text)
    return { state with values }

-- A word of the form `--name` or `--name=value`.
def long (options : List Opt) (state : State) (name : String) (value : Option String) :
    Except Fault State :=
  match options.find? (·.name = name) with
  | none => .error (.unknownArgument (Opt.dashed name))
  | some opt =>
    if opt.use = .valued then state.useValued opt value
    else
      match value with
      | some text => .error (.needlessValue opt.label text)
      | none => state.useBare opt

-- The letters behind a dash. The first one whose option takes a value has the rest of the word as
-- its value, without an equals sign in front.
def cluster (options : List Opt) (state : State) : List Char → Except Fault State
  | [] => .ok state
  | c :: rest =>
    match options.find? (·.letter? = some c) with
    | none => .error (.unknownArgument (String.ofList ['-', c]))
    | some opt =>
      if opt.use = .valued then
        state.useValued opt <| match rest with
          | [] => none
          | '=' :: value => some (String.ofList value)
          | value => some (String.ofList value)
      else
        match state.useBare opt with
        | .error fault => .error fault
        | .ok next => cluster options next rest

end State

-- What follows a command name, if the words end in one.
abbrev Continuation := Option (String × List String)

-- Reads words up to the name of a command
def readWords (options : List Opt) (commands : List String) (state : State) :
    List String → Except Fault (State × Continuation)
  | [] => .ok (state, none)
  | word :: rest =>
    if state.divided then
      if commands.isEmpty || commands.contains word then .error (.unknownArgument word)
      else .error (.unknownCommand word)
    else if !state.awaitsValue && commands.contains word then .ok (state, some (word, rest))
    else
      match Word.ofText word with
      | .divider => readWords options commands { state with divided := true } rest
      | .long name value =>
        match state.long options name value with
        | .error fault => .error fault
        | .ok next => readWords options commands next rest
      | .letters letters =>
        match state.cluster options letters with
        | .error fault => .error fault
        | .ok next => readWords options commands next rest
      | .plain =>
        match state.pending with
        | some (opt, none) =>
          readWords options commands { state with pending := some (opt, some word) } rest
        | _ =>
          if commands.isEmpty then .error (.unknownArgument word) else .error (.unknownCommand word)

end Words

-- The variables that are set.
abbrev Environment := List (String × String)

-- Sets the options that were not given from the environment, in order of declaration.
def fill (environment : Environment) (options : List Opt) (values : Values) : Except Fault Values :=
  options.foldlM (fun values opt =>
    if values.has opt then .ok values
    else
      match opt.envName?.bind (List.lookup · environment) with
      | none => .ok values
      | some text => values.put .environment opt text) values

namespace Command

-- Refuses values that lack a required option.
def complete (command : Command) (values : Values) : Except Fault Values :=
  match command.required.filter (fun opt => !values.has opt) with
  | [] => .ok values
  | missing => .error (.missingArguments (missing.map Opt.label))

-- Reads the words behind the name of a command.
def parse (command : Command) (environment : Environment) (words : List String) :
    Except Fault Values := do
  let (state, _) ← readWords command.options [] {} words
  let state ← state.settle
  command.complete (← fill environment command.options state.values)

end Command

-- What a command line asks for: a command with its values, and the verbosity of the program.
structure Invocation where
  command : Option String
  values : Values
  programVerbosity : Nat
deriving DecidableEq, Repr

-- The number of verbosity steps in use.
def Invocation.verbosity (invocation : Invocation) : Nat :=
  max invocation.programVerbosity invocation.values.verbosity.steps

namespace Interface

def helpCommand : String := "help"

-- The words that name commands. Where there are commands, help is one of them.
def commandNames (program : Interface) : List String :=
  if program.commands.isEmpty then [] else program.commands.map (·.name) ++ [helpCommand]

-- Help on the command that words name. No command has commands of its own.
def help (program : Interface) : List String → Fault
  | [] => .helpShown
  | word :: rest =>
    if program.commandNames.contains word then
      match rest with
      | [] => .helpShown
      | other :: _ => .unknownCommand other
    else .unknownCommand word

-- Reads a command line.
def parse (program : Interface) (environment : Environment) (words : List String) :
    Except Fault Invocation := do
  let (state, continuation) ← readWords program.options program.commandNames {} words
  match continuation with
  | none =>
    let state ← state.settle
    let values ← fill environment program.options state.values
    if program.needsCommand then
      if values.verbosity.source = .implied then .error .nothingGiven
      else .error (.noCommand program.name)
    else return ⟨none, values, values.verbosity.steps⟩
  | some (name, rest) =>
    match program.commands.find? (·.name = name) with
    | none => .error (program.help rest)
    | some command =>
      let inner ← command.parse environment rest
      let outer ← fill environment program.options state.values
      let verbosity := inner.verbosity.within outer.verbosity
      return ⟨some name, { inner with verbosity }, verbosity.steps⟩

end Interface

end ChallengeLogin.CommandLine
