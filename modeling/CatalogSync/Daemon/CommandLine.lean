/-!
# The command line

What a process is asked to do. Two options may stand before or behind the command, and behind it
they count more; an option takes its value attached or as the next argument. The first thing that
is wrong decides the error.
-/

namespace CatalogSync

/-- What a process is asked to do. -/
inductive Command where
  /-- Run cycles until the shutdown, or one cycle. -/
  | run (once : Bool)
  /-- See whether everything is there. -/
  | check
  /-- Show the cursors. -/
  | cursors
  deriving DecidableEq, Repr

structure Invocation where
  /-- The settings file. -/
  config : Option String
  logLevel : Option String
  command : Command
  deriving DecidableEq, Repr

/-- What a person can ask for help about: the program and its commands. -/
inductive HelpTopic where
  | program
  | run
  | check
  | cursors
  | help
  deriving DecidableEq, Repr

namespace HelpTopic

/-- The name of a command; the program goes without. -/
def name : HelpTopic → String
  | program => ""
  | run => "run"
  | check => "check"
  | cursors => "cursors"
  | help => "help"

def commands : List HelpTopic := [.run, .check, .cursors, .help]

def ofName? (name : String) : Option HelpTopic := commands.find? (·.name = name)

end HelpTopic

/-- Why arguments are no invocation. -/
inductive UsageError where
  | displayHelp (topic : HelpTopic)
  | displayVersion
  /-- Nothing was asked for. -/
  | displayHelpOnMissing
  | missingCommand
  | invalidCommand
  | unknownArgument
  /-- An option lacks its value. -/
  | invalidValue
  /-- A flag has a value. -/
  | tooManyValues
  /-- An option is repeated. -/
  | conflict
  deriving DecidableEq, Repr

namespace CommandLine

inductive Flag where
  | config
  | logLevel
  | help
  | version
  | once
  deriving DecidableEq, Repr

namespace Flag

def takesValue : Flag → Bool
  | config | logLevel => true
  | _ => false

def long : Flag → String
  | config => "config"
  | logLevel => "log-level"
  | help => "help"
  | version => "version"
  | once => "once"

def short? : Flag → Option Char
  | config => some 'c'
  | logLevel => some 'l'
  | help => some 'h'
  | version => some 'V'
  | once => none

end Flag

/-- The flags before the command. -/
def topFlags : List Flag := [.config, .logLevel, .help, .version]

/-- The flags behind a command. -/
def Command.flags : Command → List Flag
  | .run _ => [.once, .config, .logLevel, .help]
  | _ => [.config, .logLevel, .help]

def Command.topic : Command → HelpTopic
  | .run _ => .run
  | .check => .check
  | .cursors => .cursors

def command? : String → Option Command
  | "run" => some (.run false)
  | "check" => some .check
  | "cursors" => some .cursors
  | _ => none

/-- The options read so far on one side of the command. -/
structure Options where
  config : Option String
  logLevel : Option String
  once : Bool
  /-- The last option, whose value may still be missing. -/
  pending : Option (Flag × Option String)

namespace Options

def none : Options := ⟨.none, .none, false, .none⟩

def assign (o : Options) (flag : Flag) (value : String) : Except UsageError Options :=
  match flag, o.config, o.logLevel with
  | .config, .none, _ => .ok { o with config := some value }
  | .logLevel, _, .none => .ok { o with logLevel := some value }
  | _, _, _ => .error .conflict

/-- Take the last option in. -/
def settle (o : Options) : Except UsageError Options :=
  match o.pending with
  | .none => .ok o
  | some (_, .none) => .error .invalidValue
  | some (flag, some value) => { o with pending := .none }.assign flag value

/-- Whether the next argument may be the value of the last option. -/
def awaitsValue (o : Options) : Bool :=
  match o.pending with
  | some (_, .none) => true
  | _ => false

/-- A flag, with the value that is attached to it, if one is. Help is about the topic. -/
def meet (topic : HelpTopic) (o : Options) (flag : Flag) (attached : Option String) :
    Except UsageError Options :=
  if flag.takesValue then do
    let o ← o.settle
    match attached with
    | some value => o.assign flag value
    | .none => .ok { o with pending := some (flag, .none) }
  else if attached.isSome then .error .tooManyValues
  else do
    let o ← o.settle
    match flag with
    | .help => .error (.displayHelp topic)
    | .version => .error .displayVersion
    | _ => if o.once then .error .conflict else .ok { o with once := true }

/-- The value that the last option was waiting for. -/
def supply (o : Options) (value : String) : Options :=
  { o with pending := o.pending.map fun p => (p.1, some value) }

end Options

/-- What an argument looks like. -/
inductive Shape where
  /-- Two hyphens alone: no options follow. -/
  | escape
  | long (name : String) (attached : Option String)
  | short (letter : Char) (attached : Option String)
  | value

/-- A value behind an equals sign. -/
def attachedValue : List Char → Option String
  | '=' :: rest => some (String.ofList rest)
  | _ => none

def shapeOf (arg : String) : Shape :=
  match arg.toList with
  | ['-', '-'] => .escape
  | '-' :: '-' :: rest =>
    .long (String.ofList (rest.takeWhile (· ≠ '='))) (attachedValue (rest.dropWhile (· ≠ '=')))
  | '-' :: letter :: rest =>
    .short letter (match rest with
      | [] => none
      | '=' :: value => some (String.ofList value)
      | value => some (String.ofList value))
  | _ => .value

/-- Read an argument that is no command. `stray` is the error for a value that belongs nowhere. -/
def readOption (topic : HelpTopic) (flags : List Flag) (stray : UsageError) (arg : String)
    (o : Options) : Except UsageError Options :=
  let known (flag : Option Flag) (attached : Option String) : Except UsageError Options :=
    match flag with
    | some flag => o.meet topic flag attached
    | none => .error .unknownArgument
  match shapeOf arg with
  | .long name attached => known (flags.find? (·.long = name)) attached
  | .short letter attached =>
    match flags.find? (·.short? = some letter) with
    | some flag => o.meet topic flag (if flag.takesValue then attached else none)
    | none => .error .unknownArgument
  | _ => if o.awaitsValue then .ok (o.supply arg) else .error stray

/-- The options behind a command. -/
def readBehind (command : Command) (trailing : Bool) (o : Options) :
    List String → Except UsageError Options
  | [] => o.settle
  | arg :: rest =>
    if trailing then .error .unknownArgument
    else
      match shapeOf arg with
      | .escape => readBehind command true o rest
      | _ => do
        let o ← readOption (Command.topic command) (Command.flags command) .unknownArgument arg o
        readBehind command false o rest

/-- How the arguments of the help command end: one topic at most, which has to be known. -/
def helpError : List String → UsageError
  | [] => .displayHelp .program
  | [name] => (HelpTopic.ofName? name).elim .invalidCommand .displayHelp
  | _ => .invalidCommand

/-- The command with the options on both sides of it. -/
def combine (before : Options) (command : Command) (behind : Options) : Invocation where
  config := behind.config <|> before.config
  logLevel := behind.logLevel <|> before.logLevel
  command := match command with
    | .run _ => .run behind.once
    | c => c

/-- The arguments from before the command on. -/
def readTop (trailing : Bool) (o : Options) : List String → Except UsageError Invocation
  | [] => do
    let o ← o.settle
    if o.config.isNone && o.logLevel.isNone then .error .displayHelpOnMissing
    else .error .missingCommand
  | arg :: rest =>
    let isCommand := (command? arg).isSome || arg = "help"
    if trailing then .error (if isCommand then .unknownArgument else .invalidCommand)
    else if isCommand && !o.awaitsValue then
      match command? arg with
      | none => .error (helpError rest)
      | some command => do
        let behind ← readBehind command false .none rest
        let o ← o.settle
        .ok (combine o command behind)
    else
      match shapeOf arg with
      | .escape => readTop true o rest
      | _ => do
        let o ← readOption .program topFlags .invalidCommand arg o
        readTop false o rest

/-- The invocation that arguments spell; the first of them is the name of the program. -/
def parse (args : List String) : Except UsageError Invocation := readTop false .none (args.drop 1)

end CommandLine

end CatalogSync
