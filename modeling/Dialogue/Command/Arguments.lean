import Dialogue.Options
import Dialogue.Text.Blank

/-!
# Command lines

A command line is read from left to right. What asks for help or for the version answers at once, and the
first thing that is not understood refuses the whole line.

This is what `RclArgs` accepts. Why a line is refused is not modelled: all refused lines are `unclear`.
-/
namespace Dialogue.Command

/-- A subcommand with its own settings. -/
inductive Task where
  | compile (output : Option String) (format : Option OutputFormat) (pretty naming : Bool)
  | validate (naming json : Bool)
  | messages (pretty : Bool)
  deriving DecidableEq, Repr

/-- What is to be done, and on which path. -/
structure Job where
  task : Task
  path : String
  config : Option String
  noColor : Bool
  deriving DecidableEq, Repr

/-- What help is about. -/
inductive Topic where
  | program | compile | validate | messages | help
  deriving DecidableEq, Repr

/-- What a command line asks for. -/
inductive Request where
  | help (topic : Topic)
  | version
  | job (j : Job)
  | unclear
  deriving DecidableEq, Repr

/-- The names of the subcommands. -/
def topics : List (String × Topic) :=
  [("compile", .compile), ("validate", .validate), ("messages", .messages), ("help", .help)]

/-- An option: it stands alone or takes a value. -/
inductive Flag where
  | config | noColor | output | format | pretty | naming | json | help | version
  deriving DecidableEq, Repr

def Flag.takesValue : Flag → Bool
  | .config | .output | .format => true
  | _ => false

/-- The options that a subcommand, or the program itself, knows by a long name. -/
def longFlags : Topic → List (String × Flag)
  | .program =>
    [("config", .config), ("no-color", .noColor), ("help", .help), ("version", .version)]
  | .compile =>
    [("config", .config), ("output", .output), ("format", .format), ("no-color", .noColor),
      ("pretty", .pretty), ("naming", .naming), ("help", .help)]
  | .validate =>
    [("config", .config), ("naming", .naming), ("json", .json), ("no-color", .noColor),
      ("help", .help)]
  | .messages =>
    [("config", .config), ("pretty", .pretty), ("no-color", .noColor), ("help", .help)]
  | .help => []

/-- The options that are known by a letter. -/
def shortFlags : Topic → List (Char × Flag)
  | .program => [('h', .help), ('V', .version)]
  | .compile => [('o', .output), ('f', .format), ('h', .help)]
  | .validate | .messages => [('h', .help)]
  | .help => []

/-- What has been read at one level of a command line: at the program's own or at a subcommand's. -/
structure Level where
  config : Option String
  output : Option String
  format : Option OutputFormat
  path : Option String
  switches : List Flag

def Level.empty : Level := ⟨none, none, none, none, []⟩

/-- How a line goes on after one of its parts. -/
inductive Step where
  | next (level : Level)
  | stop (request : Request)

/-- Sets an option without a value. Each is given at most once. -/
def setSwitch (topic : Topic) (level : Level) (flag : Flag) : Step :=
  match flag with
  | .help => .stop (.help topic)
  | .version => .stop .version
  | _ =>
    if level.switches.contains flag then .stop .unclear
    else .next { level with switches := flag :: level.switches }

/-- Sets an option with a value. Each is given at most once, and no path is empty. -/
def setValue (level : Level) (flag : Flag) (value : String) : Step :=
  match flag with
  | .config =>
    if level.config.isSome || value.isEmpty then .stop .unclear
    else .next { level with config := some value }
  | .output =>
    if level.output.isSome || value.isEmpty then .stop .unclear
    else .next { level with output := some value }
  | .format =>
    match level.format, OutputFormat.ofName? value with
    | none, some format => .next { level with format := some format }
    | _, _ => .stop .unclear
  | _ => .stop .unclear

/-- Takes the path of a subcommand. There is one, and it is not empty. -/
def setPath (level : Level) (value : String) : Step :=
  if level.path.isSome || value.isEmpty then .stop .unclear
  else .next { level with path := some value }

/-- What an argument is, at a level with the options of a topic. -/
inductive Reading where
  /-- Not an option. -/
  | word
  /-- All that follows is no option. -/
  | terminator
  /-- Options with all that belongs to them. -/
  | complete (step : Step)
  /-- An option whose value is the next argument. -/
  | pending (level : Level) (flag : Flag)

/-- Splits `name=value`. -/
def splitValue : List Char → List Char × Option (List Char)
  | [] => ([], none)
  | '=' :: rest => ([], some rest)
  | c :: rest =>
    let (name, value) := splitValue rest
    (c :: name, value)

/-- Reads an option with a long name. -/
def readLong (topic : Topic) (level : Level) (cs : List Char) : Reading :=
  let (name, value) := splitValue cs
  match Table.lookup (String.ofList name) (longFlags topic) with
  | none => .complete (.stop .unclear)
  | some flag =>
    match value with
    | some value =>
      if flag.takesValue then .complete (setValue level flag (String.ofList value))
      else .complete (.stop .unclear)
    | none =>
      if flag.takesValue then .pending level flag else .complete (setSwitch topic level flag)

/-- Reads options that are known by letters; a value may follow its letter at once. -/
def readShort (topic : Topic) (level : Level) : List Char → Reading
  | [] => .complete (.next level)
  | c :: rest =>
    match (shortFlags topic).find? (fun entry => entry.1 == c) with
    | none => .complete (.stop .unclear)
    | some (_, flag) =>
      if flag.takesValue then
        match rest with
        | [] => .pending level flag
        | '=' :: value => .complete (setValue level flag (String.ofList value))
        | value => .complete (setValue level flag (String.ofList value))
      else
        match setSwitch topic level flag with
        | .next level => readShort topic level rest
        | .stop request => .complete (.stop request)

/-- Reads one argument. -/
def readArgument (topic : Topic) (level : Level) (arg : String) : Reading :=
  match arg.toList with
  | ['-', '-'] => .terminator
  | '-' :: '-' :: rest => readLong topic level rest
  | ['-'] => .word
  | '-' :: rest => readShort topic level rest
  | _ => .word

/-- Whether an argument can be the value of the option before it. -/
def isValue (arg : String) : Bool :=
  match arg.toList with
  | '-' :: _ :: _ => false
  | _ => true

/-- The job of a subcommand, once its line is read. -/
def jobOf (topic : Topic) (above level : Level) : Request :=
  let has (flag : Flag) : Bool := level.switches.contains flag
  let task : Option Task :=
    match topic with
    | .compile => some (.compile level.output level.format (has .pretty) (has .naming))
    | .validate => some (.validate (has .naming) (has .json))
    | .messages => some (.messages (has .pretty))
    | _ => none
  match task, level.path with
  | some task, some path =>
    .job ⟨task, path, level.config.or above.config,
      has .noColor || above.switches.contains .noColor⟩
  | _, _ => .unclear

/-- Reads the arguments of a subcommand; behind a terminator, all of them are words. -/
def readTask (topic : Topic) (above : Level) :
    Option Flag → Bool → Level → List String → Request
  | some _, _, _, [] => .unclear
  | none, _, level, [] => jobOf topic above level
  | some flag, _, level, arg :: rest =>
    if isValue arg then
      match setValue level flag arg with
      | .next level => readTask topic above none false level rest
      | .stop request => request
    else .unclear
  | none, true, level, arg :: rest =>
    match setPath level arg with
    | .next level => readTask topic above none true level rest
    | .stop request => request
  | none, false, level, arg :: rest =>
    match readArgument topic level arg with
    | .terminator => readTask topic above none true level rest
    | .pending level flag => readTask topic above (some flag) false level rest
    | .complete (.stop request) => request
    | .complete (.next level) => readTask topic above none false level rest
    | .word =>
      match setPath level arg with
      | .next level => readTask topic above none false level rest
      | .stop request => request

/-- The topic that `help` is asked about. -/
def readHelp : List String → Request
  | [] => .help .program
  | [name] =>
    match Table.lookup name topics with
    | some topic => .help topic
    | none => .unclear
  | _ => .unclear

/-- Reads the arguments before the subcommand, and then those of the subcommand. -/
def readProgram : Option Flag → Level → List String → Request
  | _, _, [] => .unclear
  | some flag, level, arg :: rest =>
    if isValue arg then
      match setValue level flag arg with
      | .next level => readProgram none level rest
      | .stop request => request
    else .unclear
  | none, level, arg :: rest =>
    match readArgument .program level arg with
    | .terminator => .unclear
    | .pending level flag => readProgram (some flag) level rest
    | .complete (.stop request) => request
    | .complete (.next level) => readProgram none level rest
    | .word =>
      match Table.lookup arg topics with
      | none => .unclear
      | some .help => readHelp rest
      | some topic => readTask topic level none false .empty rest

/-- What a command line asks for. -/
def Request.ofArguments (args : List String) : Request := readProgram none .empty args

end Dialogue.Command
