import Dialogue.Command.Help
import Dialogue.Files.Host
import Dialogue.Project.Artifact
import Dialogue.Project.Config
import Dialogue.Report.Basic

/-!
# Running a command

Documents are found, loaded and compiled; findings and a line about each document go to one channel, what
was asked for to the other. A document that cannot be loaded is reported and the others go on.

This is `run` with `handle_compile`, `handle_validate`, `handle_messages`, `load_config` and
`load_inputs`. The log, which goes to the channel of the findings and holds warnings unless the
environment asks for more or less, is not modelled, nor are failures to print.
-/
namespace Dialogue.Command

open Project (Error)

/-- What a run has printed. -/
structure Console where
  stdout : String
  stderr : String

/-- A run that prints, on top of what the host does. -/
abbrev Session (m : Type → Type) := StateT Console m

/-- How a line about a document is meant. -/
inductive Status where
  | good | doubtful | bad
  deriving DecidableEq, Repr

/-- The width of the word that a status line starts with. -/
def statusWidth : Nat := 12

/-- How terminals switch to bold letters of a colour. -/
def Status.style : Status → String
  | .good => "\x1b[0m\x1b[1m\x1b[32m"
  | .doubtful => "\x1b[0m\x1b[1m\x1b[33m"
  | .bad => "\x1b[0m\x1b[1m\x1b[31m"

def statusLine (coloured : Bool) (status : Status) (label text : String) : String :=
  let label := Text.padLeft statusWidth label
  (if coloured then status.style ++ label ++ Report.plain else label) ++ " " ++ text ++ "\n"

/-- Errors and warnings of a document, counted. -/
def summary (path : String) (result : CompilationResult) : String :=
  let count (severity : Severity) : String :=
    toString (result.diagnostics.filter fun d => d.severity == severity).length
  path ++ ": " ++ count .error ++ " error(s), " ++ count .warning ++ " warning(s)"

/-- Documents with their paths. -/
abbrev Loaded := List (String × SourceDocument)

variable {m : Type → Type} [Monad m]

def printOut (text : String) : Session m Unit :=
  modify fun console => { console with stdout := console.stdout ++ text }

def printError (text : String) : Session m Unit :=
  modify fun console => { console with stderr := console.stderr ++ text }

def printStatus (coloured : Bool) (status : Status) (label text : String) : Session m Unit :=
  printError (statusLine coloured status label text)

def printDiagnostics (coloured : Bool) (source : Option String) (ds : List Diagnostic) :
    Session m Unit :=
  ds.forM fun d => printError (Report.render d source coloured)

/-- Runs something on the host that may fail. -/
def attempt {α : Type} (x : ExceptT Error m α) : Session m (Except Error α) := StateT.lift x.run

/-- The directory whose configuration applies to a path. -/
def configDirectory (host : Host m) (path : String) : Session m String := do
  match ← StateT.lift (host.kind path) with
  | .directory => return path
  | _ => return (Path.parent? path).getD ""

def loadOptions (host : Host m) (job : Job) : Session m (Except Error ProjectOptions) := do
  match job.config with
  | some path => attempt (Project.loadConfig host path)
  | none => do attempt (Project.discoverConfig host (← configDirectory host job.path))

/-- Loads documents one by one; those that cannot be loaded are reported and decide how the run ends. -/
def loadAll (host : Host m) (coloured : Bool) :
    List String → Session m (Loaded × ExitCode)
  | [] => return ([], .success)
  | path :: rest => do
    match ← attempt (Project.load host path) with
    | .ok source =>
      let (loaded, exit) ← loadAll host coloured rest
      return ((path, source) :: loaded, exit)
    | .error e =>
      printDiagnostics coloured none e.diagnostic?.toList
      let (loaded, exit) ← loadAll host coloured rest
      return (loaded, e.exitCode.worst exit)

/-- Compiles a document, reports on it and writes what comes of it. -/
def compileOne (host : Host m) (coloured : Bool) (options : CompilerOptions)
    (output : OutputOptions) (path : String) (source : SourceDocument) : Session m ExitCode := do
  let result := compile options source
  printDiagnostics coloured source.source result.diagnostics
  match result.data with
  | none =>
    printStatus coloured .bad "Failed" (summary path result)
    return result.exitCode
  | some compiled =>
    let (directory, stem) := Project.outputPlace output.directory path
    match ← attempt
      (Project.writeArtifacts host compiled directory stem output.format output.pretty) with
    | .ok written =>
      printStatus coloured .good "Compiled" (path ++ " -> " ++ Text.join ", " written)
      return result.exitCode
    | .error e =>
      printStatus coloured .bad "error" e.fullMessage
      return result.exitCode.worst e.exitCode

/-- Reports on a document. -/
def validateOne (coloured : Bool) (options : CompilerOptions) (path : String)
    (source : SourceDocument) : Session m ExitCode := do
  let result := compile options source
  printDiagnostics coloured source.source result.diagnostics
  if result.success then printStatus coloured .good "Valid" (summary path result)
  else printStatus coloured .bad "Invalid" (summary path result)
  return result.exitCode

/-- The report on a document as JSON. -/
def validateJson (options : CompilerOptions) (path : String) (source : SourceDocument) : Json :=
  let result := compile options source
  .obj [("file", .str path), ("success", .bool result.success),
    ("diagnostics", .arr (result.diagnostics.map Diagnostic.toJson))]

/-- The messages of a document; what went wrong with them is a warning. -/
def messagesOne (coloured : Bool) (options : CompilerOptions) (source : SourceDocument) :
    Session m Json := do
  let extraction := Message.extract source.ast options.effectiveScanDepth
  extraction.errors.forM fun error => printStatus coloured .doubtful "warning" error
  return extraction.toJson

/-- The gravest outcome of all documents. -/
def worstOver (exit : ExitCode) (loaded : Loaded)
    (step : String → SourceDocument → Session m ExitCode) : Session m ExitCode :=
  loaded.foldlM (fun exit (path, source) => do return exit.worst (← step path source)) exit

/-- The options of a project when the naming conventions are asked for or not. -/
def withNaming (options : CompilerOptions) (naming : Bool) : CompilerOptions :=
  { options with namingConventions := options.namingConventions || naming }

/-- What is asked for on the command line comes before what the project says. -/
def withRequest (options : OutputOptions) (directory : Option String) (format : Option OutputFormat)
    (pretty : Bool) : OutputOptions :=
  ⟨format.getD options.format, pretty || options.pretty, directory.or options.directory⟩

/-- Carries out a task on documents that are loaded. -/
def perform (host : Host m) (coloured : Bool) (options : ProjectOptions) (loaded : Loaded)
    (exit : ExitCode) : Task → Session m ExitCode
  | .compile directory format pretty naming =>
    worstOver exit loaded (compileOne host coloured (withNaming options.compiler naming)
      (withRequest options.output directory format pretty))
  | .validate naming json => do
    let compiler := withNaming options.compiler naming
    if json then do
      printOut
        (Project.jsonText (.arr (loaded.map fun (path, source) => validateJson compiler path source))
          true ++ "\n")
      worstOver exit loaded fun _ source => return (compile compiler source).exitCode
    else worstOver exit loaded (validateOne coloured compiler)
  | .messages pretty => do
    let entries ← loaded.mapM fun (path, source) => do
      return (path, ← messagesOne coloured options.compiler source)
    printOut (Project.jsonText (.obj entries) pretty ++ "\n")
    return exit

/-- Does a job, unless the project cannot even be read. -/
def runJob (host : Host m) (coloured : Bool) (job : Job) : Session m ExitCode := do
  let failed (e : Error) : Session m ExitCode := do
    match e.diagnostic? with
    | some d => printDiagnostics coloured none [d]
    | none => printStatus coloured .bad "error" e.fullMessage
    return e.exitCode
  match ← loadOptions host job with
  | .error e => failed e
  | .ok options =>
    match ← attempt (Project.discover host job.path) with
    | .error e => failed e
    | .ok paths =>
      let (loaded, exit) ← loadAll host coloured paths
      perform host coloured options loaded exit job.task

/-- How a run ended and what it printed. -/
structure Outcome where
  exit : ExitCode
  stdout : String
  stderr : String

/-- Runs a command line. Colours are used on a terminal only. -/
def run (host : Host m) (terminal : Bool) (args : List String) : m Outcome := do
  match Request.ofArguments args with
  | .help topic => return ⟨.success, helpText topic, ""⟩
  | .version => return ⟨.success, versionText, ""⟩
  | .unclear => return ⟨.usage, "", helpText .program⟩
  | .job job =>
    let (exit, console) ← (runJob host (terminal && !job.noColor) job).run ⟨"", ""⟩
    return ⟨exit, console.stdout, console.stderr⟩

end Dialogue.Command
