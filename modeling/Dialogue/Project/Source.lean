import Dialogue.Compilation
import Dialogue.Files.Path
import Dialogue.Project.Error

/-!
# Source documents on a host

A path is a document of its own, or a directory below which all documents are found.

These are `discover_sources`, `is_source_file`, `load_source` and `output_stem`.
-/
namespace Dialogue.Project

/-- The ending of the names of documents. -/
def sourceEnding : String := ".ast.json"

def isSource (path : String) : Bool :=
  match Path.fileName? path with
  | some name => Text.endsWith name sourceEnding
  | none => false

/-- The name that what is compiled from a path goes by. -/
def outputStem (path : String) : String :=
  let name := (Path.fileName? path).getD "agent"
  match Text.withoutEnding? name sourceEnding with
  | some stem => stem
  | none => (Text.withoutEnding? name ".json").getD name

variable {m : Type → Type} [Monad m]

/-- The documents at or below a path, in the order of their paths. -/
def discover (host : Host m) (root : String) : ExceptT Error m (List String) := do
  match ← host.kind root with
  | .missing => throw (.notFound root)
  | .file => return [root]
  | .directory =>
    match ← host.walk root with
    | .error fault => throw (.walk root fault)
    | .ok paths => return Path.sort (paths.filter isSource)

/-- The document in a text. One that does not say where it comes from takes its path. -/
def parseSource (path text : String) : Except Error SourceDocument :=
  match SourceDocument.decoder.runText text with
  | .error e => .error (.decode path e)
  | .ok s => .ok { s with uri := s.uri.or (some path) }

def load (host : Host m) (path : String) : ExceptT Error m SourceDocument := do
  match ← host.read path with
  | .error fault => throw (.ofRead path fault)
  | .ok text =>
    match parseSource path text with
    | .ok s => return s
    | .error e => throw e

end Dialogue.Project
