import Dialogue.Project.Source

/-!
# What a compilation leaves behind

A compiled agent is written as JSON, as a module of JavaScript, or as both.

This is `write_artifacts` with `to_json` and `to_javascript`, and the naming of the files in
`handle_compile`.
-/
namespace Dialogue.Project

/-- JSON on one line or over several. -/
def jsonText (tree : Json) (pretty : Bool) : String := if pretty then tree.pretty else tree.compact

/-- A module that exports the parts of a compiled agent. -/
def javascript (c : CompiledAgent) : String :=
  "// Generated by rclc. Do not edit.\n\n" ++
    "export const agent = " ++ c.agent.toJson.pretty ++ ";\n\n" ++
    "export const messages = " ++ c.messagesJson.pretty ++ ";\n\n" ++
    "export const flows = " ++ (Flow.tableToJson c.flows).pretty ++ ";\n\n" ++
    "export default \x7b agent, messages, flows \x7d;\n"

/-- A file that a compilation may write. -/
inductive Artifact where
  | json | js
  deriving DecidableEq, Repr

namespace Artifact

/-- The files that a format asks for, in the order in which they are written. -/
def ofFormat (format : OutputFormat) : List Artifact :=
  (if format.wantsJson then [.json] else []) ++ (if format.wantsJs then [.js] else [])

def ending : Artifact → String
  | .json => ".json"
  | .js => ".js"

def path (directory stem : String) (a : Artifact) : String :=
  Path.join directory (stem ++ a.ending)

def text (c : CompiledAgent) (pretty : Bool) : Artifact → String
  | .json => jsonText c.toJson pretty
  | .js => javascript c

end Artifact

/-- Where the files of a document go: into the given directory, or beside the document. The document
itself is not written over. -/
def outputPlace (directory : Option String) (path : String) : String × String :=
  let directory := directory.getD ((Path.parent? path).getD "")
  let stem := outputStem path
  (directory,
    if Path.same (Artifact.path directory stem .json) path then stem ++ ".compiled" else stem)

variable {m : Type → Type} [Monad m]

/-- Writes one file of a compiled agent and says where. -/
def writeArtifact (host : Host m) (c : CompiledAgent) (directory stem : String) (pretty : Bool)
    (a : Artifact) : ExceptT Error m String := do
  let path := a.path directory stem
  match ← host.write path (a.text c pretty) with
  | .ok () => return path
  | .error fault => throw (.write path fault)

/-- Writes the files of a compiled agent and says where. -/
def writeArtifacts (host : Host m) (c : CompiledAgent) (directory stem : String)
    (format : OutputFormat) (pretty : Bool) : ExceptT Error m (List String) := do
  match ← host.makeDirectories directory with
  | .error fault => throw (.write directory fault)
  | .ok () => (Artifact.ofFormat format).mapM (writeArtifact host c directory stem pretty)

end Dialogue.Project
