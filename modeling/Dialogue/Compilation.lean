import Dialogue.Agent
import Dialogue.Check.Naming
import Dialogue.Check.Structure
import Dialogue.Document.Wire
import Dialogue.ExitCode
import Dialogue.Options

/-!
# Compilation

A document is checked, its messages are extracted and its flows compiled. The findings of all passes go
behind those of the parser, and the result is put together only when none of them is an error.

This is `compile` with `empty_message_sections` and `assemble`. `compile_workspace` compiles documents
side by side; they share nothing, so here they come one after the other. What is logged is not modelled.
-/
namespace Dialogue

open Json (Decoder)

/-- A parsed document as it is handed over. -/
structure SourceDocument where
  uri : Option String
  ast : Document
  diagnostics : List Diagnostic
  source : Option String

/-- What a successful compilation yields. -/
structure CompiledAgent where
  agent : Agent
  messages : Table Content
  flows : Table Flow

structure CompilationResult where
  success : Bool
  diagnostics : List Diagnostic
  data : Option CompiledAgent

def CompilationResult.exitCode (r : CompilationResult) : ExitCode :=
  .ofDiagnostics r.diagnostics

namespace Compilation

/-- A section of messages that declares none. -/
def emptyMessages (doc : Document) : List Finding :=
  ((doc.gather "messages").filter fun s => !s.children.any Section.isMessage).map fun s =>
    ⟨.emptyMessages, s.range⟩

/-- What the compiler itself finds. -/
def findings (options : CompilerOptions) (doc : Document) : List Finding :=
  Check.document doc ++ (if options.namingConventions then Check.naming doc else []) ++
    emptyMessages doc

/-- The findings of the parser, then the compiler's own. -/
def merged (options : CompilerOptions) (input : SourceDocument) : List Diagnostic :=
  input.diagnostics ++ (findings options input.ast).map Finding.diagnostic

/-- The message catalog; the first message of a name counts. -/
def catalog (e : Message.Extraction) : Table Content :=
  Table.ofFirst (e.messages.map fun m => (m.id, m.content))

/-- The flows that start nowhere. The checks leave none. -/
def strayFlows (flows : Table Flow) : List Finding :=
  (flows.entries.filter fun entry => !entry.2.hasInitial).map fun entry =>
    ⟨.internalError ("flow '" ++ entry.1 ++ "' compiled with initial state '" ++ entry.2.initial ++
      "' that it does not declare"), none⟩

/-- The agent that is missing. The checks leave none. -/
def strayAgent (agent : Option Agent) : List Finding :=
  match agent with
  | some _ => []
  | none => [⟨.internalError "validated document has no agent section", none⟩]

/-- Puts the result together, or says which promise of the checks is broken. -/
def assemble (options : CompilerOptions) (doc : Document) : List Finding × Option CompiledAgent :=
  let flows := Flow.compileAll doc
  let agent := Agent.ofDocument? doc
  let stray := strayFlows flows ++ strayAgent agent
  let data :=
    match agent with
    | none => none
    | some agent =>
      if stray.isEmpty then
        some ⟨agent, catalog (Message.extract doc options.effectiveScanDepth), flows⟩
      else none
  (stray, data)

/-- Findings without a file are put down to the document. -/
def placed (uri : Option String) (ds : List Diagnostic) : List Diagnostic :=
  match uri with
  | none => ds
  | some uri => ds.map fun d => d.inFileIfNone uri

end Compilation

/-- Compiles one document. -/
def compile (options : CompilerOptions) (input : SourceDocument) : CompilationResult :=
  let known := Compilation.merged options input
  let (stray, data) :=
    if Diagnostic.hasErrors known then ([], none) else Compilation.assemble options input.ast
  { success := data.isSome
    diagnostics :=
      Diagnostic.sort (Compilation.placed input.uri (known ++ stray.map Finding.diagnostic))
    data := data }

/-- Compiles documents that have nothing to do with each other. -/
def compileWorkspace (options : CompilerOptions) (inputs : List SourceDocument) :
    List CompilationResult :=
  inputs.map (compile options)

/-! ## JSON form -/

namespace SourceDocument

def toJson (s : SourceDocument) : Json :=
  .obj (Json.textEntry "uri" s.uri ++ [("ast", s.ast.toJson)] ++
    Json.entryList "diagnostics" (s.diagnostics.map Diagnostic.toJson) ++
    Json.textEntry "source" s.source)

def decoder : Decoder SourceDocument :=
  .record "struct SourceDocument"
    (SourceDocument.mk <$> .maybe "uri" .text <*> .required "ast" Document.decoder <*>
      .withDefault "diagnostics" (.list Diagnostic.decoder) [] <*> .maybe "source" .text)

end SourceDocument

namespace CompiledAgent

/-- The messages by name, as one object. -/
def messagesJson (c : CompiledAgent) : Json :=
  .obj (c.messages.entries.map fun entry => (entry.1, entry.2.toJson))

def toJson (c : CompiledAgent) : Json :=
  .obj [("agent", c.agent.toJson), ("messages", c.messagesJson),
    ("flows", Flow.tableToJson c.flows)]

def decoder : Decoder CompiledAgent :=
  .record "struct CompiledAgent"
    (CompiledAgent.mk <$> .required "agent" Agent.decoder <*>
      .required "messages" (.table Content.decoder) <*> .required "flows" (.table Flow.decoder))

end CompiledAgent

namespace CompilationResult

def toJson (r : CompilationResult) : Json :=
  .obj ([("success", .bool r.success), ("diagnostics", .arr (r.diagnostics.map Diagnostic.toJson))] ++
    Json.entry? "data" (r.data.map CompiledAgent.toJson))

def decoder : Decoder CompilationResult :=
  .record "struct CompilationResult"
    (CompilationResult.mk <$> .required "success" .flag <*>
      .required "diagnostics" (.list Diagnostic.decoder) <*> .maybe "data" CompiledAgent.decoder)

end CompilationResult

end Dialogue
