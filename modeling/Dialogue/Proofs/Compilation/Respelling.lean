import Dialogue.Proofs.Check.Respelling
import Dialogue.Proofs.Compilation.Options
import Dialogue.Proofs.Document.Colons

/-!
# What a compilation does not look at

Places have no say in whether a compilation succeeds nor in what it yields; they only decide where
findings are reported, and with that their order. Colons before atoms have no say in anything.
-/
namespace Dialogue

/-! ## What is put together -/

namespace Agent

variable (r : Respelling)

theorem attributeLiterals_respell (sections : List Section) :
    attributeLiterals (sections.map (Section.respell r)) = attributeLiterals sections := by
  simp [attributeLiterals, List.flatMap_map, Attribute.respell, Function.comp_def]

theorem settingSections_respell (doc : Document) (agent : Section) :
    settingSections (doc.respell r) (agent.respell r) =
      (settingSections doc agent).map (Section.respell r) := by
  simp [settingSections]

theorem collect_respell (doc : Document) (agent : Section) :
    collect (doc.respell r) (agent.respell r) = collect doc agent := by
  rw [collect, collect, Document.gather_respell, attributeLiterals_respell, settingSections_respell,
    attributeLiterals_respell]

theorem ofDocument?_respell (doc : Document) : ofDocument? (doc.respell r) = ofDocument? doc := by
  unfold ofDocument?
  rw [Document.agents_respell, List.head?_map, Option.map_map]
  simp only [Function.comp_def, collect_respell, Section.name?_respell]

end Agent

namespace Compilation

variable (r : Respelling)

theorem catalog_respell (doc : Document) (depth : Nat) :
    catalog (Message.extract (doc.respell r) depth) = catalog (Message.extract doc depth) := by
  rw [catalog, catalog, Message.messages_respell, List.map_map]
  rfl

theorem assemble_respell (options : CompilerOptions) (doc : Document) :
    assemble options (doc.respell r) = assemble options doc := by
  simp only [assemble, Flow.compileAll_respell, Agent.ofDocument?_respell, catalog_respell]

end Compilation

/-! ## Places -/

/-- Nothing has a place. -/
def Respelling.unplaced : Respelling where
  atom := id
  place _ := none
  atomName_atom _ := rfl
  isDefault_atom _ := rfl
  place_or _ _ := rfl

/-- The document without any of its places. -/
def Document.unplaced (doc : Document) : Document := doc.respell .unplaced

def QuickFix.unplaced (f : QuickFix) : QuickFix := { f with range := none }

/-- The finding without its place and those of its edits. -/
def Diagnostic.unplaced (d : Diagnostic) : Diagnostic :=
  { d with range := none, fixes := d.fixes.map QuickFix.unplaced }

/-- A finding without its place is what the problem says. -/
theorem Finding.unplaced_respell (r : Respelling) (f : Finding) :
    (f.respell r).diagnostic.unplaced = f.diagnostic.unplaced := by
  obtain ⟨problem, range⟩ := f
  cases fix : problem.fix? <;>
    simp [Finding.respell, Finding.diagnostic, Problem.diagnostic_eq, Diagnostic.unplaced, fix,
      QuickFix.unplaced]

namespace Compilation

/-- Documents that agree but for their places are found to have the same problems. -/
theorem merged_unplaced (options : CompilerOptions) {first second : SourceDocument}
    (given : first.diagnostics = second.diagnostics)
    (same : first.ast.unplaced = second.ast.unplaced) :
    (merged options first).map Diagnostic.unplaced =
      (merged options second).map Diagnostic.unplaced := by
  have findings := congrArg (findings options) same
  rw [Document.unplaced, Document.unplaced, findings_respell, findings_respell] at findings
  have unplaced := congrArg (List.map fun f => f.diagnostic.unplaced) findings
  simp only [List.map_map, Function.comp_def, Finding.unplaced_respell] at unplaced
  simp only [merged, given, List.map_append, List.map_map, Function.comp_def, unplaced]

theorem hasErrors_unplaced (ds : List Diagnostic) :
    Diagnostic.hasErrors (ds.map Diagnostic.unplaced) = Diagnostic.hasErrors ds := by
  rw [Diagnostic.hasErrors, Diagnostic.hasErrors, List.any_map]
  rfl

end Compilation

/-- Of what is reported, all but the places and the order is known from the merged findings. -/
theorem diagnostics_unplaced (options : CompilerOptions) (input : SourceDocument) :
    ((compile options input).diagnostics.map Diagnostic.unplaced).Perm
      (((Compilation.merged options input).map Diagnostic.unplaced).map
        (Diagnostic.filedUnder input.uri)) := by
  rw [compile_diagnostics, Compilation.placed_eq_map, List.map_map]
  have sorted := (Diagnostic.sort_perm ((Compilation.merged options input).map
    (Diagnostic.filedUnder input.uri))).map Diagnostic.unplaced
  rw [List.map_map] at sorted
  exact sorted

/-- Two documents with the same name and the same findings of the parser, which agree but for their
places, compile with the same success, data and exit code. What is reported on them is the same but for
places and order. -/
theorem places_never_decide (options : CompilerOptions) (first second : SourceDocument)
    (uri : first.uri = second.uri) (given : first.diagnostics = second.diagnostics)
    (same : first.ast.unplaced = second.ast.unplaced) :
    (compile options first).success = (compile options second).success ∧
    (compile options first).data = (compile options second).data ∧
    (compile options first).exitCode = (compile options second).exitCode ∧
    ((compile options first).diagnostics.map Diagnostic.unplaced).Perm
      ((compile options second).diagnostics.map Diagnostic.unplaced) := by
  have merged := Compilation.merged_unplaced options given same
  have success : (compile options first).success = (compile options second).success := by
    rw [Bool.eq_iff_iff, compile_success_iff, compile_success_iff, ← Compilation.hasErrors_unplaced,
      merged, Compilation.hasErrors_unplaced]
  have assembled :
      Compilation.assemble options first.ast = Compilation.assemble options second.ast := by
    calc Compilation.assemble options first.ast
        = Compilation.assemble options first.ast.unplaced :=
          (Compilation.assemble_respell .unplaced options first.ast).symm
      _ = Compilation.assemble options second.ast.unplaced := by rw [same]
      _ = Compilation.assemble options second.ast :=
          Compilation.assemble_respell .unplaced options second.ast
  have reported : ((compile options first).diagnostics.map Diagnostic.unplaced).Perm
      ((compile options second).diagnostics.map Diagnostic.unplaced) := by
    refine (diagnostics_unplaced options first).trans ?_
    rw [merged, uri]
    exact (diagnostics_unplaced options second).symm
  refine ⟨success, ?_, ?_, reported⟩
  · rw [compile_data_eq, compile_data_eq, success, assembled]
  · have kept : ∀ d : Diagnostic,
        d.unplaced.severity = d.severity ∧ d.unplaced.category = d.category := fun _ => ⟨rfl, rfl⟩
    rw [CompilationResult.exitCode, CompilationResult.exitCode, ← ExitCode.ofDiagnostics_map kept,
      ExitCode.ofDiagnostics_perm reported, ExitCode.ofDiagnostics_map kept]

/-- A flow that leads to two states it does not have, from the lines that are given. -/
def lostInput (first second : Nat) : SourceDocument :=
  let welcome := (Section.ofKind "on").withName "Welcome"
    |>.withAttributeAt "back" (.identifier "Nowhere" none) first
    |>.withAttributeAt "next" (.identifier "Elsewhere" none) second
  let flow := (Section.ofKind "flow").withName "Order"
    |>.withAttribute "start" (.identifier "Welcome" none)
    |>.withNode (.child welcome)
  ⟨none, ⟨[flow, (Section.ofKind "messages").withNode (.child helloMessage)], none⟩, [], none⟩

theorem places_never_decide_lost :
    (lostInput 2 1).ast.unplaced = (lostInput 1 2).ast.unplaced ∧
    (compile .standard (lostInput 2 1)).exitCode = (compile .standard (lostInput 1 2)).exitCode ∧
    ((compile .standard (lostInput 2 1)).diagnostics.map Diagnostic.unplaced).Perm
      ((compile .standard (lostInput 1 2)).diagnostics.map Diagnostic.unplaced) := by
  have same : (lostInput 2 1).ast.unplaced = (lostInput 1 2).ast.unplaced := rfl
  obtain ⟨_, _, exit, reported⟩ :=
    places_never_decide .standard (lostInput 2 1) (lostInput 1 2) rfl rfl same
  exact ⟨same, exit, reported⟩

/-! ## Colons -/

theorem compile_bare (options : CompilerOptions) (input : SourceDocument) :
    compile options { input with ast := input.ast.respell .bare } = compile options input := by
  have stays : Finding.respell .bare = id := rfl
  have merged : Compilation.merged options { input with ast := input.ast.respell .bare } =
      Compilation.merged options input := by
    simp only [Compilation.merged, Compilation.findings_respell, stays, List.map_id]
  simp only [compile, merged, Compilation.assemble_respell]

/-- Where no atom is written with a colon, any atoms of the document may be given one: the compilation
yields and reports the very same. -/
theorem colons_never_matter (options : CompilerOptions) (input : SourceDocument) (ast : Document)
    (bare : ∀ v ∈ input.ast.values, v.isBare = true) (gained : input.ast.GainsColons ast) :
    compile options { input with ast := ast } = compile options input := by
  have same := Document.respell_gained gained bare
  calc compile options { input with ast := ast }
      = compile options { input with ast := ast.respell .bare } :=
        (compile_bare options { input with ast := ast }).symm
    _ = compile options { input with ast := input.ast.respell .bare } := by rw [same]
    _ = compile options input := compile_bare options input

/-- A document with atoms in every kind of place, each spelt as is asked for. -/
def atomsInput (spell : String → String) : SourceDocument :=
  let welcome := (Section.ofKind "on").withName "Welcome"
    |>.withTransition (some (.atom (spell "yes") none))
      (.contextualized (.atom (spell "end") none)
        [⟨some "size", .atom (spell "small") none, none⟩] none)
    |>.withMatch (.reference "reply" none)
      [(.atom (spell "no") none, .identifier "Welcome" none),
        (.atom (spell "default") none, .atom (spell "end") none)]
  let flow := (Section.ofKind "flow").withName "Order"
    |>.withAttribute "start" (.identifier "Welcome" none)
    |>.withNode (.child welcome)
  let card := (Section.ofKind "richCard").withParameter none (.string "Espresso" none)
  let cards := (Section.ofKind "carousel").withName "cards"
    |>.withAttribute "cardWidth" (.atom (spell "small") none)
    |>.withNode (.child card)
  let agent := (namedAgent "Coffee").withAttribute "tags"
    (.list [.atom (spell "hot") none, .dictionary [("to", .atom (spell "go") none)] none] none)
  ⟨none, ⟨[agent, flow, (Section.ofKind "messages").withNode (.child cards)], none⟩, [], none⟩

theorem colons_never_matter_everywhere :
    (compile .standard (atomsInput id)).success = true ∧
    (compile .standard (atomsInput (":" ++ ·))) = compile .standard (atomsInput id) := by
  have bare : ∀ v ∈ (atomsInput id).ast.values, v.isBare = true := by decide +kernel
  have gained : (atomsInput id).ast.GainsColons (atomsInput (":" ++ ·)).ast := by
    repeat' constructor
  have clean : Diagnostic.hasErrors (Compilation.merged .standard (atomsInput id)) = false := by
    decide +kernel
  exact ⟨(compile_success_iff _ _).mpr clean,
    colons_never_matter .standard (atomsInput id) (atomsInput (":" ++ ·)).ast bare gained⟩

end Dialogue
