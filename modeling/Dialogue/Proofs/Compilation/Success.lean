import Dialogue.Compilation
import Dialogue.Document.Builder
import Dialogue.Proofs.Check.Reported
import Dialogue.Proofs.ExitCode
import Dialogue.Proofs.Flow.Sections
import Dialogue.Proofs.Message.Extraction

/-!
# When a compilation succeeds

The result of a compilation says three times whether it succeeded: by its flag, by its data and by its
diagnostics. The three agree for every document, because the checks leave nothing for the last step to
complain about: a document without errors has an agent, and each of its flows starts somewhere.
-/
namespace Dialogue

namespace Diagnostic

theorem mem_sort (d : Diagnostic) (ds : List Diagnostic) : d ∈ sort ds ↔ d ∈ ds :=
  (List.mergeSort_perm ds _).mem_iff

theorem hasErrors_eq_false_iff (ds : List Diagnostic) :
    hasErrors ds = false ↔ ∀ d ∈ ds, d.isError = false := by
  simp [hasErrors]

end Diagnostic

namespace Compilation

theorem mem_placed (uri : Option String) (ds : List Diagnostic) (d : Diagnostic) :
    d ∈ placed uri ds ↔ ∃ original ∈ ds, d ∈ placed uri [original] := by
  cases uri <;> simp [placed, eq_comm]

/-- The place of a finding has no say in what it is. -/
theorem placed_kind {uri : Option String} {original d : Diagnostic}
    (member : d ∈ placed uri [original]) :
    d.isError = original.isError ∧ d.category = original.category := by
  cases uri with
  | none =>
    simp only [placed, List.mem_singleton] at member
    subst member
    exact ⟨rfl, rfl⟩
  | some uri =>
    simp only [placed, List.map_cons, List.map_nil, List.mem_singleton] at member
    subst member
    exact ⟨rfl, rfl⟩

theorem placed_nonempty (uri : Option String) (original : Diagnostic) :
    ∃ d, d ∈ placed uri [original] := by
  cases uri <;> simp [placed]

/-! ## The last step -/

/-- What the compiler finds is never put down to the compiler. -/
theorem findings_category {options : CompilerOptions} {doc : Document} {f : Finding}
    (member : f ∈ findings options doc) : f.diagnostic.category ≠ .internal := by
  rw [Finding.category_diagnostic]
  apply Check.category_ne_internal
  simp only [findings, List.mem_append] at member
  rcases member with (checked | named) | empty
  · exact Or.inl (Check.only_document doc f checked)
  · split at named
    · exact Or.inr (Or.inl (Check.only_naming doc f named))
    · simp at named
  · obtain ⟨s, _, rfl⟩ := List.mem_map.mp empty
    exact Or.inr (Or.inr rfl)

theorem findings_errorFree {options : CompilerOptions} {input : SourceDocument}
    (clean : Diagnostic.hasErrors (merged options input) = false) :
    Check.ErrorFree (findings options input.ast) := by
  intro f member isError
  have listed : f.diagnostic ∈ merged options input :=
    List.mem_append_right _ (List.mem_map.mpr ⟨f, member, rfl⟩)
  have mild := (Diagnostic.hasErrors_eq_false_iff _).mp clean _ listed
  simp [Diagnostic.isError, isError] at mild

/-- Without an error among the findings the document is as the checks promise. -/
theorem sound_of_no_errors {options : CompilerOptions} {input : SourceDocument}
    (clean : Diagnostic.hasErrors (merged options input) = false) :
    Check.DocumentSound input.ast := by
  have passed := findings_errorFree clean
  simp only [Check.ErrorFree, findings, Check.only_append] at passed
  exact Check.documentSound_of_errorFree passed.1.1

/-- Every flow of a sound document starts with one of its states. -/
theorem initial_of_sound {doc : Document} (sound : Check.DocumentSound doc) :
    ∀ entry ∈ (Flow.compileAll doc).entries, entry.2.hasInitial = true := by
  rintro ⟨name, compiled⟩ member
  rw [Flow.compileAll_eq_tableOf] at member
  obtain ⟨f, gathered, _, rfl⟩ := Flow.mem_entries_tableOf Flow.compile member
  exact (Table.contains_iff _ _).mpr (Flow.initial_declared (sound.flows f gathered))

theorem agent_of_sound {doc : Document} (sound : Check.DocumentSound doc) :
    ∃ agent, Agent.ofDocument? doc = some agent := by
  unfold Agent.ofDocument?
  cases agents : doc.agents with
  | nil => exact absurd agents sound.agent
  | cons agent others => exact ⟨_, rfl⟩

/-- The last step has nothing to complain about and yields all that was compiled. -/
theorem assemble_of_sound (options : CompilerOptions) {doc : Document}
    (sound : Check.DocumentSound doc) :
    ∃ agent, Agent.ofDocument? doc = some agent ∧
      assemble options doc = ([], some ⟨agent,
        catalog (Message.extract doc options.effectiveScanDepth), Flow.compileAll doc⟩) := by
  obtain ⟨agent, found⟩ := agent_of_sound sound
  have noStrayFlow : strayFlows (Flow.compileAll doc) = [] := by
    have started := initial_of_sound sound
    simp only [strayFlows, List.map_eq_nil_iff, List.filter_eq_nil_iff]
    intro entry member
    simp [started entry member]
  exact ⟨agent, found, by simp [assemble, found, noStrayFlow, strayAgent]⟩

end Compilation

/-! ## Compilations -/

theorem compile_of_errors {options : CompilerOptions} {input : SourceDocument}
    (failed : Diagnostic.hasErrors (Compilation.merged options input) = true) :
    compile options input = ⟨false,
      Diagnostic.sort (Compilation.placed input.uri (Compilation.merged options input)), none⟩ := by
  simp [compile, failed]

theorem compile_of_no_errors {options : CompilerOptions} {input : SourceDocument}
    (clean : Diagnostic.hasErrors (Compilation.merged options input) = false) :
    ∃ agent, Agent.ofDocument? input.ast = some agent ∧
      compile options input = ⟨true,
        Diagnostic.sort (Compilation.placed input.uri (Compilation.merged options input)),
        some ⟨agent, Compilation.catalog (Message.extract input.ast options.effectiveScanDepth),
          Flow.compileAll input.ast⟩⟩ := by
  obtain ⟨agent, found, assembled⟩ :=
    Compilation.assemble_of_sound options (Compilation.sound_of_no_errors clean)
  exact ⟨agent, found, by simp [compile, clean, assembled]⟩

/-- What a compilation with data says about its document. -/
theorem compile_data {options : CompilerOptions} {input : SourceDocument} {c : CompiledAgent}
    (success : (compile options input).data = some c) :
    Check.DocumentSound input.ast ∧ Agent.ofDocument? input.ast = some c.agent ∧
      c.messages =
        Compilation.catalog (Message.extract input.ast options.effectiveScanDepth) ∧
      c.flows = Flow.compileAll input.ast := by
  cases failed : Diagnostic.hasErrors (Compilation.merged options input) with
  | true => simp [compile_of_errors failed] at success
  | false =>
    obtain ⟨agent, found, compiled⟩ := compile_of_no_errors failed
    rw [compiled] at success
    cases success
    exact ⟨Compilation.sound_of_no_errors failed, found, rfl, rfl⟩

theorem compile_findings {options : CompilerOptions} {input : SourceDocument} {c : CompiledAgent}
    (success : (compile options input).data = some c) :
    Check.ErrorFree (Compilation.findings options input.ast) := by
  cases failed : Diagnostic.hasErrors (Compilation.merged options input) with
  | true => simp [compile_of_errors failed] at success
  | false => exact Compilation.findings_errorFree failed

theorem compile_diagnostics (options : CompilerOptions) (input : SourceDocument) :
    (compile options input).diagnostics =
      Diagnostic.sort (Compilation.placed input.uri (Compilation.merged options input)) := by
  cases failed : Diagnostic.hasErrors (Compilation.merged options input) with
  | true => rw [compile_of_errors failed]
  | false =>
    obtain ⟨agent, _, compiled⟩ := compile_of_no_errors failed
    rw [compiled]

theorem mem_compile_diagnostics (options : CompilerOptions) (input : SourceDocument)
    (d : Diagnostic) :
    d ∈ (compile options input).diagnostics ↔
      ∃ original ∈ Compilation.merged options input, d ∈ Compilation.placed input.uri [original] := by
  rw [compile_diagnostics, Diagnostic.mem_sort, Compilation.mem_placed]

theorem compile_success_iff (options : CompilerOptions) (input : SourceDocument) :
    (compile options input).success = true ↔
      Diagnostic.hasErrors (Compilation.merged options input) = false := by
  cases failed : Diagnostic.hasErrors (Compilation.merged options input) with
  | true => simp [compile_of_errors failed]
  | false =>
    obtain ⟨agent, _, compiled⟩ := compile_of_no_errors failed
    simp [compiled]

/-- Sorting and placing findings neither makes nor hides an error. -/
theorem compile_error_free_iff (options : CompilerOptions) (input : SourceDocument) :
    (∀ d ∈ (compile options input).diagnostics, d.isError = false) ↔
      Diagnostic.hasErrors (Compilation.merged options input) = false := by
  rw [Diagnostic.hasErrors_eq_false_iff]
  constructor
  · intro clean original member
    obtain ⟨d, is⟩ := Compilation.placed_nonempty input.uri original
    rw [← (Compilation.placed_kind is).1]
    exact clean d ((mem_compile_diagnostics options input d).mpr ⟨original, member, is⟩)
  · intro clean d member
    obtain ⟨original, merged, is⟩ := (mem_compile_diagnostics options input d).mp member
    rw [(Compilation.placed_kind is).1]
    exact clean original merged

theorem compile_internal_given {options : CompilerOptions} {input : SourceDocument}
    {d : Diagnostic} (member : d ∈ (compile options input).diagnostics)
    (internal : d.category = .internal) :
    ∃ original ∈ input.diagnostics, d ∈ Compilation.placed input.uri [original] := by
  obtain ⟨original, merged, is⟩ := (mem_compile_diagnostics options input d).mp member
  rcases List.mem_append.mp merged with given | own
  · exact ⟨original, given, is⟩
  · obtain ⟨f, found, rfl⟩ := List.mem_map.mp own
    exact absurd ((Compilation.placed_kind is).2.symm.trans internal)
      (Compilation.findings_category found)

/-- For every document and all options: when no finding is an error, every compiled flow starts
somewhere, there is an agent, and the last step complains about nothing; what is reported are the merged
findings and nothing else, an internal error only when the parser brought it; and flag, data, diagnostics
and exit code all say the same about success. -/
theorem compile_outcomes_agree (options : CompilerOptions) (input : SourceDocument) :
    (Diagnostic.hasErrors (Compilation.merged options input) = false →
      (∀ entry ∈ (Flow.compileAll input.ast).entries, entry.2.hasInitial = true) ∧
      (∃ agent, Agent.ofDocument? input.ast = some agent) ∧
      ∃ c, Compilation.assemble options input.ast = ([], some c)) ∧
    (compile options input).diagnostics =
      Diagnostic.sort (Compilation.placed input.uri (Compilation.merged options input)) ∧
    (∀ d ∈ (compile options input).diagnostics, d.category = .internal →
      ∃ original ∈ input.diagnostics, d ∈ Compilation.placed input.uri [original]) ∧
    ((compile options input).success = true ↔ ∃ c, (compile options input).data = some c) ∧
    ((compile options input).success = true ↔
      ∀ d ∈ (compile options input).diagnostics, d.isError = false) ∧
    ((compile options input).success = true ↔ (compile options input).exitCode = .success) := by
  refine ⟨?_, compile_diagnostics options input, fun _ => compile_internal_given, ?_, ?_, ?_⟩
  · intro clean
    have sound := Compilation.sound_of_no_errors clean
    obtain ⟨agent, found, assembled⟩ := Compilation.assemble_of_sound options sound
    exact ⟨Compilation.initial_of_sound sound, ⟨agent, found⟩, ⟨_, assembled⟩⟩
  · change (compile options input).data.isSome = true ↔ _
    exact Option.isSome_iff_exists
  · rw [compile_success_iff, compile_error_free_iff]
  · rw [compile_success_iff, CompilationResult.exitCode,
      ExitCode.ofDiagnostics_eq_success_iff, compile_error_free_iff]

/-- An agent that is shown under its name. -/
def namedAgent (name : String) : Section :=
  (Section.ofKind "agent").withName name |>.withAttribute "displayName" (.string name none)

def helloMessage : Section := (Message.spoken "Hello").withName "hello"

/-- An agent with its flow inside it. The rules of the flow are of every kind, and its start and one of
its targets have a context. -/
def orderInput : SourceDocument :=
  let welcome := (Section.ofKind "on").withName "Welcome"
    |>.withTransition (some (.string "hi" none))
      (.withContext (.withContext (.identifier "Done" none) [("size", .string "small" none)])
        [("milk", .boolean true none)])
    |>.withAttribute "later" (.reference "next" none)
    |>.withMatch (.reference "reply" none)
      [(.string "again" none, .identifier "Welcome" none), (.atom "default" none, .atom "end" none)]
  let done := (Section.ofKind "on").withName "Done"
    |>.withAttribute "entry" (.identifier "thank" none)
    |>.withNode (.value (.identifier "Welcome" none))
  let flow := (Section.ofKind "flow").withName "Order"
    |>.withAttribute "start" (.withContext (.identifier "Welcome" none) [("first", .null none)])
    |>.withNode (.child welcome)
    |>.withNode (.child done)
  let agent := (namedAgent "Coffee").withNode (.child flow)
  let messages := (Section.ofKind "messages").withNode (.child helloMessage)
  ⟨some "coffee.json", ⟨[agent, messages], none⟩, [], none⟩

theorem compile_outcomes_agree_order :
    Diagnostic.hasErrors (Compilation.merged .standard orderInput) = false ∧
      (∃ c, Compilation.assemble .standard orderInput.ast = ([], some c)) ∧
      (compile .standard orderInput).exitCode = .success := by
  have clean : Diagnostic.hasErrors (Compilation.merged .standard orderInput) = false := by
    decide +kernel
  obtain ⟨assembled, _, _, _, _, exits⟩ := compile_outcomes_agree .standard orderInput
  exact ⟨clean, (assembled clean).2.2, exits.mp ((compile_success_iff _ _).mpr clean)⟩

/-- A flow with one state, from which nothing leads on. -/
def welcomeFlow : Section :=
  (Section.ofKind "flow").withName "Order"
    |>.withAttribute "start" (.identifier "Welcome" none)
    |>.withNode (.child ((Section.ofKind "on").withName "Welcome"))

/-- An agent with its flow and some messages, and further sections behind them. -/
def agentInput (agent : Section) (messages others : List Section) : SourceDocument :=
  let catalog := { Section.ofKind "messages" with body := messages.map .child }
  ⟨none, ⟨[agent, welcomeFlow, catalog] ++ others, none⟩, [], none⟩

end Dialogue
