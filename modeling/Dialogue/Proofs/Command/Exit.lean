import Dialogue.Proofs.Command.Compile

/-!
# How a run over many documents ends

Findings lead to the exit code of the gravest error among them. Neither their order matters, nor what else is
found, nor how they are spread over documents. So documents end together as all their findings would, and a
run that only reports on them ends like that.
-/
namespace Dialogue

namespace ExitCode

/-- The code is that of the gravest error among the findings; it is `success` when there is none. -/
structure IsGravest (ds : List Diagnostic) (code : ExitCode) : Prop where
  bound : ∀ d ∈ ds, d.isError = true → (ofCategory d.category).gravity ≤ code.gravity
  attained : code = .success ∨ ∃ d ∈ ds, d.isError = true ∧ ofCategory d.category = code

theorem isGravest_ofDiagnostics (ds : List Diagnostic) : IsGravest ds (ofDiagnostics ds) where
  bound := (gravity_ofDiagnostics_le_iff ds _).mp (Nat.le_refl _)
  attained := by
    have found : ofDiagnostics ds ∈ _ := foldl_worst_mem .success _
    simpa only [List.mem_cons, List.mem_map, List.mem_filter, and_assoc] using found

theorem ofDiagnostics_eq_iff (ds : List Diagnostic) (code : ExitCode) :
    ofDiagnostics ds = code ↔ IsGravest ds code := by
  constructor
  · rintro rfl
    exact isGravest_ofDiagnostics ds
  · rintro ⟨bound, attained⟩
    refine gravity_injective (Nat.le_antisymm ((gravity_ofDiagnostics_le_iff ds _).mpr bound) ?_)
    rcases attained with rfl | ⟨d, member, isError, rfl⟩
    · exact Nat.zero_le _
    · exact (isGravest_ofDiagnostics ds).bound d member isError

/-- The code of findings is made up of the codes of any two parts of them, depends on the errors alone and not on
their order, and is that of the gravest. -/
structure Composes (ds others : List Diagnostic) : Prop where
  append : ofDiagnostics (ds ++ others) = worst (ofDiagnostics ds) (ofDiagnostics others)
  reordered : ds.Perm others → ofDiagnostics ds = ofDiagnostics others
  sorted : ofDiagnostics (Diagnostic.sort ds) = ofDiagnostics ds
  errorsOnly : ds.filter Diagnostic.isError = others.filter Diagnostic.isError →
    ofDiagnostics ds = ofDiagnostics others
  gravest : ∀ code, ofDiagnostics ds = code ↔ IsGravest ds code
  success : ofDiagnostics ds = .success ↔ ∀ d ∈ ds, d.isError = false

theorem composes (ds others : List Diagnostic) : Composes ds others where
  append := ofDiagnostics_append ds others
  reordered := ofDiagnostics_perm
  sorted := ofDiagnostics_perm (List.mergeSort_perm ds _)
  errorsOnly same := ofDiagnostics_congr (same ▸ .refl _)
  gravest := ofDiagnostics_eq_iff ds
  success := ofDiagnostics_eq_success_iff ds

end ExitCode

/-- How documents end together: with the gravest of their codes. -/
def workspaceExit (options : CompilerOptions) (inputs : List SourceDocument) : ExitCode :=
  .worstOf ((compileWorkspace options inputs).map CompilationResult.exitCode)

theorem workspaceExit_eq_ofDiagnostics (options : CompilerOptions) (inputs : List SourceDocument) :
    workspaceExit options inputs =
      .ofDiagnostics ((compileWorkspace options inputs).flatMap CompilationResult.diagnostics) :=
  ExitCode.worstOf_map_ofDiagnostics _ CompilationResult.diagnostics

theorem workspaceExit_perm (options : CompilerOptions) {inputs others : List SourceDocument}
    (same : inputs.Perm others) : workspaceExit options inputs = workspaceExit options others :=
  ExitCode.worstOf_perm ((same.map _).map _)

namespace Command

/-! ## Runs that report -/

section Reporting

variable (exit : ExitCode) (loaded : Loaded) (console : Console) (tree : FileTree)

/-- Steps that leave the files alone and each end with the code of their document end with the gravest. -/
theorem worstOver_run_of_steps {step : String → SourceDocument → Session (StateM FileTree) ExitCode}
    {code : SourceDocument → ExitCode}
    (ends : ∀ path source console, ∃ printed,
      ((step path source).run console).run tree = ((code source, printed), tree)) :
    ∃ printed, ((worstOver exit loaded step).run console).run tree =
      (((loaded.map fun document => code document.2).foldl ExitCode.worst exit, printed), tree) := by
  induction loaded generalizing exit console with
  | nil => exact ⟨console, rfl⟩
  | cons document rest ih =>
    obtain ⟨path, source⟩ := document
    obtain ⟨between, run⟩ := ends path source console
    obtain ⟨printed, runRest⟩ := ih (exit.worst (code source)) between
    exact ⟨printed, (worstOver_cons_run run).trans runRest⟩

theorem validateOne_run (coloured : Bool) (options : CompilerOptions) (path : String)
    (source : SourceDocument) :
    ∃ printed,
      ((validateOne coloured options path source : Session (StateM FileTree) ExitCode).run
        console).run tree = (((compile options source).exitCode, printed), tree) := by
  obtain ⟨printed, print⟩ := printDiagnostics_run coloured source.source
    (compile options source).diagnostics console tree
  unfold validateOne
  rw [run_session_bind print]
  split
  · exact ⟨_, rfl⟩
  · exact ⟨_, rfl⟩

theorem perform_validate_run (home : List String) (coloured : Bool) (options : ProjectOptions)
    (naming json : Bool) :
    ∃ printed,
      ((perform (FileTree.host home) coloured options loaded exit (.validate naming json)).run
        console).run tree = ((exit.worst (workspaceExit (withNaming options.compiler naming)
          (loaded.map Prod.snd)), printed), tree) := by
  have codes : exit.worst (workspaceExit (withNaming options.compiler naming) (loaded.map Prod.snd)) =
      (loaded.map fun document =>
        (compile (withNaming options.compiler naming) document.2).exitCode).foldl
          ExitCode.worst exit := by
    rw [ExitCode.foldl_worst_eq, workspaceExit, compileWorkspace, List.map_map, List.map_map]
    rfl
  rw [codes]
  cases json with
  | true =>
    have printing :
        perform (FileTree.host home) coloured options loaded exit (.validate naming true) =
        printOut (Project.jsonText (.arr (loaded.map fun document =>
          validateJson (withNaming options.compiler naming) document.1 document.2)) true ++ "\n") >>=
          fun _ => worstOver exit loaded fun _ source =>
            pure (compile (withNaming options.compiler naming) source).exitCode := rfl
    rw [printing, run_session_bind rfl]
    exact worstOver_run_of_steps exit loaded _ tree fun _ _ console => ⟨console, rfl⟩
  | false =>
    exact worstOver_run_of_steps exit loaded console tree fun path source console =>
      validateOne_run console tree coloured _ path source

end Reporting

/-- For all findings, documents, options and runs: exit codes compose. Findings taken together lead to the graver
of the codes that they lead to in two parts, whatever their order and whatever is found that is no error, and this
is the code of the gravest error. Documents end together as all their findings do, in whatever order they are
compiled, and a run that reports on documents ends like that, or as their loading did where that is graver. -/
theorem exit_codes_compose (ds others : List Diagnostic) (options : CompilerOptions)
    {inputs reordered : List SourceDocument} (same : inputs.Perm reordered) :
    ExitCode.Composes ds others ∧
    workspaceExit options inputs = workspaceExit options reordered ∧
    workspaceExit options inputs =
      .ofDiagnostics ((compileWorkspace options inputs).flatMap CompilationResult.diagnostics) ∧
    ∀ (home : List String) (coloured : Bool) (project : ProjectOptions) (naming json : Bool)
      (loaded : Loaded) (exit : ExitCode) (console : Console) (tree : FileTree), ∃ printed,
      ((perform (FileTree.host home) coloured project loaded exit (.validate naming json)).run
        console).run tree = ((exit.worst (.ofDiagnostics
          ((compileWorkspace (withNaming project.compiler naming) (loaded.map Prod.snd)).flatMap
            CompilationResult.diagnostics)), printed), tree) := by
  refine ⟨ExitCode.composes ds others, workspaceExit_perm options same,
    workspaceExit_eq_ofDiagnostics options inputs, ?_⟩
  intro home coloured project naming json loaded exit console tree
  rw [← workspaceExit_eq_ofDiagnostics]
  exact perform_validate_run exit loaded console tree home coloured project naming json

/-- An error of the parser between two remarks. -/
def mixedFindings : List Diagnostic :=
  [(Problem.duplicateEvent "Yes" "Welcome").diagnostic none,
    (Problem.missingColon "start").diagnostic none,
    (Problem.reservedAgentName "Config").diagnostic none]

/-- A document without sections. -/
def emptyDocument (diagnostics : List Diagnostic) : SourceDocument :=
  ⟨none, ⟨[], none⟩, diagnostics, none⟩

theorem exit_codes_compose_swapped :
    (mixedFindings.Perm mixedFindings.reverse ∧
      [emptyDocument [], emptyDocument mixedFindings].Perm
        [emptyDocument mixedFindings, emptyDocument []]) ∧
    ExitCode.ofDiagnostics mixedFindings.reverse = .syntaxError ∧
    workspaceExit .standard [emptyDocument [], emptyDocument mixedFindings] =
      workspaceExit .standard [emptyDocument mixedFindings, emptyDocument []] := by
  have turned : mixedFindings.Perm mixedFindings.reverse := (List.reverse_perm _).symm
  have swapped : [emptyDocument [], emptyDocument mixedFindings].Perm
      [emptyDocument mixedFindings, emptyDocument []] := .swap _ _ _
  obtain ⟨composed, together, -, -⟩ :=
    exit_codes_compose mixedFindings mixedFindings.reverse .standard swapped
  exact ⟨⟨turned, swapped⟩, (composed.reordered turned).symm, together⟩

end Command

end Dialogue
