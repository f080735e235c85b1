import Dialogue.Proofs.Compilation.Findings
import Dialogue.Proofs.Compilation.Messages

/-!
# What the options can change

The naming conventions add remarks to what is reported and change nothing else. The depth of the scan
changes nothing at all: where a compilation succeeds a message stands where it belongs, so the scan does not
run.
-/
namespace Dialogue

namespace ExitCode

/-- Findings that are no errors have no say in the exit code, wherever they stand. -/
theorem ofDiagnostics_eq_of_added {few many added : List Diagnostic} (kept : few.Sublist many)
    (all : many.Perm (few ++ added)) (mild : ∀ d ∈ added, d.isError = false) :
    ofDiagnostics many = ofDiagnostics few := by
  have noErrors : added.filter Diagnostic.isError = [] := by
    simpa [List.filter_eq_nil_iff] using mild
  have count := (all.filter Diagnostic.isError).length_eq
  rw [List.filter_append, noErrors, List.append_nil] at count
  have same : few.filter Diagnostic.isError = many.filter Diagnostic.isError :=
    (kept.filter Diagnostic.isError).eq_of_length count.symm
  rw [ofDiagnostics, ofDiagnostics, same]

end ExitCode

namespace Compilation

/-! ## Naming conventions -/

/-- The remarks on names, put down to the document. -/
def namingRemarks (input : SourceDocument) : List Diagnostic :=
  ((Check.naming input.ast).map Finding.diagnostic).map (Diagnostic.filedUnder input.uri)

/-- A remark is a warning or less, and has one of two codes. -/
theorem namingRemarks_mild {input : SourceDocument} {d : Diagnostic}
    (member : d ∈ namingRemarks input) :
    (d.severity = .warning ∨ d.severity = .info) ∧
      (d.code = .invalidAgentName ∨ d.code = .namingConvention) := by
  simp only [namingRemarks, List.map_map, List.mem_map, Function.comp] at member
  obtain ⟨f, found, rfl⟩ := member
  have remark := Check.only_naming input.ast f found
  rw [Diagnostic.severity_filedUnder, Diagnostic.code_filedUnder, Finding.severity_diagnostic,
    Finding.code_diagnostic]
  cases problem : f.problem with
  | reservedAgentName name => exact ⟨Or.inl rfl, Or.inl rfl⟩
  | namingConvention kind name convention severity =>
    rw [problem] at remark
    cases severity with
    | error => exact absurd rfl remark
    | warning => exact ⟨Or.inl rfl, Or.inr rfl⟩
    | info => exact ⟨Or.inr rfl, Or.inr rfl⟩
  | _ => simp [problem] at remark

/-- The remarks stand in the middle of what is reported. -/
theorem reported_with_naming (options : CompilerOptions) (input : SourceDocument) :
    let silent := (input.diagnostics ++ ownDiagnostics { options with namingConventions := false }
      input.ast).map (Diagnostic.filedUnder input.uri)
    let remarked := (input.diagnostics ++ ownDiagnostics { options with namingConventions := true }
      input.ast).map (Diagnostic.filedUnder input.uri)
    silent.Sublist remarked ∧ remarked.Perm (silent ++ namingRemarks input) := by
  intro silent remarked
  let front := (input.diagnostics ++ (Check.document input.ast).map Finding.diagnostic).map
    (Diagnostic.filedUnder input.uri)
  let back := ((emptyMessages input.ast).map Finding.diagnostic).map
    (Diagnostic.filedUnder input.uri)
  have without : silent = front ++ back := by
    simp [silent, front, back, ownDiagnostics]
  have within : remarked = front ++ (namingRemarks input ++ back) := by
    simp [remarked, front, back, ownDiagnostics, namingRemarks]
  rw [without, within]
  constructor
  · exact (List.Sublist.refl front).append (List.sublist_append_right _ back)
  · rw [List.append_assoc]
    exact (List.Perm.refl front).append List.perm_append_comm

end Compilation

theorem compile_data_eq (options : CompilerOptions) (input : SourceDocument) :
    (compile options input).data =
      if (compile options input).success then (Compilation.assemble options input.ast).2
      else none := by
  cases failed : Diagnostic.hasErrors (Compilation.merged options input) with
  | true => simp [compile_of_errors failed]
  | false =>
    have succeeded := (compile_success_iff options input).mpr failed
    rw [if_pos succeeded]
    simp [compile, failed]

/-- Whether names are looked at has no say in success, data or exit code. What is reported without it is
reported with it, in the same order, and all that is added are remarks on names: warnings or less, with one
of two codes. -/
theorem naming_never_decides (options : CompilerOptions) (input : SourceDocument) :
    let silent := compile { options with namingConventions := false } input
    let remarked := compile { options with namingConventions := true } input
    remarked.success = silent.success ∧ remarked.data = silent.data ∧
    remarked.exitCode = silent.exitCode ∧ silent.diagnostics.Sublist remarked.diagnostics ∧
    ∃ added, remarked.diagnostics.Perm (silent.diagnostics ++ added) ∧
      ∀ d ∈ added, (d.severity = .warning ∨ d.severity = .info) ∧
        (d.code.token = "RCL103" ∨ d.code.token = "RCL405") := by
  intro silent remarked
  obtain ⟨inside, together⟩ := Compilation.reported_with_naming options input
  have kept : silent.diagnostics.Sublist remarked.diagnostics := by
    simp only [silent, remarked, compile_diagnostics_eq_sort]
    exact Diagnostic.sort_sublist inside
  have whole : remarked.diagnostics.Perm (silent.diagnostics ++ Compilation.namingRemarks input) := by
    simp only [silent, remarked, compile_diagnostics_eq_sort]
    exact (Diagnostic.sort_perm _).trans (together.trans ((Diagnostic.sort_perm _).symm.append_right _))
  have mild : ∀ d ∈ Compilation.namingRemarks input, d.isError = false := by
    intro d member
    rcases (Compilation.namingRemarks_mild member).1 with warning | info
    · simp [Diagnostic.isError, warning]
    · simp [Diagnostic.isError, info]
  have success : remarked.success = silent.success := by
    rw [Bool.eq_iff_iff, compile_success_iff, compile_success_iff, ← compile_error_free_iff,
      ← compile_error_free_iff]
    constructor
    · exact fun clean d member => clean d (kept.subset member)
    · intro clean d member
      exact (List.mem_append.mp (whole.mem_iff.mp member)).elim (clean d) (mild d)
  refine ⟨success, ?_, ExitCode.ofDiagnostics_eq_of_added kept whole mild, kept, _, whole, ?_⟩
  · rw [compile_data_eq, compile_data_eq]
    change (if remarked.success then _ else none) = if silent.success then _ else none
    rw [success]
    rfl
  · intro d member
    obtain ⟨severity, code⟩ := Compilation.namingRemarks_mild member
    exact ⟨severity, code.imp (fun is => by rw [is]; rfl) (fun is => by rw [is]; rfl)⟩

/-- A message whose name is in neither of the two cases that messages are to be named in. -/
def loudInput : SourceDocument :=
  coffeeInput [(Message.spoken "Hello").withName "HELLO"] []

theorem naming_never_decides_loud :
    ∃ d, (compile { CompilerOptions.standard with namingConventions := true } loudInput).diagnostics = [d] ∧
      (compile { CompilerOptions.standard with namingConventions := false } loudInput).diagnostics = [] ∧
      (d.severity = .warning ∨ d.severity = .info) ∧
      (d.code.token = "RCL103" ∨ d.code.token = "RCL405") := by
  obtain ⟨_, _, _, _, added, whole, mild⟩ := naming_never_decides .standard loudInput
  have silent :
      (compile { CompilerOptions.standard with namingConventions := false } loudInput).diagnostics = [] := by
    rw [compile_diagnostics_eq_sort, ← List.length_eq_zero_iff, (Diagnostic.sort_perm _).length_eq]
    decide +kernel
  have once : (compile { CompilerOptions.standard with namingConventions := true }
      loudInput).diagnostics.length = 1 := by
    rw [compile_diagnostics_eq_sort, (Diagnostic.sort_perm _).length_eq]
    decide +kernel
  obtain ⟨d, only⟩ := List.length_eq_one_iff.mp once
  have member : d ∈ added := by
    rw [only, silent, List.nil_append] at whole
    exact whole.mem_iff.mp (List.mem_singleton_self d)
  exact ⟨d, only, silent, mild d member⟩

/-! ## The depth of the scan -/

/-- Where messages are as the checks promise, all depths yield the same messages. -/
theorem Check.MessagesSound.extract_eq {doc : Document} (sound : Check.MessagesSound doc)
    (first second : Nat) : Message.extract doc first = Message.extract doc second := by
  rw [Message.extract, Message.extract, sound.candidates first, sound.candidates second]

/-- The depth of the scan has no say in anything that a compilation yields. Where one succeeds, some message
stands where it belongs, and the scan does not run at any depth. -/
theorem scan_depth_never_decides (options : CompilerOptions) (first second : Nat)
    (input : SourceDocument) :
    compile { options with scanDepth := first } input =
      compile { options with scanDepth := second } input ∧
    ((compile options input).success = true →
      Message.primaryCandidates input.ast ≠ [] ∧
      ∀ depth, Message.candidates input.ast depth = Message.primaryCandidates input.ast) := by
  constructor
  · cases failed : Diagnostic.hasErrors
        (Compilation.merged { options with scanDepth := first } input) with
    | true =>
      have alsoFailed : Diagnostic.hasErrors
          (Compilation.merged { options with scanDepth := second } input) = true := failed
      rw [compile_of_errors failed, compile_of_errors alsoFailed]
      rfl
    | false =>
      have alsoClean : Diagnostic.hasErrors
          (Compilation.merged { options with scanDepth := second } input) = false := failed
      have sound := Check.messagesSound_of_errorFree (Compilation.findings_errorFree failed)
      obtain ⟨agent, found, compiled⟩ := compile_of_no_errors failed
      obtain ⟨again, foundAgain, alsoCompiled⟩ := compile_of_no_errors alsoClean
      obtain rfl : agent = again := Option.some.inj (found.symm.trans foundAgain)
      rw [compiled, alsoCompiled, sound.extract_eq _ (CompilerOptions.effectiveScanDepth _)]
      rfl
  · intro success
    have clean := (compile_success_iff options input).mp success
    have sound := Check.messagesSound_of_errorFree (Compilation.findings_errorFree clean)
    obtain ⟨m, member⟩ := sound.primary
    exact ⟨List.ne_nil_of_mem member, sound.candidates⟩

theorem scan_depth_never_decides_order :
    (compile .standard orderInput).success = true ∧
      compile { CompilerOptions.standard with scanDepth := 0 } orderInput =
        compile { CompilerOptions.standard with scanDepth := 7 } orderInput ∧
      Message.primaryCandidates orderInput.ast ≠ [] := by
  have clean : Diagnostic.hasErrors (Compilation.merged .standard orderInput) = false := by
    decide +kernel
  have success := (compile_success_iff .standard orderInput).mpr clean
  obtain ⟨same, found⟩ := scan_depth_never_decides .standard 0 7 orderInput
  exact ⟨success, same, (found success).1⟩

end Dialogue
