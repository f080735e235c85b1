import Dialogue.Document.Builder
import Dialogue.Proofs.Check.Reported

/-!
# Well-formed findings

Whatever the checks report says how to mend it and has the category of the band that its code lies in. How
severe it is follows from the code: a document is told of errors, except that repeated rules are warnings, and
the naming conventions lead to no error at all. Of the codes of the parser the checks use a single one, of those
for files and for the compiler itself none.
-/
namespace Dialogue

theorem Code.ofNumber?_number (c : Code) : Category.ofNumber? c.number = some c.category := by
  cases c <;> rfl

/-- A code as it is written is enough to tell its category. -/
theorem Code.ofCode?_token (c : Code) : Category.ofCode? c.token = some c.category := by
  cases c <;> decide

namespace Diagnostic

/-- The finding says how to mend it, and its category is that of its code, by number and as it is written. -/
structure WellFormed (d : Diagnostic) : Prop where
  hinted : d.hint.isSome = true
  banded : Category.ofNumber? d.code.number = some d.category
  readable : Category.ofCode? d.code.token = some d.category

end Diagnostic

/-- The code is one for documents: if it lies in the band of the parser it is the first there, and it lies neither
in the band for files nor in that for the compiler. -/
structure Code.OnDocument (c : Code) : Prop where
  grammar : Category.ofNumber? c.number = some .grammar → c.token = "RCL001"
  noFile : Category.ofNumber? c.number ≠ some .io
  notInternal : Category.ofNumber? c.number ≠ some .internal

instance (c : Code) : Decidable c.OnDocument :=
  decidable_of_iff
    ((Category.ofNumber? c.number = some .grammar → c.token = "RCL001") ∧
      Category.ofNumber? c.number ≠ some .io ∧ Category.ofNumber? c.number ≠ some .internal)
    ⟨fun ⟨grammar, noFile, notInternal⟩ => ⟨grammar, noFile, notInternal⟩,
      fun ⟨grammar, noFile, notInternal⟩ => ⟨grammar, noFile, notInternal⟩⟩

namespace Problem

theorem wellFormed_diagnostic (p : Problem) (range : Option Range) : (p.diagnostic range).WellFormed := by
  rw [diagnostic_eq]
  exact ⟨rfl, p.code.ofNumber?_number, p.code.ofCode?_token⟩

end Problem

namespace Check

theorem onDocument_of_reported {c : Code}
    (member : c ∈ documentCodes ++ [.invalidAgentName, .namingConvention]) : c.OnDocument := by
  have all : ∀ c ∈ documentCodes ++ [.invalidAgentName, .namingConvention], c.OnDocument := by decide
  exact all c member

/-- Of what a document is told, only repeated rules are warnings. -/
theorem severity_of_documentProblem {p : Problem} (reported : IsDocumentProblem p) :
    p.severity = if p.code = .duplicateMatchCase then .warning else .error := by
  cases p with
  | reservedAgentName name => exact absurd reported (by simp)
  | namingConvention kind name convention severity => exact absurd reported (by simp)
  | _ => rfl

theorem severity_of_namingRemark {p : Problem} (remark : IsNamingRemark p) : p.severity ≠ .error := by
  cases p with
  | reservedAgentName name => exact Severity.noConfusion
  | namingConvention kind name convention severity => exact remark
  | _ => exact absurd remark (by simp)

/-- For every document, each finding of the checks is well formed, has a code for documents, and is an error
unless its code is that of repeated rules, when it is a warning; each remark of the naming conventions is well
formed, has a code for documents and is no error. -/
theorem findings_well_formed (doc : Document) :
    (∀ d ∈ (document doc).map Finding.diagnostic, d.WellFormed ∧ d.code.OnDocument ∧
      d.severity = if d.code = .duplicateMatchCase then .warning else .error) ∧
    ∀ d ∈ (naming doc).map Finding.diagnostic, d.WellFormed ∧ d.code.OnDocument ∧
      d.severity ≠ .error := by
  simp only [List.forall_mem_map, Finding.code_diagnostic, Finding.severity_diagnostic]
  refine ⟨fun f found => ?_, fun f found => ?_⟩
  · have reported := only_document doc f found
    have coded := List.mem_append_left [.invalidAgentName, .namingConvention] (only_document_coded doc f found)
    exact ⟨f.problem.wellFormed_diagnostic f.range, onDocument_of_reported coded,
      severity_of_documentProblem reported⟩
  · have remark := only_naming doc f found
    have coded := List.mem_append_right documentCodes (only_naming_coded doc f found)
    exact ⟨f.problem.wellFormed_diagnostic f.range, onDocument_of_reported coded,
      severity_of_namingRemark remark⟩

/-- A document with a reserved name, no `displayName`, no messages and a rule that is repeated. -/
def carelessDocument : Document :=
  ⟨[(Section.ofKind "agent").withName "Config",
    (Section.ofKind "flow").withName "Order" |>.withNode (.child
      ((Section.ofKind "on").withName "Ask"
        |>.withTransition (some (.string "yes" none)) (.atom "end" none)
        |>.withTransition (some (.string "yes" none)) (.atom "end" none)))], none⟩

theorem findings_well_formed_careless :
    let repeated := (Problem.duplicateEvent "yes" "Ask").diagnostic none
    let reserved := (Problem.reservedAgentName "Config").diagnostic none
    (repeated ∈ (document carelessDocument).map Finding.diagnostic ∧
      reserved ∈ (naming carelessDocument).map Finding.diagnostic) ∧
    (repeated.WellFormed ∧ repeated.code.OnDocument ∧ repeated.severity = .warning) ∧
    reserved.WellFormed ∧ reserved.code.OnDocument ∧ reserved.severity ≠ .error := by
  have told : (Problem.duplicateEvent "yes" "Ask").diagnostic none ∈
      (document carelessDocument).map Finding.diagnostic := by decide +kernel
  have remarked : (Problem.reservedAgentName "Config").diagnostic none ∈
      (naming carelessDocument).map Finding.diagnostic := by decide +kernel
  obtain ⟨checked, named⟩ := findings_well_formed carelessDocument
  exact ⟨⟨told, remarked⟩, checked _ told, named _ remarked⟩

end Check

end Dialogue
