import Dialogue.Check.Naming
import Dialogue.Proofs.Check.Promises

/-!
# What the checks can report

The checks of a document report problems of sixteen kinds, the naming conventions two kinds of remarks.
Problems with files, of the parser or of the compiler itself are none of theirs. Each check has codes of its
own, so what a document is told under a code comes from the few checks that have it.
-/
namespace Dialogue.Check

/-- The problems that the checks of a document report. -/
@[simp] def IsDocumentProblem : Problem → Prop
  | .missingIdentifier _ | .missingRequiredField _ | .duplicateDefinition _ _
  | .missingDisplayName _ | .emptyFlow _ | .missingFlowStart _ | .undefinedState _ _
  | .undefinedFlow _ | .invalidTypeTag _ | .typeMismatch _ _ _ | .invalidTagValue _ _ _
  | .invalidPropertyName _ _ | .invalidMessageType _ | .malformedMessage _ _
  | .duplicateMatchCase _ | .duplicateEvent _ _ => True
  | _ => False

/-- The remarks that the naming conventions lead to. -/
@[simp] def IsNamingRemark : Problem → Prop
  | .reservedAgentName _ => True
  | .namingConvention _ _ _ severity => severity ≠ .error
  | _ => False

/-- None of these problems is an internal one. -/
theorem category_ne_internal {p : Problem}
    (reported : IsDocumentProblem p ∨ IsNamingRemark p ∨ p = .emptyMessages) :
    p.code.category ≠ .internal := by
  cases p with
  | internalError detail => simp at reported
  | _ => simp [Problem.code, Code.category, Code.number, Category.ofNumber?]

/-! ## Findings by their code -/

/-- The problem has one of the codes. -/
@[simp] def Coded (codes : List Code) (p : Problem) : Prop := p.code ∈ codes

/-- The findings with a code, in their order. -/
def withCode (code : Code) (findings : List Finding) : List Finding :=
  findings.filter fun f => f.problem.code = code

theorem filter_diagnostics (code : Code) (findings : List Finding) :
    ((findings.map Finding.diagnostic).filter fun d => d.code = code) =
      (withCode code findings).map Finding.diagnostic := by
  rw [List.filter_map, withCode]
  refine congrArg (List.map Finding.diagnostic) (List.filter_congr fun f _ => ?_)
  rw [Function.comp_apply, Finding.code_diagnostic]

section
variable (code : Code)

@[simp] theorem withCode_nil : withCode code [] = [] := rfl

@[simp] theorem withCode_append (first second : List Finding) :
    withCode code (first ++ second) = withCode code first ++ withCode code second :=
  List.filter_append _ _

theorem withCode_cons (f : Finding) (rest : List Finding) :
    withCode code (f :: rest) =
      if f.problem.code = code then f :: withCode code rest else withCode code rest := by
  simp [withCode, List.filter_cons]

@[simp] theorem withCode_flatMap {α : Type} (items : List α) (check : α → List Finding) :
    withCode code (items.flatMap check) = items.flatMap fun item => withCode code (check item) :=
  List.filter_flatMap

end

theorem Only.widen {codes more : List Code} {findings : List Finding}
    (only : Only (Coded codes) findings) (within : codes ⊆ more) : Only (Coded more) findings :=
  fun f member => within (only f member)

/-- A check finds nothing under a code that is none of its own. -/
theorem withCode_of_foreign {code : Code} {codes : List Code} {findings : List Finding}
    (only : Only (Coded codes) findings) (foreign : code ∉ codes) : withCode code findings = [] := by
  refine List.filter_eq_nil_iff.mpr fun f member same => ?_
  rw [decide_eq_true_eq] at same
  exact foreign (same ▸ only f member)

/-- A check with a single code finds everything under it. -/
theorem withCode_of_single {code : Code} {findings : List Finding}
    (only : Only (Coded [code]) findings) : withCode code findings = findings := by
  refine List.filter_eq_self.mpr fun f member => ?_
  rw [decide_eq_true_eq]
  exact List.mem_singleton.mp (only f member)

/-! ## Structure -/

def agentCodes : List Code :=
  [.missingRequiredField, .duplicateDefinition, .missingIdentifier, .missingDisplayName,
   .typeMismatch, .invalidPropertyName]

def flowCodes : List Code :=
  [.missingRequiredField, .duplicateDefinition, .missingIdentifier, .missingFlowStart,
   .typeMismatch, .emptyFlowSection]

/-- The codes of what is found on single flows. -/
def flowListCodes : List Code :=
  [.duplicateDefinition, .missingIdentifier, .missingFlowStart, .typeMismatch, .emptyFlowSection]

def messageCodes : List Code :=
  [.missingRequiredField, .duplicateDefinition, .malformedMessageContent, .invalidMessageType]

/-- The codes of what is found on single messages. -/
def messageListCodes : List Code :=
  [.duplicateDefinition, .malformedMessageContent, .invalidMessageType]

/-- Sections of a kind that there may be only one of, beside the first. -/
theorem only_repeatedSections (kind : String) (others : List Section) :
    Only (Coded [.duplicateDefinition])
      (others.map fun other => ⟨.duplicateDefinition kind none, other.range⟩) := by
  simp [Problem.code]

theorem only_agentIdentifier (s : Section) :
    Only (Coded [.missingIdentifier]) (agentIdentifier s) := by
  unfold agentIdentifier
  split <;> simp [Problem.code]

theorem only_displayName (s : Section) :
    Only (Coded [.missingDisplayName, .typeMismatch]) (displayName s) := by
  unfold displayName
  split
  · simp [Problem.code]
  · split <;> simp [Problem.code]

theorem only_reservedName (s : Section) :
    Only (Coded [.invalidPropertyName]) (reservedName s) := by
  unfold reservedName
  split <;> simp [Problem.code]

theorem only_agent (doc : Document) : Only (Coded agentCodes) (agent doc) := by
  unfold agent
  split
  · simp [Problem.code, agentCodes]
  · simp only [only_append, only_map, only_flatMap]
    exact ⟨⟨⟨by simp [Problem.code, agentCodes], (only_agentIdentifier _).widen (by decide)⟩,
      (only_displayName _).widen (by decide)⟩, fun s _ => (only_reservedName s).widen (by decide)⟩

theorem only_repeatedName (kind : String) (seen : List String) (name : String) (s : Section) :
    Only (Coded [.duplicateDefinition]) (repeatedName kind seen name s) := by
  unfold repeatedName
  split <;> simp [Problem.code]

theorem only_stateNames (seen : List String) (states : List Section) :
    Only (Coded [.missingIdentifier, .duplicateDefinition]) (stateNames seen states) := by
  induction states generalizing seen with
  | nil => simp [stateNames]
  | cons state rest ih =>
    simp only [stateNames]
    split
    · simp [Problem.code, ih]
    · simp only [only_append]
      exact ⟨(only_repeatedName _ _ _ _).widen (by decide), ih _⟩

theorem only_flowStart (name : String) (f : Section) :
    Only (Coded [.missingFlowStart, .typeMismatch]) (flowStart name f) := by
  unfold flowStart
  split
  · simp [Problem.code]
  · split <;> simp [Problem.code]

theorem only_flow (name : String) (f : Section) : Only (Coded flowListCodes) (flow name f) := by
  simp only [flow, only_append]
  refine ⟨⟨(only_flowStart name f).widen (by decide), ?_⟩, (only_stateNames _ _).widen (by decide)⟩
  split <;> simp [Problem.code, flowListCodes]

theorem only_flowList (seen : List String) (sections : List Section) :
    Only (Coded flowListCodes) (flowList seen sections) := by
  induction sections generalizing seen with
  | nil => simp [flowList]
  | cons f rest ih =>
    simp only [flowList]
    split
    · simp only [only_cons, only_append]
      exact ⟨⟨by simp [Problem.code, flowListCodes], only_flow _ _⟩, ih _⟩
    · simp only [only_append]
      exact ⟨⟨(only_repeatedName _ _ _ _).widen (by decide), only_flow _ _⟩, ih _⟩

theorem only_flows (doc : Document) : Only (Coded flowCodes) (flows doc) := by
  simp only [flows, only_append]
  refine ⟨?_, (only_flowList _ _).widen (by decide)⟩
  split <;> simp [Problem.code, flowCodes]

theorem only_messageContent (label : String) (s : Section) :
    Only (Coded [.malformedMessageContent]) (messageContent label s) := by
  unfold messageContent
  split <;> simp [Problem.code]

theorem only_messageList (seen : List String) (sections : List Section) :
    Only (Coded messageListCodes) (messageList seen sections) := by
  induction sections generalizing seen with
  | nil => simp [messageList]
  | cons message rest ih =>
    have content (label : String) : Only (Coded messageListCodes) (messageContent label message) :=
      (only_messageContent label message).widen (by decide)
    simp only [messageList]
    split
    · split
      · simp only [only_append]
        exact ⟨content _, ih _⟩
      · simp only [only_append]
        exact ⟨⟨(only_repeatedName _ _ _ _).widen (by decide), content _⟩, ih _⟩
    · simp only [only_cons]
      exact ⟨by simp [Problem.code, messageListCodes], ih _⟩

theorem only_messages (doc : Document) : Only (Coded messageCodes) (messages doc) := by
  unfold messages
  split
  · simp [Problem.code, messageCodes]
  · simp only [only_append, only_map]
    exact ⟨by simp [Problem.code, messageCodes], (only_messageList _ _).widen (by decide)⟩

/-! ## References -/

def referenceCodes : List Code :=
  [.undefinedStateReference, .duplicateMatchCase, .typeMismatch, .undefinedFlowReference]

theorem only_undefinedStates (f : Section) (uses : List StateUse) :
    Only (Coded [.undefinedStateReference]) (undefinedStates f uses) := by
  simp [undefinedStates, Problem.code]

theorem only_repeatedCases (block : MatchBlock) (seen : List String) (hasDefault : Bool)
    (cases : List MatchCase) :
    Only (Coded [.duplicateMatchCase]) (repeatedCases block seen hasDefault cases) := by
  induction cases generalizing seen hasDefault with
  | nil => simp [repeatedCases]
  | cons c rest ih =>
    simp only [repeatedCases]
    split
    · simp only [only_append, ih, and_true]
      split <;> simp [Problem.code]
    · split
      · exact ih _ _
      · simp only [only_append, ih, and_true]
        split <;> simp [Problem.code]

theorem only_matchCases (state : Section) :
    Only (Coded [.duplicateMatchCase]) (matchCases state) := by
  simp only [matchCases, only_flatMap]
  intro node _
  unfold nodeRepeatedCases
  split
  · exact only_repeatedCases _ _ _ _
  · simp

theorem only_eventFindings (state : String) (claimed : List (String × ClaimSource))
    (outcomes : List RuleOutcome)
    (mismatches : ∀ f, .malformed f ∈ outcomes → IsMismatch f) :
    Only (Coded [.duplicateMatchCase, .typeMismatch]) (eventFindings state claimed outcomes) := by
  induction outcomes generalizing claimed with
  | nil => simp [eventFindings]
  | cons outcome rest ih =>
    have later := fun claimed => ih claimed fun f member => mismatches f (List.mem_cons_of_mem _ member)
    cases outcome with
    | malformed f =>
      obtain ⟨expected, found, context, mismatch⟩ := mismatches f (by simp)
      simp only [eventFindings, only_cons]
      exact ⟨by simp [mismatch, Problem.code], later _⟩
    | claim event source range =>
      simp only [eventFindings]
      split
      · exact later _
      · simp only [only_append, later, and_true]
        split <;> simp [Problem.code]

theorem only_events (state : Section) :
    Only (Coded [.duplicateMatchCase, .typeMismatch]) (events state) :=
  only_eventFindings _ _ _ fun _ => malformed_body

theorem only_agentStart (doc : Document) :
    Only (Coded [.typeMismatch, .undefinedFlowReference]) (agentStart doc) := by
  unfold agentStart
  split
  · simp
  · split
    · simp
    · dsimp only
      split
      · simp [Problem.code]
      · split <;> simp [Problem.code]

theorem only_references (doc : Document) : Only (Coded referenceCodes) (references doc) := by
  have undefined (f : Section) (uses : List StateUse) :
      Only (Coded referenceCodes) (undefinedStates f uses) :=
    (only_undefinedStates f uses).widen (by decide)
  have repeats (state : Section) : Only (Coded referenceCodes) (matchCases state) :=
    (only_matchCases state).widen (by decide)
  have found (state : Section) : Only (Coded referenceCodes) (events state) :=
    (only_events state).widen (by decide)
  have start : Only (Coded referenceCodes) (agentStart doc) :=
    (only_agentStart doc).widen (by decide)
  simp only [references, flowReferences, stateReferences, only_append, only_flatMap]
  exact ⟨fun f _ => ⟨undefined _ _, fun state _ => ⟨⟨undefined _ _, repeats _⟩, found _⟩⟩, start⟩

def tagCodes : List Code := [.invalidTypeTag, .invalidTypeTagValue]

theorem only_typeTags (doc : Document) : Only (Coded tagCodes) (typeTags doc) := by
  intro f member
  obtain ⟨use, _, made⟩ := List.mem_filterMap.mp member
  obtain ⟨problem, wrong, rfl⟩ := Option.map_eq_some_iff.mp made
  unfold tagProblem? at wrong
  split at wrong
  · obtain ⟨fault, _, rfl⟩ := Option.map_eq_some_iff.mp wrong
    simp [Problem.code, tagCodes]
  · cases wrong
    simp [Problem.code, tagCodes]

/-- What is neither about references nor about type tags is about the structure. -/
theorem withCode_structural {code : Code} (reference : code ∉ referenceCodes) (tag : code ∉ tagCodes)
    (doc : Document) :
    withCode code (document doc) =
      withCode code (agent doc) ++ withCode code (flows doc) ++ withCode code (messages doc) := by
  simp only [document, withCode_append, withCode_of_foreign (only_references doc) reference,
    withCode_of_foreign (only_typeTags doc) tag, List.append_nil]

def documentCodes : List Code :=
  agentCodes ++ flowCodes ++ messageCodes ++ referenceCodes ++ tagCodes

theorem only_document_coded (doc : Document) : Only (Coded documentCodes) (document doc) := by
  simp only [document, only_append]
  exact ⟨⟨⟨⟨(only_agent doc).widen (by decide), (only_flows doc).widen (by decide)⟩,
    (only_messages doc).widen (by decide)⟩, (only_references doc).widen (by decide)⟩,
    (only_typeTags doc).widen (by decide)⟩

/-- The checks of a document report nothing else. -/
theorem only_document (doc : Document) : Only IsDocumentProblem (document doc) := by
  intro f member
  have coded := only_document_coded doc f member
  cases problem : f.problem <;>
    simp_all [Problem.code, documentCodes, agentCodes, flowCodes, messageCodes, referenceCodes,
      tagCodes]

/-! ## Naming conventions -/

theorem only_nameFinding (s : Section) (kind convention : String) (severity : Severity)
    (accepts : String → Bool) (mild : severity ≠ .error) :
    Only IsNamingRemark (nameFinding s kind convention severity accepts) := by
  unfold nameFinding
  split
  · simp
  · split <;> simp [mild]

/-- The naming conventions lead to remarks only. -/
theorem only_naming (doc : Document) : Only IsNamingRemark (naming doc) := by
  have agentOnly (s : Section) : Only IsNamingRemark (agentNaming s) := by
    unfold agentNaming
    split
    · simp
    · split
      · simp
      · exact only_nameFinding _ _ _ _ _ (by decide)
  have warned (s : Section) (kind convention : String) (accepts : String → Bool) :
      Only IsNamingRemark (nameFinding s kind convention .warning accepts) :=
    only_nameFinding _ _ _ _ _ (by decide)
  have noted (s : Section) (kind convention : String) (accepts : String → Bool) :
      Only IsNamingRemark (nameFinding s kind convention .info accepts) :=
    only_nameFinding _ _ _ _ _ (by decide)
  simp [naming, agentOnly, flowNaming, messagesNaming, warned, noted]

theorem only_naming_coded (doc : Document) :
    Only (Coded [.invalidAgentName, .namingConvention]) (naming doc) := by
  intro f member
  have remark := only_naming doc f member
  cases problem : f.problem <;> simp_all [Problem.code]

end Dialogue.Check
