import Dialogue.Proofs.Compilation.Findings

/-!
# Structural findings

A document is told once about each kind of section that it lacks, once when its agent has no `displayName`,
and once for each flow without a start, each flow without states and each section of messages without a
message. Nothing else that is wrong with the document hides such a finding or repeats it.
-/
namespace Dialogue

/-- No attribute of the section has the key. -/
def Section.lacks (s : Section) (key : String) : Bool := s.attributes.all fun a => a.key != key

theorem Section.attribute?_eq_none_iff (s : Section) (key : String) :
    s.attribute? key = none ↔ s.lacks key = true := by
  simp [attribute?, lacks]

namespace Check

/-! ## Single findings -/

/-- One finding when a condition holds, none when it does not. -/
def findingIf (condition : Bool) (problem : Problem) (range : Option Range) : List Finding :=
  if condition then [⟨problem, range⟩] else []

theorem only_findingIf (condition : Bool) (problem : Problem) (range : Option Range) :
    Only (Coded [problem.code]) (findingIf condition problem range) := by
  unfold findingIf
  split <;> simp

theorem length_findingIf (condition : Bool) (problem : Problem) (range : Option Range) :
    (findingIf condition problem range).length = if condition then 1 else 0 := by
  cases condition <;> rfl

/-- One finding for each section that is at fault. -/
theorem length_flatMap_findingIf (sections : List Section) (faulty : Section → Bool)
    (problem : Section → Problem) :
    (sections.flatMap fun s => findingIf (faulty s) (problem s) s.range).length =
      sections.countP faulty := by
  induction sections with
  | nil => rfl
  | cons s rest ih =>
    rw [List.flatMap_cons, List.length_append, ih, length_findingIf, List.countP_cons, Nat.add_comm]

/-- The finding on a required attribute: when it is given, all that can be wrong is its type. -/
theorem withCode_required {s : Section} {key : String} {found : List Finding} (problem : Problem)
    (absent : s.attribute? key = none → found = [⟨problem, s.range⟩])
    (present : ∀ a, s.attribute? key = some a → Only (Coded [.typeMismatch]) found)
    (other : problem.code ∉ [Code.typeMismatch]) :
    withCode problem.code found = findingIf (s.lacks key) problem s.range := by
  cases given : s.attribute? key with
  | none =>
    rw [absent given, (Section.attribute?_eq_none_iff s key).mp given]
    exact withCode_of_single (only_findingIf true problem s.range)
  | some a =>
    have has : s.lacks key = false := by
      rw [← Bool.not_eq_true, ← Section.attribute?_eq_none_iff, given]
      exact Option.some_ne_none a
    rw [withCode_of_foreign (present a given) other, has]
    rfl

/-! ## Kinds of sections -/

/-- What is found when a document lacks a kind of section. -/
def missingSection (doc : Document) (what : String) (sections : List Section) : List Finding :=
  findingIf sections.isEmpty (.missingRequiredField what) doc.range

theorem withCode_missing_agent (doc : Document) :
    withCode .missingRequiredField (agent doc) = missingSection doc "agent section" doc.agents := by
  unfold agent
  cases doc.agents with
  | nil => rfl
  | cons first others =>
    simp [withCode_of_foreign (only_repeatedSections "agent" others),
      withCode_of_foreign (only_agentIdentifier first),
      withCode_of_foreign (only_displayName first), withCode_of_foreign (only_reservedName _),
      missingSection, findingIf]

theorem withCode_missing_flow (doc : Document) :
    withCode .missingRequiredField (flows doc) =
      missingSection doc "flow section" (doc.gather "flow") := by
  have single : withCode .missingRequiredField (flowList [] (doc.gather "flow")) = [] :=
    withCode_of_foreign (only_flowList _ _) (by decide)
  rw [flows, withCode_append, single, List.append_nil]
  exact withCode_of_single (only_findingIf _ (.missingRequiredField "flow section") doc.range)

theorem withCode_missing_messages (doc : Document) :
    withCode .missingRequiredField (messages doc) =
      missingSection doc "messages section" (doc.gather "messages") := by
  unfold messages
  cases doc.gather "messages" with
  | nil => rfl
  | cons first others =>
    have repeated : withCode .missingRequiredField
        (others.map fun other => ⟨.duplicateDefinition "messages" none, other.range⟩) = [] :=
      withCode_of_foreign (only_repeatedSections _ _) (by decide)
    have single : withCode .missingRequiredField
        (messageList [] ((first :: others).flatMap Section.children)) = [] :=
      withCode_of_foreign (only_messageList _ _) (by decide)
    rw [withCode_append, repeated, single]
    rfl

theorem withCode_missingRequiredField (doc : Document) :
    withCode .missingRequiredField (document doc) =
      missingSection doc "agent section" doc.agents ++
        missingSection doc "flow section" (doc.gather "flow") ++
        missingSection doc "messages section" (doc.gather "messages") := by
  rw [withCode_structural (by decide) (by decide), withCode_missing_agent, withCode_missing_flow,
    withCode_missing_messages]

/-! ## The agent -/

theorem withCode_displayName (s : Section) :
    withCode .missingDisplayName (displayName s) =
      findingIf (s.lacks "displayName") (.missingDisplayName ((agentName? s).getD unnamed))
        s.range := by
  refine withCode_required (.missingDisplayName _) (fun given => ?_) (fun a given => ?_)
    (by simp [Problem.code])
  · simp only [displayName, given]
  · simp only [displayName, given]
    split <;> simp [Problem.code]

theorem withCode_missingDisplayName (doc : Document) :
    withCode .missingDisplayName (document doc) =
      (doc.agents.take 1).flatMap fun s =>
        findingIf (s.lacks "displayName") (.missingDisplayName ((agentName? s).getD unnamed))
          s.range := by
  have noFlow : withCode .missingDisplayName (flows doc) = [] :=
    withCode_of_foreign (only_flows doc) (by decide)
  have noMessage : withCode .missingDisplayName (messages doc) = [] :=
    withCode_of_foreign (only_messages doc) (by decide)
  rw [withCode_structural (by decide) (by decide), noFlow, noMessage, agent]
  cases doc.agents with
  | nil => rfl
  | cons first others =>
    simp [withCode_displayName, withCode_of_foreign (only_repeatedSections "agent" others),
      withCode_of_foreign (only_agentIdentifier first), withCode_of_foreign (only_reservedName _)]

/-! ## Flows -/

/-- What a flow is called in findings. -/
def flowLabel (f : Section) : String := f.name?.getD unnamed

/-- Apart from what concerns its name, each flow gets the findings on itself, whatever names were seen. -/
theorem withCode_flowList {code : Code} (unique : code ≠ .duplicateDefinition)
    (named : code ≠ .missingIdentifier) (seen : List String) (flows : List Section) :
    withCode code (flowList seen flows) =
      flows.flatMap fun f => withCode code (flow (flowLabel f) f) := by
  induction flows generalizing seen with
  | nil => rfl
  | cons f rest ih =>
    rw [flowList, List.flatMap_cons, flowLabel]
    cases f.name? with
    | none => simp [withCode_cons, Problem.code, named.symm, ih]
    | some name =>
      have other : code ∉ [Code.duplicateDefinition] := by simpa using unique
      simp [withCode_of_foreign (only_repeatedName "flow" seen name f) other, ih]

/-- What no check but the one of flows can find is found flow by flow. -/
theorem withCode_of_flows {code : Code}
    (foreign : code ∉ agentCodes ++ messageCodes ++ referenceCodes ++ tagCodes) (doc : Document) :
    withCode code (document doc) =
      (doc.gather "flow").flatMap fun f => withCode code (flow (flowLabel f) f) := by
  simp only [List.mem_append, not_or] at foreign
  obtain ⟨⟨⟨noAgent, noMessage⟩, noReference⟩, noTag⟩ := foreign
  have unique : code ≠ .duplicateDefinition := fun equal => noAgent (equal ▸ by decide)
  have named : code ≠ .missingIdentifier := fun equal => noAgent (equal ▸ by decide)
  have missing : code ∉ [(Problem.missingRequiredField "flow section").code] := by
    intro equal
    exact noAgent (List.mem_singleton.mp equal ▸ by decide)
  have lacking : withCode code (if (doc.gather "flow").isEmpty then
      [⟨.missingRequiredField "flow section", doc.range⟩] else []) = [] :=
    withCode_of_foreign (only_findingIf _ (.missingRequiredField "flow section") doc.range) missing
  rw [withCode_structural noReference noTag, withCode_of_foreign (only_agent doc) noAgent,
    withCode_of_foreign (only_messages doc) noMessage, flows, withCode_append, lacking,
    withCode_flowList unique named, List.nil_append, List.nil_append, List.append_nil]

theorem withCode_flowStart (name : String) (f : Section) :
    withCode .missingFlowStart (flowStart name f) =
      findingIf (f.lacks "start") (.missingFlowStart name) f.range := by
  refine withCode_required (.missingFlowStart _) (fun given => ?_) (fun a given => ?_)
    (by simp [Problem.code])
  · simp only [flowStart, given]
  · simp only [flowStart, given]
    split <;> simp [Problem.code]

theorem withCode_flow_start (name : String) (f : Section) :
    withCode .missingFlowStart (flow name f) =
      findingIf (f.lacks "start") (.missingFlowStart name) f.range := by
  have states : withCode .missingFlowStart (stateNames [] (Flow.stateSections f)) = [] :=
    withCode_of_foreign (only_stateNames _ _) (by decide)
  have empty : withCode .missingFlowStart
      (if (Flow.stateSections f).isEmpty then [⟨.emptyFlow name, f.range⟩] else []) = [] :=
    withCode_of_foreign (only_findingIf _ (.emptyFlow name) f.range) (by simp [Problem.code])
  simp only [flow, withCode_append, withCode_flowStart, states, empty, List.append_nil]

theorem withCode_flow_states (name : String) (f : Section) :
    withCode .emptyFlowSection (flow name f) =
      findingIf (f.childrenOf "on").isEmpty (.emptyFlow name) f.range := by
  have states : withCode .emptyFlowSection (stateNames [] (Flow.stateSections f)) = [] :=
    withCode_of_foreign (only_stateNames _ _) (by decide)
  have start : withCode .emptyFlowSection (flowStart name f) = [] :=
    withCode_of_foreign (only_flowStart _ _) (by decide)
  simp only [flow, withCode_append, start, states, List.append_nil, List.nil_append]
  exact withCode_of_single (only_findingIf _ (.emptyFlow name) f.range)

theorem withCode_missingFlowStart (doc : Document) :
    withCode .missingFlowStart (document doc) =
      (doc.gather "flow").flatMap fun f =>
        findingIf (f.lacks "start") (.missingFlowStart (flowLabel f)) f.range := by
  simp only [withCode_of_flows (show Code.missingFlowStart ∉ _ by decide), withCode_flow_start]

theorem withCode_emptyFlow (doc : Document) :
    withCode .emptyFlowSection (document doc) =
      (doc.gather "flow").flatMap fun f =>
        findingIf (f.childrenOf "on").isEmpty (.emptyFlow (flowLabel f)) f.range := by
  simp only [withCode_of_flows (show Code.emptyFlowSection ∉ _ by decide), withCode_flow_states]

end Check

/-! ## Compilations -/

namespace Compilation

theorem only_emptyMessages (doc : Document) :
    Check.Only (Check.Coded [.emptyMessagesSection]) (emptyMessages doc) := by
  simp [emptyMessages, Problem.code]

/-- The naming conventions have codes of their own. -/
theorem withCode_findings {code : Code} (foreign : code ∉ [Code.invalidAgentName, .namingConvention])
    (options : CompilerOptions) (doc : Document) :
    Check.withCode code (findings options doc) =
      Check.withCode code (Check.document doc) ++ Check.withCode code (emptyMessages doc) := by
  have named : Check.withCode code (if options.namingConventions then Check.naming doc else []) = [] := by
    split
    · exact Check.withCode_of_foreign (Check.only_naming_coded doc) foreign
    · rfl
  rw [findings, Check.withCode_append, Check.withCode_append, named, List.append_nil]

theorem length_withCode_emptyMessages (doc : Document) :
    (Check.withCode .emptyMessagesSection (Check.document doc) ++
      Check.withCode .emptyMessagesSection (emptyMessages doc)).length =
        (doc.gather "messages").countP fun s => !s.children.any Section.isMessage := by
  have unchecked : Check.withCode .emptyMessagesSection (Check.document doc) = [] := by
    rw [Check.withCode_structural (by decide) (by decide),
      Check.withCode_of_foreign (Check.only_agent doc) (by decide),
      Check.withCode_of_foreign (Check.only_flows doc) (by decide),
      Check.withCode_of_foreign (Check.only_messages doc) (by decide)]
    rfl
  rw [unchecked, Check.withCode_of_single (only_emptyMessages doc), List.nil_append, emptyMessages,
    List.length_map, List.countP_eq_length_filter]

/-- Among diagnostics the structural ones are those that a document calls for: one for each kind of section
that it lacks, one for its first agent without a `displayName`, one for each flow without a start, one for each
flow without states, and one for each section of messages without a message. -/
structure StructureTold (doc : Document) (ds : List Diagnostic) : Prop where
  sections : ds.countP (fun d => d.code = .missingRequiredField) =
    [doc.agents, doc.gather "flow", doc.gather "messages"].countP List.isEmpty
  displayName : ds.countP (fun d => d.code = .missingDisplayName) =
    (doc.agents.take 1).countP fun s => s.lacks "displayName"
  start : ds.countP (fun d => d.code = .missingFlowStart) =
    (doc.gather "flow").countP fun f => f.lacks "start"
  states : ds.countP (fun d => d.code = .emptyFlowSection) =
    (doc.gather "flow").countP fun f => (f.childrenOf "on").isEmpty
  messages : ds.countP (fun d => d.code = .emptyMessagesSection) =
    (doc.gather "messages").countP fun s => !s.children.any Section.isMessage

/-- How often a code is reported is how many findings have it; the document that they are put down to does not
matter. -/
theorem countP_filed (uri : Option String) (code : Code) (found : List Finding) :
    (found.map fun f => f.diagnostic.filedUnder uri).countP (fun d => d.code = code) =
      (Check.withCode code found).length := by
  rw [List.countP_map, Check.withCode, ← List.countP_eq_length_filter]
  refine List.countP_congr fun f _ => ?_
  rw [Function.comp_apply, Diagnostic.code_filedUnder, Finding.code_diagnostic]

/-- What neither the naming conventions nor the look for empty sections report is left to the checks. -/
theorem countP_checked {code : Code} (named : code ∉ [Code.invalidAgentName, .namingConvention])
    (filled : code ∉ [Code.emptyMessagesSection]) (uri : Option String) (options : CompilerOptions)
    (doc : Document) :
    ((findings options doc).map fun f => f.diagnostic.filedUnder uri).countP (fun d => d.code = code) =
      (Check.withCode code (Check.document doc)).length := by
  rw [countP_filed, withCode_findings named, Check.withCode_of_foreign (only_emptyMessages doc) filled,
    List.append_nil]

theorem structureTold_findings (uri : Option String) (options : CompilerOptions) (doc : Document) :
    StructureTold doc ((findings options doc).map fun f => f.diagnostic.filedUnder uri) where
  sections := by
    rw [countP_checked (by decide) (by decide), Check.withCode_missingRequiredField]
    simp only [Check.missingSection, List.length_append, Check.length_findingIf, List.countP_cons,
      List.countP_nil]
    omega
  displayName := by
    rw [countP_checked (by decide) (by decide), Check.withCode_missingDisplayName,
      Check.length_flatMap_findingIf]
  start := by
    rw [countP_checked (by decide) (by decide), Check.withCode_missingFlowStart,
      Check.length_flatMap_findingIf]
  states := by
    rw [countP_checked (by decide) (by decide), Check.withCode_emptyFlow,
      Check.length_flatMap_findingIf]
  messages := by
    rw [countP_filed, withCode_findings (by decide), length_withCode_emptyMessages]

end Compilation

/-- Structural findings are never hidden and never repeated: for every document, whatever else is wrong with
it, what a compilation adds to the findings of the parser has exactly the structural findings that the document
calls for. -/
theorem structural_findings_told (options : CompilerOptions) (input : SourceDocument) :
    ∃ added, (compile options input).diagnostics.Perm
        (input.diagnostics.map (Diagnostic.filedUnder input.uri) ++ added) ∧
      Compilation.StructureTold input.ast added := by
  refine ⟨_, ?_, Compilation.structureTold_findings input.uri options input.ast⟩
  have merged : Compilation.merged options input =
      input.diagnostics ++ (Compilation.findings options input.ast).map Finding.diagnostic := rfl
  rw [compile_diagnostics, Compilation.placed_eq_map, merged, List.map_append, List.map_map]
  exact Diagnostic.sort_perm _

end Dialogue
