import Dialogue.Check.Naming
import Dialogue.Check.Structure
import Dialogue.Compilation
import Dialogue.Proofs.Check.TypeTags
import Dialogue.Proofs.Flow.Respelling
import Dialogue.Proofs.Message.Respelling

/-!
# Findings on a respelt document

No check looks at a place or at the spelling of an atom: places only travel along into the findings. So
the findings on a respelt document are those on the document, one for one and in the same order, each at
its new place.
-/
namespace Dialogue

def Finding.respell (r : Respelling) (f : Finding) : Finding := ⟨f.problem, r.place f.range⟩

namespace Check

variable (r : Respelling)

/-! ## States -/

def StateUse.respell (use : StateUse) : StateUse := ⟨use.state, r.place use.range⟩

@[simp] theorem stateUse_respell (v : Value) (range : Option Range) :
    stateUse (v.respell r) (r.place range) = (stateUse v range).map (StateUse.respell r) := by
  unfold stateUse
  rw [Value.stateRef?_respell]
  split <;> rfl

theorem nodeStateUses_respell (n : Node) :
    nodeStateUses (n.respell r) = (nodeStateUses n).map (StateUse.respell r) := by
  match n with
  | .child s => rfl
  | .attribute a =>
    simp only [Node.respell, nodeStateUses, Attribute.respell, Value.range_respell, ← r.place_or,
      stateUse_respell]
    split <;> rfl
  | .transition rule =>
    simp only [Node.respell, nodeStateUses, DirectTransition.respell, Value.range_respell,
      ← r.place_or, stateUse_respell]
  | .matchBlock block =>
    simp only [Node.respell, nodeStateUses, MatchBlock.respell, List.flatMap_map, List.map_flatMap,
      MatchCase.respell, ← r.place_or, stateUse_respell]
  | .value v => simp only [Node.respell, nodeStateUses, Value.range_respell, stateUse_respell]

theorem stateUses_respell (state : Section) :
    stateUses (state.respell r) = (stateUses state).map (StateUse.respell r) := by
  simp only [stateUses, Section.body_respell, Section.range_respell, List.flatMap_map,
    nodeStateUses_respell, ← List.map_flatMap, List.map_map, Function.comp_def, StateUse.respell,
    r.place_or]

theorem startUse_respell (flow : Section) :
    startUse (flow.respell r) = (startUse flow).map (StateUse.respell r) := by
  unfold startUse
  rw [Section.attribute?_respell, Section.range_respell]
  cases flow.attribute? "start" with
  | none => rfl
  | some a => simp only [Option.map_some, Attribute.respell, ← r.place_or, stateUse_respell]

theorem declaredStates_respell (flow : Section) :
    declaredStates (flow.respell r) = declaredStates flow := by
  simp only [declaredStates, Flow.stateSections_respell, List.filterMap_map, Function.comp_def,
    Section.name?_respell]

theorem undefinedStates_respell (flow : Section) (uses : List StateUse) :
    undefinedStates (flow.respell r) (uses.map (StateUse.respell r)) =
      (undefinedStates flow uses).map (Finding.respell r) := by
  simp only [undefinedStates, declaredStates_respell, Section.name?_respell, List.filter_map,
    List.map_map, Function.comp_def, StateUse.respell, Finding.respell]

/-! ## Match blocks and events -/

theorem repeatedCases_respell (block : MatchBlock) (seen : List String) (hasDefault : Bool)
    (cases : List MatchCase) :
    repeatedCases (block.respell r) seen hasDefault (cases.map (MatchCase.respell r)) =
      (repeatedCases block seen hasDefault cases).map (Finding.respell r) := by
  induction cases generalizing seen hasDefault with
  | nil => rfl
  | cons c rest ih =>
    have place : (c.respell r).range.or (block.respell r).range = r.place (c.range.or block.range) :=
      (r.place_or _ _).symm
    have text : (c.respell r).pattern.canonicalText? = c.pattern.canonicalText? :=
      Value.canonicalText?_respell r c.pattern
    rw [List.map_cons, repeatedCases, repeatedCases, MatchCase.isDefault_respell, place, text]
    split
    · rw [ih, List.map_append]
      split <;> rfl
    · cases c.pattern.canonicalText? with
      | none => exact ih seen hasDefault
      | some pattern =>
        simp only [ih, List.map_append]
        split <;> rfl

theorem matchCases_respell (state : Section) :
    matchCases (state.respell r) = (matchCases state).map (Finding.respell r) := by
  have node : ∀ n : Node,
      nodeRepeatedCases (n.respell r) = (nodeRepeatedCases n).map (Finding.respell r) := by
    intro n
    match n with
    | .matchBlock block => exact repeatedCases_respell r block [] false block.cases
    | .child _ | .attribute _ | .transition _ | .value _ => rfl
  simp only [matchCases, Section.body_respell, List.flatMap_map, List.map_flatMap, node]

def RuleOutcome.respell : RuleOutcome → RuleOutcome
  | .malformed finding => .malformed (finding.respell r)
  | .claim event source range => .claim event source (r.place range)

theorem mismatchOutcome_respell (expected : String) (v : Value) (context : String)
    (range : Option Range) :
    mismatchOutcome expected (v.respell r) context (r.place range) =
      (mismatchOutcome expected v context range).respell r := by
  simp [mismatchOutcome, RuleOutcome.respell, Finding.respell]

theorem ruleOutcomes_respell (state : Section) (rule : DirectTransition) :
    ruleOutcomes (state.respell r) (rule.respell r) =
      (ruleOutcomes state rule).map (RuleOutcome.respell r) := by
  obtain ⟨operand, target, range⟩ := rule
  simp only [ruleOutcomes, DirectTransition.respell, Section.range_respell, ← r.place_or,
    Flow.isTarget_respell, mismatchOutcome_respell]
  split
  · cases operand with
    | none => rfl
    | some operand =>
      simp only [Option.map_some, Flow.eventName?_respell, mismatchOutcome_respell]
      split <;> rfl
  · rfl

theorem caseOutcomes_respell (index : Nat) (block : MatchBlock) (c : MatchCase) :
    caseOutcomes index (block.respell r) (c.respell r) =
      (caseOutcomes index block c).map (RuleOutcome.respell r) := by
  simp only [caseOutcomes, MatchCase.isDefault_respell]
  simp only [MatchBlock.respell, MatchCase.respell, ← r.place_or, Flow.isTarget_respell,
    Flow.matchEventName?_respell, mismatchOutcome_respell]
  split
  · split
    · rfl
    · split <;> rfl
  · rfl

theorem nodeOutcomes_respell (state : Section) (index : Nat) (n : Node) :
    nodeOutcomes (state.respell r) index (n.respell r) =
      (nodeOutcomes state index n).map (RuleOutcome.respell r) := by
  match n with
  | .transition rule => exact ruleOutcomes_respell r state rule
  | .attribute a =>
    simp only [Node.respell, nodeOutcomes, Attribute.respell, Section.range_respell, ← r.place_or,
      Flow.isTarget_respell]
    split <;> rfl
  | .matchBlock block =>
    change (block.cases.map (MatchCase.respell r)).flatMap (caseOutcomes index (block.respell r)) =
      (block.cases.flatMap (caseOutcomes index block)).map (RuleOutcome.respell r)
    simp only [List.flatMap_map, List.map_flatMap, caseOutcomes_respell]
  | .child _ | .value _ => rfl

theorem bodyOutcomes_respell (state : Section) (index : Nat) (body : List Node) :
    bodyOutcomes (state.respell r) index (body.map (Node.respell r)) =
      (bodyOutcomes state index body).map (RuleOutcome.respell r) := by
  induction body generalizing index with
  | nil => rfl
  | cons n rest ih =>
    rw [List.map_cons, bodyOutcomes, bodyOutcomes, nodeOutcomes_respell, ih, List.map_append]

theorem eventFindings_respell (state : String) (claimed : List (String × ClaimSource))
    (outcomes : List RuleOutcome) :
    eventFindings state claimed (outcomes.map (RuleOutcome.respell r)) =
      (eventFindings state claimed outcomes).map (Finding.respell r) := by
  induction outcomes generalizing claimed with
  | nil => rfl
  | cons outcome rest ih =>
    cases outcome with
    | malformed finding =>
      rw [List.map_cons, RuleOutcome.respell, eventFindings, eventFindings, ih, List.map_cons]
    | claim event source range =>
      rw [List.map_cons, RuleOutcome.respell, eventFindings, eventFindings]
      cases Table.lookup event claimed with
      | none => exact ih _
      | some first =>
        simp only [ih, List.map_append]
        split <;> rfl

theorem events_respell (state : Section) :
    events (state.respell r) = (events state).map (Finding.respell r) := by
  simp only [events, Section.name?_respell, Section.body_respell, bodyOutcomes_respell,
    eventFindings_respell]

/-! ## References -/

theorem stateReferences_respell (flow state : Section) :
    stateReferences (flow.respell r) (state.respell r) =
      (stateReferences flow state).map (Finding.respell r) := by
  simp only [stateReferences, stateUses_respell, undefinedStates_respell, matchCases_respell,
    events_respell, List.map_append]

theorem flowReferences_respell (flow : Section) :
    flowReferences (flow.respell r) = (flowReferences flow).map (Finding.respell r) := by
  simp only [flowReferences, startUse_respell, undefinedStates_respell, Flow.stateSections_respell,
    List.flatMap_map, List.map_append, List.map_flatMap, stateReferences_respell]

theorem agentStart_respell (doc : Document) :
    agentStart (doc.respell r) = (agentStart doc).map (Finding.respell r) := by
  unfold agentStart
  rw [Document.agents_respell, List.head?_map]
  cases doc.agents.head? with
  | none => rfl
  | some agent =>
    simp only [Option.map_some, Section.attribute?_respell]
    cases agent.attribute? "start" with
    | none => rfl
    | some a =>
      simp only [Option.map_some, Attribute.respell, Value.stateRef?_respell, Value.core_respell,
        Value.kind_respell, Section.range_respell, ← r.place_or, Document.gather_respell,
        List.any_map, Function.comp_def, Section.name?_respell]
      cases a.value.stateRef? with
      | none => rfl
      | some flow =>
        simp only
        split <;> rfl

theorem references_respell (doc : Document) :
    references (doc.respell r) = (references doc).map (Finding.respell r) := by
  simp only [references, Document.gather_respell, List.flatMap_map, List.map_append,
    List.map_flatMap, flowReferences_respell, agentStart_respell]

/-! ## Structure -/

theorem agentName?_respell (agent : Section) : agentName? (agent.respell r) = agentName? agent := by
  simp only [agentName?, Section.name?_respell]

theorem agentIdentifier_respell (agent : Section) :
    agentIdentifier (agent.respell r) = (agentIdentifier agent).map (Finding.respell r) := by
  unfold agentIdentifier
  rw [agentName?_respell, Section.range_respell]
  split <;> rfl

theorem displayName_respell (agent : Section) :
    displayName (agent.respell r) = (displayName agent).map (Finding.respell r) := by
  unfold displayName
  rw [Section.attribute?_respell, agentName?_respell, Section.range_respell]
  cases agent.attribute? "displayName" with
  | none => rfl
  | some a =>
    simp only [Option.map_some, Attribute.respell, Value.core_respell, Value.text?_respell,
      Value.kind_respell, ← r.place_or]
    split <;> rfl

theorem reservedName_respell (s : Section) :
    reservedName (s.respell r) = (reservedName s).map (Finding.respell r) := by
  unfold reservedName
  rw [Section.attribute?_respell, Section.kind_respell, Section.range_respell]
  cases s.attribute? reservedProperty with
  | none => rfl
  | some a =>
    simp only [Option.map_some, Attribute.respell, ← r.place_or]
    rfl

theorem propertySections_respell (doc : Document) (agent : Section) :
    propertySections (doc.respell r) (agent.respell r) =
      (propertySections doc agent).map (Section.respell r) := by
  simp [propertySections]

theorem agent_respell (doc : Document) :
    agent (doc.respell r) = (agent doc).map (Finding.respell r) := by
  unfold agent
  rw [Document.agents_respell]
  cases doc.agents with
  | nil => rfl
  | cons first others =>
    simp only [List.map_cons, List.map_map, List.map_append, Function.comp_def,
      Section.range_respell, agentIdentifier_respell, displayName_respell,
      propertySections_respell, List.flatMap_map, List.map_flatMap, reservedName_respell,
      Finding.respell]

theorem flowStart_respell (name : String) (flow : Section) :
    flowStart name (flow.respell r) = (flowStart name flow).map (Finding.respell r) := by
  unfold flowStart
  rw [Section.attribute?_respell, Section.range_respell]
  cases flow.attribute? "start" with
  | none => rfl
  | some a =>
    simp only [Option.map_some, Attribute.respell, Value.stateRef?_respell, Value.core_respell,
      Value.kind_respell, ← r.place_or]
    split <;> rfl

theorem repeatedName_respell (kind : String) (seen : List String) (name : String) (s : Section) :
    repeatedName kind seen name (s.respell r) =
      (repeatedName kind seen name s).map (Finding.respell r) := by
  unfold repeatedName
  rw [Section.range_respell]
  split <;> rfl

theorem stateNames_respell (seen : List String) (states : List Section) :
    stateNames seen (states.map (Section.respell r)) =
      (stateNames seen states).map (Finding.respell r) := by
  induction states generalizing seen with
  | nil => rfl
  | cons state rest ih =>
    rw [List.map_cons, stateNames, stateNames, Section.name?_respell, Section.range_respell]
    cases state.name? with
    | none => simp only [ih, List.map_cons, Finding.respell]
    | some name => simp only [ih, List.map_append, repeatedName_respell]

theorem flow_respell (name : String) (s : Section) :
    flow name (s.respell r) = (flow name s).map (Finding.respell r) := by
  simp only [flow, Flow.stateSections_respell, flowStart_respell, stateNames_respell,
    List.isEmpty_map, Section.range_respell, List.map_append]
  split <;> rfl

theorem flowList_respell (seen : List String) (flows : List Section) :
    flowList seen (flows.map (Section.respell r)) = (flowList seen flows).map (Finding.respell r) := by
  induction flows generalizing seen with
  | nil => rfl
  | cons f rest ih =>
    rw [List.map_cons, flowList, flowList, Section.name?_respell, Section.range_respell]
    cases f.name? with
    | none => simp only [ih, flow_respell, List.map_append, List.map_cons, Finding.respell]
    | some name => simp only [ih, flow_respell, repeatedName_respell, List.map_append]

theorem flows_respell (doc : Document) :
    flows (doc.respell r) = (flows doc).map (Finding.respell r) := by
  simp only [flows, Document.gather_respell, List.isEmpty_map, flowList_respell, List.map_append]
  split <;> rfl

theorem messageContent_respell (label : String) (message : Section) :
    messageContent label (message.respell r) =
      (messageContent label message).map (Finding.respell r) := by
  unfold messageContent
  rw [Message.content_respell, Section.range_respell]
  split <;> rfl

theorem messageList_respell (seen : List String) (messages : List Section) :
    messageList seen (messages.map (Section.respell r)) =
      (messageList seen messages).map (Finding.respell r) := by
  induction messages generalizing seen with
  | nil => rfl
  | cons message rest ih =>
    rw [List.map_cons, messageList, messageList, Section.isMessage_respell, Section.name?_respell,
      Section.kind_respell, Section.range_respell]
    split
    · cases message.name? with
      | none => simp only [ih, messageContent_respell, List.map_append]
      | some name =>
        simp only [ih, messageContent_respell, repeatedName_respell, List.map_append]
    · simp only [ih, List.map_cons, Finding.respell]

theorem messages_respell (doc : Document) :
    messages (doc.respell r) = (messages doc).map (Finding.respell r) := by
  unfold messages
  rw [Document.gather_respell]
  cases doc.gather "messages" with
  | nil => rfl
  | cons first others =>
    have children : ((first :: others).map (Section.respell r)).flatMap Section.children =
        ((first :: others).flatMap Section.children).map (Section.respell r) := by
      simp only [List.flatMap_map, List.map_flatMap, Section.children_respell]
    simp only [List.map_cons] at children ⊢
    rw [children, messageList_respell]
    simp only [List.map_append, List.map_map, Function.comp_def, Section.range_respell,
      Finding.respell]

/-! ## Type-tagged literals -/

def TagUse.respell (use : TagUse) : TagUse := ⟨use.tag, use.value, r.place use.range⟩

theorem tagUses_respell (v : Value) : tagUses (v.respell r) = (tagUses v).map (TagUse.respell r) := by
  induction v using Value.inner_induction with
  | step v inside =>
    cases v with
    | list items range =>
      rw [Value.respell, tagUses, tagUses, Value.respellItems_eq, itemsTagUses_eq, itemsTagUses_eq,
        List.flatMap_map, List.map_flatMap]
      exact congrArg List.flatten (List.map_congr_left inside)
    | dictionary entries range =>
      rw [Value.respell, tagUses, tagUses, Value.respellEntries_eq, entriesTagUses_eq,
        entriesTagUses_eq, List.flatMap_map, List.map_flatMap]
      exact congrArg List.flatten
        (List.map_congr_left fun entry member => inside entry.2 (List.mem_map_of_mem member))
    | contextualized value context range =>
      obtain ⟨core, around⟩ := List.forall_mem_cons.mp inside
      rw [Value.respell, tagUses, tagUses, Value.respellContext_eq, contextTagUses_eq,
        contextTagUses_eq, List.flatMap_map, List.map_append, List.map_flatMap, core]
      exact congrArg (_ ++ List.flatten ·)
        (List.map_congr_left fun p member => around p.value (List.mem_map_of_mem member))
    | _ => rfl

theorem nodeTagUses_respell {n : Node}
    (child : ∀ s, n.child? = some s → sectionTagUses (s.respell r) =
      (sectionTagUses s).map (TagUse.respell r)) :
    nodeTagUses (n.respell r) = (nodeTagUses n).map (TagUse.respell r) := by
  match n with
  | .child s => exact child s rfl
  | .attribute a => exact tagUses_respell r a.value
  | .matchBlock block =>
    simp only [Node.respell, nodeTagUses, blockTagUses, MatchBlock.respell, List.flatMap_map,
      caseTagUses, MatchCase.respell, tagUses_respell, List.map_append, List.map_flatMap]
  | .transition rule =>
    obtain ⟨operand, target, range⟩ := rule
    cases operand <;>
      simp [Node.respell, nodeTagUses, ruleTagUses, DirectTransition.respell, tagUses_respell]
  | .value v => exact tagUses_respell r v

theorem sectionTagUses_respell (s : Section) :
    sectionTagUses (s.respell r) = (sectionTagUses s).map (TagUse.respell r) := by
  induction s using Section.children_induction with
  | step s inside =>
    obtain ⟨kind, identifier, parameters, body, range⟩ := s
    have nodes : ∀ n ∈ body,
        nodeTagUses (n.respell r) = (nodeTagUses n).map (TagUse.respell r) := by
      intro n member
      refine nodeTagUses_respell r fun c isChild => inside c ?_
      exact List.mem_filterMap.mpr ⟨n, member, isChild⟩
    rw [Section.respell, sectionTagUses, sectionTagUses, Node.respellAll_eq, bodyTagUses_eq,
      bodyTagUses_eq, List.map_append, List.flatMap_map, List.flatMap_map, List.map_flatMap,
      List.map_flatMap]
    simp only [Labelled.respell, tagUses_respell]
    exact congrArg (_ ++ List.flatten ·) (List.map_congr_left nodes)

theorem typeTags_respell (doc : Document) :
    typeTags (doc.respell r) = (typeTags doc).map (Finding.respell r) := by
  have finding : ∀ use, tagFinding? (use.respell r) = (tagFinding? use).map (Finding.respell r) := by
    intro use
    simp [tagFinding?, tagProblem?, TagUse.respell, Function.comp_def, Finding.respell]
  simp only [typeTags, Document.respell, List.flatMap_map, sectionTagUses_respell,
    ← List.map_flatMap, List.filterMap_map, List.map_filterMap, Function.comp_def, finding]

/-- The findings of the checks on a respelt document. -/
theorem document_respell (doc : Document) :
    document (doc.respell r) = (document doc).map (Finding.respell r) := by
  simp only [document, agent_respell, flows_respell, messages_respell, references_respell,
    typeTags_respell, List.map_append]

/-! ## Naming -/

theorem nameFinding_respell (s : Section) (kind convention : String) (severity : Severity)
    (accepts : String → Bool) :
    nameFinding (s.respell r) kind convention severity accepts =
      (nameFinding s kind convention severity accepts).map (Finding.respell r) := by
  unfold nameFinding
  rw [Section.name?_respell, Section.range_respell]
  cases s.name? with
  | none => rfl
  | some name =>
    simp only
    split <;> rfl

theorem agentNaming_respell (agent : Section) :
    agentNaming (agent.respell r) = (agentNaming agent).map (Finding.respell r) := by
  unfold agentNaming
  rw [Section.name?_respell, Section.range_respell, nameFinding_respell]
  cases agent.name? with
  | none => rfl
  | some name =>
    simp only
    split <;> rfl

theorem naming_respell (doc : Document) :
    naming (doc.respell r) = (naming doc).map (Finding.respell r) := by
  simp only [naming, Document.agents_respell, Document.gather_respell, List.flatMap_map,
    List.map_append, List.map_flatMap, agentNaming_respell, flowNaming, messagesNaming,
    Flow.stateSections_respell, Section.children_respell, nameFinding_respell]

end Check

namespace Compilation

variable (r : Respelling)

theorem emptyMessages_respell (doc : Document) :
    emptyMessages (doc.respell r) = (emptyMessages doc).map (Finding.respell r) := by
  simp only [emptyMessages, Document.gather_respell, List.filter_map, List.map_map,
    Function.comp_def, Section.children_respell, List.any_map, Section.isMessage_respell,
    Section.range_respell, Finding.respell]

/-- What the compiler finds in a respelt document. -/
theorem findings_respell (options : CompilerOptions) (doc : Document) :
    findings options (doc.respell r) = (findings options doc).map (Finding.respell r) := by
  simp only [findings, Check.document_respell, Check.naming_respell, emptyMessages_respell,
    List.map_append]
  split <;> rfl

end Compilation

end Dialogue
