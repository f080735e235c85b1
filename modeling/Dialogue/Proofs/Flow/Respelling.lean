import Dialogue.Flow.Compile
import Dialogue.Proofs.Document.Respelling

/-!
# Flows of a respelt document

A flow is compiled from names, literals and events, none of which a respelling touches. So the compiled
flows of a respelt document are those of the document.
-/
namespace Dialogue.Flow

variable (r : Respelling)

/-! ## Rules -/

@[simp] theorem eventName?_respell (v : Value) : eventName? (v.respell r) = eventName? v := by
  simp [eventName?]

@[simp] theorem matchEventName?_respell (v : Value) :
    matchEventName? (v.respell r) = matchEventName? v := by
  simp [matchEventName?]

@[simp] theorem targetText?_respell (v : Value) : targetText? (v.respell r) = targetText? v := by
  unfold targetText?
  rw [Value.core_respell]
  cases v.core with
  | atom value range =>
    change some (":" ++ Value.atomName (r.atom value)) = some (":" ++ Value.atomName value)
    rw [r.atomName_atom]
  | _ => rfl

@[simp] theorem isTarget_respell (v : Value) : isTarget (v.respell r) = isTarget v := by
  simp [isTarget]

@[simp] theorem contextEntries_respell (v : Value) :
    contextEntries (v.respell r) = contextEntries v := by
  simp [contextEntries, List.filterMap_map, Function.comp_def, Labelled.respell]

@[simp] theorem transition?_respell (v : Value) : transition? (v.respell r) = transition? v := by
  simp [transition?]

theorem itemsActionNames_eq (items : List Value) :
    itemsActionNames items = items.flatMap actionNames := by
  induction items with
  | nil => rfl
  | cons item rest ih => rw [itemsActionNames, ih, List.flatMap_cons]

@[simp] theorem actionNames_respell (v : Value) : actionNames (v.respell r) = actionNames v := by
  induction v using Value.inner_induction with
  | step v inside =>
    cases v with
    | contextualized value context range => exact inside value List.mem_cons_self
    | list items range =>
      have same : (items.map (Value.respell r)).flatMap actionNames = items.flatMap actionNames := by
        rw [List.flatMap_map]
        exact congrArg List.flatten (List.map_congr_left inside)
      rw [Value.respell, actionNames, actionNames, Value.respellItems_eq, itemsActionNames_eq,
        itemsActionNames_eq, same]
    | _ => rfl

theorem addCase_respell (s : StateNode) (c : MatchCase) : addCase s (c.respell r) = addCase s c := by
  simp only [addCase, MatchCase.isDefault_respell]
  simp only [MatchCase.respell, transition?_respell, matchEventName?_respell]

theorem addRule_respell (s : StateNode) (rule : DirectTransition) :
    addRule s (rule.respell r) = addRule s rule := by
  obtain ⟨operand, target, range⟩ := rule
  cases operand <;> simp [addRule, DirectTransition.respell]

theorem addAttribute_respell (s : StateNode) (a : Attribute) :
    addAttribute s (a.respell r) = addAttribute s a := by
  simp [addAttribute, Attribute.respell]

theorem addNode_respell (s : StateNode) (n : Node) : addNode s (n.respell r) = addNode s n := by
  match n with
  | .child c => rfl
  | .attribute a => exact addAttribute_respell r s a
  | .matchBlock block =>
    change (block.cases.map (MatchCase.respell r)).foldl addCase s = block.cases.foldl addCase s
    simp only [List.foldl_map, addCase_respell]
  | .transition rule => exact addRule_respell r s rule
  | .value v => simp [Node.respell, addNode]

/-! ## Sections -/

@[simp] theorem compileState_respell (state : Section) :
    compileState (state.respell r) = compileState state := by
  simp only [compileState, Section.body_respell, List.foldl_map, addNode_respell]

@[simp] theorem stateSections_respell (flow : Section) :
    stateSections (flow.respell r) = (stateSections flow).map (Section.respell r) := by
  simp [stateSections]

@[simp] theorem compileStates_respell (flow : Section) :
    compileStates (flow.respell r) = compileStates flow := by
  simp only [compileStates, stateSections_respell, List.filterMap_map, Function.comp_def,
    Section.name?_respell, compileState_respell]

@[simp] theorem startOf_respell (flow : Section) (states : Table StateNode) :
    startOf (flow.respell r) states = startOf flow states := by
  simp [startOf, Option.bind_map, Function.comp_def, Attribute.respell]

@[simp] theorem compile_respell (flow : Section) : compile (flow.respell r) = compile flow := by
  simp [compile]

/-- A respelling has no say in how flows are compiled. -/
@[simp] theorem compileAll_respell (doc : Document) : compileAll (doc.respell r) = compileAll doc := by
  simp only [compileAll, Document.gather_respell, List.filterMap_map, Function.comp_def,
    Section.name?_respell, compile_respell]

end Dialogue.Flow
