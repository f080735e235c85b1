import Dialogue.Document.Builder
import Dialogue.Proofs.Check.Reported
import Dialogue.Proofs.Document.Values

/-!
# Undefined states

A flow refers to states by its `start` and by what the rules of its states lead to. Of these references the
checks report the ones to a state that the flow does not declare: each of them once, in the order in which
they stand, and nothing else under that code. Whether a value refers to a state is decided by the identifier
under its contexts; no other value does.
-/
namespace Dialogue

/-- The value is the name of a state, perhaps under contexts. -/
inductive Value.NamesState (state : String) : Value → Prop
  | bare (range : Option Range) : NamesState state (.identifier state range)
  | inContext {v : Value} (context : List Parameter) (range : Option Range) :
      NamesState state v → NamesState state (.contextualized v context range)

theorem Value.stateRef?_contextualized (v : Value) (context : List Parameter)
    (range : Option Range) : (contextualized v context range).stateRef? = v.stateRef? := rfl

/-- A value refers to a state when it is a state's name under any number of contexts. -/
theorem Value.stateRef?_eq_some_iff (v : Value) (state : String) :
    v.stateRef? = some state ↔ v.NamesState state := by
  constructor
  · induction v using Value.inner_induction with
    | step v ih =>
      intro named
      cases v with
      | identifier name range =>
        cases Option.some.inj named
        exact .bare range
      | contextualized v context range =>
        rw [stateRef?_contextualized] at named
        exact .inContext context range (ih v (by simp [Value.inner]) named)
      | _ => simp [stateRef?, core] at named
  · intro named
    induction named with
    | bare range => rfl
    | inContext context range _ ih => exact ih

namespace Check

/-! ## References -/

/-- What a node of a state's body leads to, in its order: a bare value, an attribute that is not an action, a
transition, each case of a match block. -/
def nodeTargets : Node → List Value
  | .value v => [v]
  | .attribute a => if a.key ∈ Flow.actionAttributes then [] else [a.value]
  | .transition rule => [rule.target]
  | .matchBlock block => block.cases.map MatchCase.consequence
  | .child _ => []

/-- Everything in a flow that can name a state: its start, then what its states lead to. -/
def flowTargets (flow : Section) : List Value :=
  ((flow.attribute? "start").map Attribute.value).toList ++
    (flow.childrenOf "on").flatMap fun state => state.body.flatMap nodeTargets

/-- The references of a flow to states that it does not declare. -/
def undeclaredStates (flow : Section) : List String :=
  ((flowTargets flow).filterMap Value.stateRef?).filter fun state => state ∉ declaredStates flow

theorem mem_declaredStates (flow : Section) (state : String) :
    state ∈ declaredStates flow ↔ ∃ s ∈ flow.childrenOf "on", s.name? = some state :=
  List.mem_filterMap

theorem states_stateUse (v : Value) (range : Option Range) :
    (stateUse v range).map StateUse.state = [v].filterMap Value.stateRef? := by
  unfold stateUse
  cases named : v.stateRef? <;> simp [named]

theorem states_nodeStateUses (node : Node) :
    (nodeStateUses node).map StateUse.state = (nodeTargets node).filterMap Value.stateRef? := by
  match node with
  | .child _ => rfl
  | .value v => exact states_stateUse v v.range
  | .transition rule => exact states_stateUse rule.target _
  | .attribute a =>
    simp only [nodeStateUses, nodeTargets, List.contains_iff_mem]
    split
    · rfl
    · exact states_stateUse a.value _
  | .matchBlock block =>
    simp only [nodeStateUses, nodeTargets, List.map_flatMap, states_stateUse]
    induction block.cases with
    | nil => rfl
    | cons c rest ih =>
      rw [List.flatMap_cons, ih, List.map_cons, ← List.filterMap_append, List.singleton_append]

theorem states_stateUses (state : Section) :
    (stateUses state).map StateUse.state =
      (state.body.flatMap nodeTargets).filterMap Value.stateRef? := by
  simp only [stateUses, List.map_map, Function.comp_def, List.map_flatMap, List.filterMap_flatMap,
    ← states_nodeStateUses]

theorem states_startUse (flow : Section) :
    (startUse flow).map StateUse.state =
      ((flow.attribute? "start").map Attribute.value).toList.filterMap Value.stateRef? := by
  unfold startUse
  cases flow.attribute? "start" with
  | none => rfl
  | some a => exact states_stateUse a.value _

/-! ## Reports -/

theorem problems_undefinedStates (flow : Section) (uses : List StateUse) :
    (undefinedStates flow uses).map Finding.problem =
      ((uses.map StateUse.state).filter fun state => state ∉ declaredStates flow).map
        fun state => .undefinedState state (flow.name?.getD unnamed) := by
  simp [undefinedStates, List.filter_map, Function.comp_def]

/-- Of the findings on a state only those on its references have the code. -/
theorem withCode_stateReferences (flow state : Section) :
    withCode .undefinedStateReference (stateReferences flow state) =
      undefinedStates flow (stateUses state) := by
  simp [stateReferences, withCode_of_single (only_undefinedStates _ _),
    withCode_of_foreign (only_matchCases state), withCode_of_foreign (only_events state)]

theorem problems_flowReferences (flow : Section) :
    (withCode .undefinedStateReference (flowReferences flow)).map Finding.problem =
      (undeclaredStates flow).map fun state => .undefinedState state (flow.name?.getD unnamed) := by
  simp only [flowReferences, withCode_append, withCode_flatMap, withCode_stateReferences,
    withCode_of_single (only_undefinedStates flow (startUse flow)), List.map_append,
    List.map_flatMap, problems_undefinedStates, states_startUse, states_stateUses]
  simp only [undeclaredStates, flowTargets, List.filterMap_append, List.filter_append,
    List.map_append, List.filterMap_flatMap, List.filter_flatMap, List.map_flatMap]
  rfl

/-- No check but the one of references knows the code. -/
theorem withCode_undefinedState (doc : Document) :
    withCode .undefinedStateReference (document doc) =
      (doc.gather "flow").flatMap fun flow =>
        withCode .undefinedStateReference (flowReferences flow) := by
  simp [document, references, withCode_of_foreign (only_agent doc),
    withCode_of_foreign (only_flows doc), withCode_of_foreign (only_messages doc),
    withCode_of_foreign (only_agentStart doc), withCode_of_foreign (only_typeTags doc), agentCodes,
    flowCodes, messageCodes, tagCodes]

/-- The reports of undefined states are exact. In order and with multiplicity there is one for each reference
of a flow to a state that it does not declare, flow by flow, from the start of the flow on; its message names
the state and the flow. A value refers to a state exactly if it is an identifier under any number of contexts,
and the declared states are the names of the state sections of that same flow. -/
theorem undefined_states_exact (doc : Document) :
    (withCode .undefinedStateReference (document doc)).map (fun f => f.diagnostic.message) =
      ((doc.gather "flow").flatMap fun flow => (undeclaredStates flow).map fun state =>
        "Reference to undefined state '" ++ state ++ "' in flow '" ++
          flow.name?.getD "<unnamed>" ++ "'") ∧
    (∀ (v : Value) (state : String), v.stateRef? = some state ↔ v.NamesState state) ∧
    ∀ flow state, state ∈ declaredStates flow ↔
      ∃ s ∈ flow.childrenOf "on", s.name? = some state := by
  refine ⟨?_, Value.stateRef?_eq_some_iff, mem_declaredStates⟩
  have messages : (fun f : Finding => f.diagnostic.message) = Problem.message ∘ Finding.problem :=
    funext Finding.message_diagnostic
  rw [messages, ← List.map_map, withCode_undefinedState, List.map_flatMap, List.map_flatMap]
  simp only [problems_flowReferences, List.map_map]
  rfl

/-- A flow that starts nowhere and leads nowhere: by a transition under a context and by a default case. -/
def strayFlow : Section :=
  let ask := (Section.ofKind "on").withName "Ask"
    |>.withAttribute "entry" (.identifier "greet" none)
    |>.withTransition none ((Value.identifier "Gone" none).withContext [("size", .string "l" none)])
    |>.withMatch (.reference "reply" none)
      [(.string "yes" none, .identifier "Ask" none), (.string "no" none, .atom "end" none),
        (.atom "default" none, .identifier "Gone" none)]
  (Section.ofKind "flow").withName "Order"
    |>.withAttribute "start" (.identifier "Lost" none) |>.withNode (.child ask)

example : (withCode .undefinedStateReference (document ⟨[strayFlow], none⟩)).map
    (fun f => f.diagnostic.message) =
      ["Reference to undefined state 'Lost' in flow 'Order'",
        "Reference to undefined state 'Gone' in flow 'Order'",
        "Reference to undefined state 'Gone' in flow 'Order'"] := by decide +kernel

end Check

end Dialogue
