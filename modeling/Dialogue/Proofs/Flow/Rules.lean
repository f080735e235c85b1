import Dialogue.Flow.Compile
import Dialogue.Proofs.Table

/-!
# The rules of a state

The body of a state read as two lists in source order: the rules that are taken on an event of their own,
and the rules that say where to go on any other event. Compiling a state fills its event table from the
first list and takes its fallback from the second; nothing else of the body gets into either.
-/
namespace Dialogue.Flow

/-- A rule that is taken on an event: the event if it can be named, what the rule leads to, and the place
that findings on it refer to. -/
structure KeyedRule where
  event? : Option String
  target : Value
  range : Option Range

/-- The keyed rule that a case of a match block makes. -/
def caseRule (block : MatchBlock) (c : MatchCase) : KeyedRule :=
  ⟨matchEventName? c.pattern, c.consequence, c.range.or block.range⟩

/-- The keyed rules of one node: a transition with an operand, an attribute that is not an action and
leads somewhere, each case of a match block that is not the default. -/
def nodeKeyedRules (state : Section) : Node → List KeyedRule
  | .transition rule =>
    match rule.operand with
    | some operand => [⟨eventName? operand, rule.target, rule.range.or state.range⟩]
    | none => []
  | .attribute a =>
    if !actionAttributes.contains a.key && isTarget a.value then
      [⟨some a.key, a.value, a.range.or state.range⟩]
    else []
  | .matchBlock block => (block.cases.filter fun c => !c.isDefault).map (caseRule block)
  | .value _ | .child _ => []

def keyedRules (state : Section) : List KeyedRule := state.body.flatMap (nodeKeyedRules state)

/-- The targets of the rules of one node that have no event: a transition without an operand, a bare
state name, each default case of a match block. -/
def nodeFallbacks : Node → List Value
  | .transition rule =>
    match rule.operand with
    | some _ => []
    | none => [rule.target]
  | .value v => if v.stateRef?.isSome then [v] else []
  | .matchBlock block => (block.cases.filter MatchCase.isDefault).map MatchCase.consequence
  | .attribute _ | .child _ => []

def fallbacks (state : Section) : List Value := state.body.flatMap nodeFallbacks

/-- What the rules of a state lead to. -/
def ruleTargets (state : Section) : List Value :=
  (keyedRules state).map KeyedRule.target ++ fallbacks state

/-- The entry that a keyed rule offers to the event table. -/
def KeyedRule.offer? (rule : KeyedRule) : Option (String × Transition) :=
  rule.event?.bind fun event => (transition? rule.target).map fun t => (event, t)

theorem KeyedRule.offer?_eq_some_iff (rule : KeyedRule) (event : String) (t : Transition) :
    rule.offer? = some (event, t) ↔
      rule.event? = some event ∧ transition? rule.target = some t := by
  unfold KeyedRule.offer?
  cases rule.event? <;> cases transition? rule.target <;> simp

/-! ## What one node does -/

@[simp] theorem addEvent_on (s : StateNode) (event : String) (t : Transition) :
    (s.addEvent event t).on = s.on.add event t := rfl

@[simp] theorem addEvent_always (s : StateNode) (event : String) (t : Transition) :
    (s.addEvent event t).always = s.always := rfl

@[simp] theorem setAlways_on (s : StateNode) (t : Transition) : (s.setAlways t).on = s.on := rfl

@[simp] theorem setAlways_always (s : StateNode) (t : Transition) :
    (s.setAlways t).always = s.always.or (some t) := rfl

theorem isTarget_iff (v : Value) : isTarget v = true ↔ ∃ t, transition? v = some t := by
  rw [isTarget, transition?]
  cases targetText? v <;> simp

/-- A case offers its entry when it has an event, else its target as the fallback. -/
theorem addCase_effect (block : MatchBlock) (s : StateNode) (c : MatchCase) :
    (addCase s c).on = s.on.addAll
        (if c.isDefault then [] else (caseRule block c).offer?.toList) ∧
      (addCase s c).always =
        s.always.or (if c.isDefault then transition? c.consequence else none) := by
  unfold addCase caseRule KeyedRule.offer?
  cases led : transition? c.consequence with
  | none => cases c.isDefault <;> cases matchEventName? c.pattern <;> simp
  | some t =>
    cases isDefault : c.isDefault with
    | true => simp
    | false => cases matchEventName? c.pattern <;> simp [Table.addAll_cons]

theorem addCases_on (block : MatchBlock) (s : StateNode) (cases : List MatchCase) :
    (cases.foldl addCase s).on = s.on.addAll
      (((cases.filter fun c => !c.isDefault).map (caseRule block)).filterMap KeyedRule.offer?) := by
  induction cases generalizing s with
  | nil => rfl
  | cons c rest ih =>
    rw [List.foldl_cons, ih, (addCase_effect block s c).1, ← Table.addAll_append]
    cases isDefault : c.isDefault with
    | true => simp [isDefault]
    | false => cases offered : (caseRule block c).offer? <;> simp [isDefault, offered]

theorem addCases_always (block : MatchBlock) (s : StateNode) (cases : List MatchCase) :
    (cases.foldl addCase s).always = s.always.or
      (((cases.filter MatchCase.isDefault).map MatchCase.consequence).findSome? transition?) := by
  induction cases generalizing s with
  | nil => simp
  | cons c rest ih =>
    rw [List.foldl_cons, ih, (addCase_effect block s c).2, Option.or_assoc]
    cases isDefault : c.isDefault with
    | true => cases led : transition? c.consequence <;> simp [isDefault, led]
    | false => simp [isDefault]

theorem addNode_on (state : Section) (s : StateNode) (node : Node) :
    (addNode s node).on =
      s.on.addAll ((nodeKeyedRules state node).filterMap KeyedRule.offer?) := by
  match node with
  | .child _ => rfl
  | .value v =>
    simp only [addNode, nodeKeyedRules]
    cases v.stateRef?.isSome <;> cases transition? v <;> simp
  | .transition rule =>
    simp only [addNode, addRule, nodeKeyedRules]
    cases led : transition? rule.target with
    | none => cases rule.operand <;> simp [KeyedRule.offer?, led]
    | some t =>
      cases rule.operand with
      | none => simp
      | some operand => cases named : eventName? operand <;> simp [KeyedRule.offer?, led, named,
          Table.addAll_cons]
  | .attribute a =>
    simp only [addNode, addAttribute, nodeKeyedRules]
    by_cases entry : a.key = "entry"
    · simp [entry, actionAttributes, StateNode.addEntry]
    · by_cases exit : a.key = "exit"
      · simp [exit, actionAttributes, StateNode.addExit]
      · cases led : transition? a.value <;>
          simp [entry, exit, actionAttributes, isTarget_iff, led, KeyedRule.offer?,
            Table.addAll_cons]
  | .matchBlock block => exact addCases_on block s block.cases

theorem addNode_always (s : StateNode) (node : Node) :
    (addNode s node).always = s.always.or ((nodeFallbacks node).findSome? transition?) := by
  match node with
  | .child _ => simp [addNode, nodeFallbacks]
  | .value v =>
    simp only [addNode, nodeFallbacks]
    cases v.stateRef?.isSome <;> cases led : transition? v <;> simp [led]
  | .transition rule =>
    simp only [addNode, addRule, nodeFallbacks]
    cases led : transition? rule.target with
    | none => cases rule.operand <;> simp [led]
    | some t =>
      cases rule.operand with
      | none => simp [led]
      | some operand => cases named : eventName? operand <;> simp [named]
  | .attribute a =>
    simp only [addNode, addAttribute, nodeFallbacks]
    by_cases entry : a.key = "entry"
    · simp [entry, StateNode.addEntry]
    · by_cases exit : a.key = "exit"
      · simp [exit, StateNode.addExit]
      · cases transition? a.value <;> simp [entry, exit]
  | .matchBlock block => exact addCases_always block s block.cases

/-! ## What a whole body does -/

theorem addNodes_on (state : Section) (s : StateNode) (body : List Node) :
    (body.foldl addNode s).on =
      s.on.addAll ((body.flatMap (nodeKeyedRules state)).filterMap KeyedRule.offer?) := by
  induction body generalizing s with
  | nil => rfl
  | cons node rest ih =>
    rw [List.foldl_cons, ih, addNode_on state, ← Table.addAll_append, List.flatMap_cons,
      List.filterMap_append]

theorem addNodes_always (s : StateNode) (body : List Node) :
    (body.foldl addNode s).always =
      s.always.or ((body.flatMap nodeFallbacks).findSome? transition?) := by
  induction body generalizing s with
  | nil => simp
  | cons node rest ih =>
    rw [List.foldl_cons, ih, addNode_always, Option.or_assoc, List.flatMap_cons,
      List.findSome?_append]

/-- The event table of a state is filled from its keyed rules, the first of an event counting. -/
theorem compileState_on (state : Section) :
    (compileState state).on = Table.ofFirst ((keyedRules state).filterMap KeyedRule.offer?) :=
  addNodes_on state StateNode.empty state.body

/-- The fallback of a state is its first rule without an event that leads somewhere. -/
theorem compileState_always (state : Section) :
    (compileState state).always = (fallbacks state).findSome? transition? := by
  rw [compileState, addNodes_always]
  simp [StateNode.empty, fallbacks]

end Dialogue.Flow
