import Dialogue.Flow.Basic

/-!
# From flow sections to transition tables

A rule of a state is a transition with an operand, an attribute that is not an action, or a case of a
match block; each of these claims an event. A transition without an operand, a bare state name or a
`default` case sets the fallback. Rules whose target is not a state, an atom or a variable are skipped;
whether that is an error is for the checks to say.

This is `compile_flows` with `compile_flow`, `compile_state` and `compile_transition`, and `event_name`,
`match_event_name` and `is_transition_target`, which the checks use too. What is logged about skipped
rules is not modelled.
-/
namespace Dialogue.Flow

/-- The event that the operand of a transition names. -/
def eventName? (operand : Value) : Option String := operand.canonicalText?

/-- The event that a pattern of a match block stands for. -/
def matchEventName? (pattern : Value) : Option String :=
  pattern.canonicalText?.map ("match_" ++ ·)

/-- Where a value leads: a state by its name, an atom as `:name`, a variable as `@name`. -/
def targetText? (v : Value) : Option String :=
  match v.core with
  | .identifier name _ => some name
  | .atom name _ => some (":" ++ Value.atomName name)
  | .reference name _ => some ("@" ++ name)
  | _ => none

def isTarget (v : Value) : Bool := (targetText? v).isSome

/-- The named parameters of the contexts, from the outermost inward. -/
def contextEntries (v : Value) : List (String × Json) :=
  v.context.filterMap fun p => p.key.map fun key => (key, p.value.literal)

/-- The transition to a value; of a context key given twice the first counts. -/
def transition? (v : Value) : Option Transition :=
  (targetText? v).map fun target => ⟨target, Table.ofFirst (contextEntries v)⟩

mutual

/-- The actions that a value names: itself, or those of its items. -/
def actionNames : Value → List String
  | .contextualized value _ _ => actionNames value
  | .identifier name _ => [name]
  | .string name _ => [name]
  | .list items _ => itemsActionNames items
  | _ => []

def itemsActionNames : List Value → List String
  | [] => []
  | item :: rest => actionNames item ++ itemsActionNames rest

end

/-- The attributes of a state that list actions. -/
def actionAttributes : List String := ["entry", "exit"]

/-- The effect of one match case. -/
def addCase (s : StateNode) (c : MatchCase) : StateNode :=
  match transition? c.consequence with
  | none => s
  | some t =>
    if c.isDefault then s.setAlways t
    else
      match matchEventName? c.pattern with
      | some event => s.addEvent event t
      | none => s

/-- The effect of one transition rule. -/
def addRule (s : StateNode) (rule : DirectTransition) : StateNode :=
  match transition? rule.target with
  | none => s
  | some t =>
    match rule.operand with
    | none => s.setAlways t
    | some operand =>
      match eventName? operand with
      | some event => s.addEvent event t
      | none => s

/-- The effect of one attribute. -/
def addAttribute (s : StateNode) (a : Attribute) : StateNode :=
  if a.key = "entry" then s.addEntry (actionNames a.value)
  else if a.key = "exit" then s.addExit (actionNames a.value)
  else
    match transition? a.value with
    | some t => s.addEvent a.key t
    | none => s

/-- The effect of one node of a state's body. -/
def addNode (s : StateNode) : Node → StateNode
  | .transition rule => addRule s rule
  | .value v =>
    if v.stateRef?.isSome then
      match transition? v with
      | some t => s.setAlways t
      | none => s
    else s
  | .attribute a => addAttribute s a
  | .matchBlock block => block.cases.foldl addCase s
  | .child _ => s

def compileState (state : Section) : StateNode := state.body.foldl addNode StateNode.empty

/-- The state sections of a flow. -/
def stateSections (flow : Section) : List Section := flow.childrenOf "on"

/-- The named states of a flow, compiled; the first of a name counts. -/
def compileStates (flow : Section) : Table StateNode :=
  Table.ofFirst ((stateSections flow).filterMap fun s => s.name?.map fun name => (name, compileState s))

/-- The start of a flow: what its `start` attribute names, else its first state, else nothing. -/
def startOf (flow : Section) (states : Table StateNode) : String :=
  match (flow.attribute? "start").bind fun a => a.value.stateRef? with
  | some start => start
  | none => states.keys.head?.getD ""

def compile (flow : Section) : Flow :=
  let states := compileStates flow
  ⟨startOf flow states, states⟩

/-- The named flows of a document, compiled; the first of a name counts. -/
def compileAll (doc : Document) : Table Flow :=
  Table.ofFirst ((doc.gather "flow").filterMap fun f => f.name?.map fun name => (name, compile f))

end Dialogue.Flow
