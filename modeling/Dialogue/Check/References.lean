import Dialogue.Diagnostic.Problem
import Dialogue.Flow.Compile

/-!
# References and rules

A flow may only lead to states of its own, an agent only start with a flow of the document. Every rule of
a state has to name a target and an event, and no two rules of a state may claim the same event.

This is `check_references`: `check_flow` with `outgoing_targets`, `check_events`, `check_match_cases` and
`check_agent_start`. The reporter that findings are handed to is a list here, in the order in which they
are reported.
-/
namespace Dialogue.Check

/-- What stands for the name of a section that has none. -/
def unnamed : String := "<unnamed>"

def targetKinds : String := "state, atom or variable"

def eventKinds : String := "string, atom, identifier, number or variable"

/-! ## States -/

/-- A state that is named as a target, and where. -/
structure StateUse where
  state : String
  range : Option Range
  deriving DecidableEq, Repr

def stateUse (v : Value) (range : Option Range) : List StateUse :=
  match v.stateRef? with
  | some state => [⟨state, range⟩]
  | none => []

/-- The states that a node of a state's body leads to. Atoms end the flow and variables are looked up
while it runs, so neither counts. -/
def nodeStateUses : Node → List StateUse
  | .value v => stateUse v v.range
  | .attribute a =>
    if Flow.actionAttributes.contains a.key then [] else stateUse a.value (a.range.or a.value.range)
  | .transition rule => stateUse rule.target (rule.range.or rule.target.range)
  | .matchBlock block =>
    block.cases.flatMap fun c => stateUse c.consequence (c.range.or block.range)
  | .child _ => []

/-- The states that a state leads to, each with its place. -/
def stateUses (state : Section) : List StateUse :=
  (state.body.flatMap nodeStateUses).map fun use => { use with range := use.range.or state.range }

/-- The state that a flow starts with. -/
def startUse (flow : Section) : List StateUse :=
  match flow.attribute? "start" with
  | some a => stateUse a.value (a.range.or flow.range)
  | none => []

/-- The names of the states of a flow. -/
def declaredStates (flow : Section) : List String :=
  (Flow.stateSections flow).filterMap Section.name?

/-- The uses of states that the flow does not have. -/
def undefinedStates (flow : Section) (uses : List StateUse) : List Finding :=
  (uses.filter fun use => !(declaredStates flow).contains use.state).map fun use =>
    ⟨.undefinedState use.state (flow.name?.getD unnamed), use.range⟩

/-! ## Match blocks -/

/-- Cases that cannot apply because an earlier case of the block has the same pattern. -/
def repeatedCases (block : MatchBlock) (seen : List String) (hasDefault : Bool) :
    List MatchCase → List Finding
  | [] => []
  | c :: rest =>
    if c.isDefault then
      (if hasDefault then [⟨.duplicateMatchCase ":default", c.range.or block.range⟩] else []) ++
        repeatedCases block seen true rest
    else
      match c.pattern.canonicalText? with
      | none => repeatedCases block seen hasDefault rest
      | some pattern =>
        (if seen.contains pattern then
            [⟨.duplicateMatchCase pattern, c.range.or block.range⟩]
          else []) ++
          repeatedCases block (pattern :: seen) hasDefault rest

def nodeRepeatedCases : Node → List Finding
  | .matchBlock block => repeatedCases block [] false block.cases
  | _ => []

def matchCases (state : Section) : List Finding := state.body.flatMap nodeRepeatedCases

/-! ## Events -/

/-- What claims an event: a rule of its own, or a case of the match block at an index of the body. -/
inductive ClaimSource where
  | rule
  | block (index : Nat)
  deriving DecidableEq, Repr

/-- A rule as this check sees it: it is malformed, or it claims an event. -/
inductive RuleOutcome where
  | malformed (finding : Finding)
  | claim (event : String) (source : ClaimSource) (range : Option Range)
  deriving DecidableEq, Repr

def mismatchOutcome (expected : String) (v : Value) (context : String) (range : Option Range) :
    RuleOutcome :=
  .malformed ⟨.typeMismatch expected v.core.kind context, range⟩

def ruleOutcomes (state : Section) (rule : DirectTransition) : List RuleOutcome :=
  let range := rule.range.or state.range
  if Flow.isTarget rule.target then
    match rule.operand with
    | none => []
    | some operand =>
      match Flow.eventName? operand with
      | some event => [.claim event .rule range]
      | none => [mismatchOutcome eventKinds operand "transition event" range]
  else [mismatchOutcome targetKinds rule.target "transition target" range]

def caseOutcomes (index : Nat) (block : MatchBlock) (c : MatchCase) : List RuleOutcome :=
  let range := c.range.or block.range
  if Flow.isTarget c.consequence then
    if c.isDefault then []
    else
      match Flow.matchEventName? c.pattern with
      | some event => [.claim event (.block index) range]
      | none => [mismatchOutcome eventKinds c.pattern "match case pattern" range]
  else [mismatchOutcome targetKinds c.consequence "match case target" range]

/-- The rules that the node at an index of a state's body makes. -/
def nodeOutcomes (state : Section) (index : Nat) : Node → List RuleOutcome
  | .transition rule => ruleOutcomes state rule
  | .attribute a =>
    if !Flow.actionAttributes.contains a.key && Flow.isTarget a.value then
      [.claim a.key .rule (a.range.or state.range)]
    else []
  | .matchBlock block => block.cases.flatMap (caseOutcomes index block)
  | _ => []

def bodyOutcomes (state : Section) (index : Nat) : List Node → List RuleOutcome
  | [] => []
  | node :: rest => nodeOutcomes state index node ++ bodyOutcomes state (index + 1) rest

/-- Whether a repeated claim is passed over: repeats inside one match block are found with its cases. -/
def isOwnRepeat (first source : ClaimSource) : Bool :=
  match source with
  | .rule => false
  | .block _ => first == source

/-- The malformed rules, and the claims to an event that an earlier rule has. -/
def eventFindings (state : String) (claimed : List (String × ClaimSource)) :
    List RuleOutcome → List Finding
  | [] => []
  | .malformed finding :: rest => finding :: eventFindings state claimed rest
  | .claim event source range :: rest =>
    match Table.lookup event claimed with
    | none => eventFindings state ((event, source) :: claimed) rest
    | some first =>
      (if isOwnRepeat first source then [] else [⟨.duplicateEvent event state, range⟩]) ++
        eventFindings state claimed rest

def events (state : Section) : List Finding :=
  eventFindings (state.name?.getD unnamed) [] (bodyOutcomes state 0 state.body)

/-! ## The pass -/

/-- The findings on one state of a flow. -/
def stateReferences (flow state : Section) : List Finding :=
  undefinedStates flow (stateUses state) ++ matchCases state ++ events state

/-- The findings on one flow. -/
def flowReferences (flow : Section) : List Finding :=
  undefinedStates flow (startUse flow) ++
    (Flow.stateSections flow).flatMap (stateReferences flow)

/-- An agent may say which flow it starts with. -/
def agentStart (doc : Document) : List Finding :=
  match doc.agents.head? with
  | none => []
  | some agent =>
    match agent.attribute? "start" with
    | none => []
    | some a =>
      let range := a.range.or agent.range
      match a.value.stateRef? with
      | none => [⟨.typeMismatch "flow identifier" a.value.core.kind "agent start", range⟩]
      | some flow =>
        if (doc.gather "flow").any fun f => f.name? == some flow then []
        else [⟨.undefinedFlow flow, range⟩]

def references (doc : Document) : List Finding :=
  (doc.gather "flow").flatMap flowReferences ++ agentStart doc

end Dialogue.Check
