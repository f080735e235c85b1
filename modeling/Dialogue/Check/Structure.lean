import Dialogue.Check.References
import Dialogue.Check.TypeTags
import Dialogue.Message.Build

/-!
# Structure

A document has one agent, at least one flow and one section of messages; flows, states and messages have
names of their own. The checks run one after the other, whatever the earlier ones found. Still one finding can
hide another: where a section is missing, nothing is said about what should stand in it or belong to it.

This is `validate_document` with `validate_agent`, `validate_flows`, `validate_flow`, `validate_messages` and
`validate_message`. The reporter that findings are handed to is a list here.
-/
namespace Dialogue.Check

/-- The property that the name of an agent takes. -/
def reservedProperty : String := "name"

/-! ## The agent -/

/-- The name to call an agent by. A blank name is as good as none. -/
def agentName? (agent : Section) : Option String :=
  match agent.name? with
  | some name => if Text.allBlank name then none else some name
  | none => none

def agentIdentifier (agent : Section) : List Finding :=
  match agentName? agent with
  | some _ => []
  | none => [⟨.missingIdentifier "agent", agent.range⟩]

def displayName (agent : Section) : List Finding :=
  match agent.attribute? "displayName" with
  | none => [⟨.missingDisplayName ((agentName? agent).getD unnamed), agent.range⟩]
  | some a =>
    match a.value.core.text? with
    | some _ => []
    | none => [⟨.typeMismatch "string" a.value.core.kind "displayName", a.range.or agent.range⟩]

/-- The sections that give the agent its properties. -/
def propertySections (doc : Document) (agent : Section) : List Section :=
  agent :: doc.gather "config" ++ doc.gather "configuration" ++ doc.gather "defaults"

def reservedName (s : Section) : List Finding :=
  match s.attribute? reservedProperty with
  | some a => [⟨.invalidPropertyName reservedProperty s.kind, a.range.or s.range⟩]
  | none => []

def agent (doc : Document) : List Finding :=
  match doc.agents with
  | [] => [⟨.missingRequiredField "agent section", doc.range⟩]
  | agent :: others =>
    others.map (fun other => ⟨.duplicateDefinition "agent" none, other.range⟩) ++
      agentIdentifier agent ++ displayName agent ++
      (propertySections doc agent).flatMap reservedName

/-! ## Flows -/

def flowStart (name : String) (flow : Section) : List Finding :=
  match flow.attribute? "start" with
  | none => [⟨.missingFlowStart name, flow.range⟩]
  | some a =>
    match a.value.stateRef? with
    | some _ => []
    | none =>
      [⟨.typeMismatch "state identifier" a.value.core.kind ("start of flow '" ++ name ++ "'"),
        a.range.or flow.range⟩]

/-- The finding on a name that others of its kind may have. -/
def repeatedName (kind : String) (seen : List String) (name : String) (s : Section) :
    List Finding :=
  if seen.contains name then [⟨.duplicateDefinition kind (some name), s.range⟩] else []

/-- The findings on the names of states, when the names in `seen` are taken. -/
def stateNames (seen : List String) : List Section → List Finding
  | [] => []
  | state :: rest =>
    match state.name? with
    | none => ⟨.missingIdentifier "on", state.range⟩ :: stateNames seen rest
    | some name => repeatedName "state" seen name state ++ stateNames (name :: seen) rest

/-- The findings on one flow, called `name`. -/
def flow (name : String) (flow : Section) : List Finding :=
  let states := Flow.stateSections flow
  flowStart name flow ++ (if states.isEmpty then [⟨.emptyFlow name, flow.range⟩] else []) ++
    stateNames [] states

/-- The findings on flows, when the names in `seen` are taken. -/
def flowList (seen : List String) : List Section → List Finding
  | [] => []
  | f :: rest =>
    match f.name? with
    | none => ⟨.missingIdentifier "flow", f.range⟩ :: flow unnamed f ++ flowList seen rest
    | some name => repeatedName "flow" seen name f ++ flow name f ++ flowList (name :: seen) rest

def flows (doc : Document) : List Finding :=
  let flows := doc.gather "flow"
  (if flows.isEmpty then [⟨.missingRequiredField "flow section", doc.range⟩] else []) ++
    flowList [] flows

/-! ## Messages -/

def messageContent (label : String) (message : Section) : List Finding :=
  match Message.content message with
  | .ok _ => []
  | .error e => [⟨.malformedMessage label e.message, message.range⟩]

/-- The findings on messages, when the names in `seen` are taken. A message needs no name. -/
def messageList (seen : List String) : List Section → List Finding
  | [] => []
  | message :: rest =>
    if message.isMessage then
      match message.name? with
      | none =>
        messageContent (unnamed ++ " " ++ message.kind) message ++ messageList seen rest
      | some name =>
        repeatedName "message" seen name message ++ messageContent name message ++
          messageList (name :: seen) rest
    else ⟨.invalidMessageType message.kind, message.range⟩ :: messageList seen rest

def messages (doc : Document) : List Finding :=
  match doc.gather "messages" with
  | [] => [⟨.missingRequiredField "messages section", doc.range⟩]
  | first :: others =>
    others.map (fun other => ⟨.duplicateDefinition "messages" none, other.range⟩) ++
      messageList [] ((first :: others).flatMap Section.children)

/-! ## All checks -/

/-- Everything that is wrong with a document. -/
def document (doc : Document) : List Finding :=
  agent doc ++ flows doc ++ messages doc ++ references doc ++ typeTags doc

end Dialogue.Check
