import Dialogue.Document.Section
import Dialogue.Json.Printer

/-!
# The agent's configuration

The properties of an agent come from the first agent section and from the configuration sections, where a
later value replaces an earlier one, and then from the sections of defaults, which only add what is
missing.

This is `extract_agent` with `collect_attributes`, and the flat JSON form of `AgentConfig`.
-/
namespace Dialogue

open Json (Decoder)

structure Agent where
  name : String
  displayName : String
  description : Option String
  properties : Table Json

namespace Agent

/-- The attributes of sections as literals, in source order. -/
def attributeLiterals (sections : List Section) : List (String × Json) :=
  sections.flatMap fun s => s.attributes.map fun a => (a.key, a.value.literal)

/-- The sections whose attributes replace what stands before them. -/
def settingSections (doc : Document) (agent : Section) : List Section :=
  agent :: doc.gather "config" ++ doc.gather "configuration"

/-- All that is said about the agent. -/
def collect (doc : Document) (agent : Section) : Table Json :=
  (attributeLiterals (doc.gather "defaults")).foldl (fun t entry => t.add entry.1 entry.2)
    (Table.ofLast (attributeLiterals (settingSections doc agent)))

/-- A text as it is, any other literal as it is written. -/
def plainText : Json → String
  | .str s => s
  | other => other.compact

/-- The configuration of the first agent of a document. Its name is what the section is called. -/
def ofDocument? (doc : Document) : Option Agent :=
  doc.agents.head?.map fun agent =>
    let all := collect doc agent
    { name := agent.name?.getD ""
      displayName := ((all.get? "displayName").map plainText).getD ""
      description := (all.get? "description").map plainText
      properties := ((all.erase "name").erase "displayName").erase "description" }

/-! ## JSON form -/

/-- The keys that are not properties. -/
def fixedKeys : List String := ["name", "displayName", "description"]

/-- The properties stand beside the fixed keys. -/
def toJson (a : Agent) : Json :=
  .obj ([("name", .str a.name), ("displayName", .str a.displayName)] ++
    Json.entry? "description" (a.description.map .str) ++ a.properties.entries)

/-- The entries that are not fixed keys. -/
def propertiesOf (entries : List (String × Json)) : Table Json :=
  Table.ofLast (entries.filter fun entry => !fixedKeys.contains entry.1)

def decoder : Decoder Agent
  | origin, .obj entries =>
    Decoder.record "struct AgentConfig"
      ((fun name displayName description =>
          Agent.mk name displayName description (propertiesOf entries)) <$>
        Json.Fields.required "name" .text <*> Json.Fields.required "displayName" .text <*>
        Json.Fields.maybe "description" .text)
      origin (.obj entries)
  | _, tree => .error (Json.mismatch "struct AgentConfig" tree)

end Agent

end Dialogue
