import Dialogue.Document.Wire

/-!
# Transition tables

A flow has an initial state and a table of states. A state maps event names to transitions, may have a
transition for all other events, and lists the actions of entering and leaving it. Both writing
operations keep what is there: the first writer wins.

These are `FlowDefinition` with `has_valid_initial` and `StateNode` with `add_event` and `set_always`.
-/
namespace Dialogue

open Json (Decoder)

/-- A move to another state; the context is merged into the session when it fires. -/
structure Transition where
  target : String
  context : Table Json

structure StateNode where
  on : Table Transition
  always : Option Transition
  entry : List String
  exit : List String

structure Flow where
  initial : String
  states : Table StateNode

namespace Transition

def toJson (t : Transition) : Json :=
  .obj (("target", .str t.target) ::
    (if t.context.isEmpty then [] else [("context", .obj t.context.entries)]))

def decoder : Decoder Transition :=
  .record "struct Transition"
    (Transition.mk <$> .required "target" .text <*>
      .withDefault "context" (.table .any) Table.empty)

end Transition

namespace StateNode

def empty : StateNode := ⟨Table.empty, none, [], []⟩

/-- Adds a transition for an event unless the event has one. -/
def addEvent (s : StateNode) (event : String) (t : Transition) : StateNode :=
  ⟨s.on.add event t, s.always, s.entry, s.exit⟩

/-- Sets the fallback unless there is one. -/
def setAlways (s : StateNode) (t : Transition) : StateNode :=
  ⟨s.on, s.always.or (some t), s.entry, s.exit⟩

def addEntry (s : StateNode) (actions : List String) : StateNode :=
  ⟨s.on, s.always, s.entry ++ actions, s.exit⟩

def addExit (s : StateNode) (actions : List String) : StateNode :=
  ⟨s.on, s.always, s.entry, s.exit ++ actions⟩

def toJson (s : StateNode) : Json :=
  .obj (("on", .obj (s.on.entries.map fun e => (e.1, e.2.toJson))) ::
    Json.entry? "always" (s.always.map Transition.toJson) ++
    Json.entryList "entry" (s.entry.map .str) ++ Json.entryList "exit" (s.exit.map .str))

def decoder : Decoder StateNode :=
  .record "struct StateNode"
    (StateNode.mk <$> .withDefault "on" (.table Transition.decoder) Table.empty <*>
      .maybe "always" Transition.decoder <*> .withDefault "entry" (.list .text) [] <*>
      .withDefault "exit" (.list .text) [])

end StateNode

namespace Flow

/-- Whether the initial state is one of the states. -/
def hasInitial (f : Flow) : Bool := f.states.contains f.initial

def toJson (f : Flow) : Json :=
  .obj [("initial", .str f.initial),
    ("states", .obj (f.states.entries.map fun e => (e.1, e.2.toJson)))]

def decoder : Decoder Flow :=
  .record "struct FlowDefinition"
    (Flow.mk <$> .required "initial" .text <*> .required "states" (.table StateNode.decoder))

/-- Flows by name, as one object. -/
def tableToJson (flows : Table Flow) : Json :=
  .obj (flows.entries.map fun e => (e.1, e.2.toJson))

end Flow

end Dialogue
