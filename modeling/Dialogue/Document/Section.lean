import Dialogue.Document.Value

/-!
# Documents, sections and their bodies

A document is a list of sections. A section such as `flow Order` or `on Welcome` has a kind, perhaps a
name, parameters, and a body of attributes, transitions, match blocks, bare values and further sections.

These are `Document`, `Section` and `AstNode` with `gather`, `attribute`, `child_sections`,
`first_positional`, `named_parameters` and `is_default`. The parser that makes documents of a source text
is not part of the program.
-/
namespace Dialogue

structure Ident where
  value : String
  range : Option Range

/-- `key: value`. -/
structure Attribute where
  key : String
  value : Value
  range : Option Range

/-- One `pattern -> consequence` line of a match block. -/
structure MatchCase where
  pattern : Value
  consequence : Value
  range : Option Range

structure MatchBlock where
  discriminant : Value
  cases : List MatchCase
  range : Option Range

/-- `operand -> target`, or `-> target` when there is no operand. -/
structure DirectTransition where
  operand : Option Value
  target : Value
  range : Option Range

mutual

structure Section where
  kind : String
  identifier : Option Ident
  parameters : List Parameter
  body : List Node
  range : Option Range

/-- A node of a section's body. -/
inductive Node where
  | child (s : Section)
  | attribute (a : Attribute)
  | matchBlock (m : MatchBlock)
  | transition (t : DirectTransition)
  | value (v : Value)

end

structure Document where
  sections : List Section
  range : Option Range

namespace Section

/-- The kinds that declare a message. -/
def messageKinds : List String := ["text", "richCard", "carousel", "message"]

def is (s : Section) (kind : String) : Bool := s.kind == kind

def isMessage (s : Section) : Bool := messageKinds.contains s.kind

def name? (s : Section) : Option String := s.identifier.map Ident.value

/-- The line on which the section starts. -/
def line? (s : Section) : Option Nat := s.range.map fun r => r.start.line.toNat

end Section

namespace Node

def range : Node → Option Range
  | .child s => s.range
  | .attribute a => a.range
  | .matchBlock m => m.range
  | .transition t => t.range
  | .value v => v.range

def attribute? : Node → Option Attribute
  | .attribute a => some a
  | _ => none

def child? : Node → Option Section
  | .child s => some s
  | _ => none

end Node

namespace Section

def attributes (s : Section) : List Attribute := s.body.filterMap Node.attribute?

/-- The first attribute with a given key. -/
def attribute? (s : Section) (key : String) : Option Attribute :=
  s.attributes.find? (fun a => a.key == key)

def children (s : Section) : List Section := s.body.filterMap Node.child?

/-- The children of one kind. -/
def childrenOf (s : Section) (kind : String) : List Section := s.children.filter (·.is kind)

/-- The first parameter without a key. -/
def positional? (s : Section) : Option Value :=
  (s.parameters.find? (fun p => p.key.isNone)).map Labelled.value

/-- The parameters that have a key. -/
def named (s : Section) : List (String × Value) :=
  s.parameters.filterMap fun p => p.key.map fun key => (key, p.value)

end Section

namespace MatchCase

/-- The fallback case is written with the atom `default`. -/
def isDefault (c : MatchCase) : Bool :=
  match c.pattern with
  | .atom value _ => value == "default" || value == ":default"
  | _ => false

end MatchCase

namespace Document

/-- What a top-level section contributes to a kind: itself, and its children if it is an agent. -/
def gatherFrom (kind : String) (s : Section) : List Section :=
  (if s.is kind then [s] else []) ++ (if s.is "agent" then s.childrenOf kind else [])

/-- The sections of a kind in source order, at the top level or directly inside an agent. -/
def gather (doc : Document) (kind : String) : List Section :=
  doc.sections.flatMap (gatherFrom kind)

/-- The top-level agent sections. -/
def agents (doc : Document) : List Section := doc.sections.filter (·.is "agent")

end Document

end Dialogue
