import Dialogue.Document.Section

/-!
# Documents by hand

Constructors for whoever puts a document together without a parser. They only assemble: nothing is
checked, and nothing has a place unless it is given one.

These are `section` with the methods of its builder (`named`, `at`, `param`, `attr`, `child`,
`transition`) and the functions that make values (`atom`, `dict`, `with_context`, `located`).
-/
namespace Dialogue

namespace Value

/-- An atom, written with or without its colon. -/
def ofAtom (value : String) : Value := .atom (atomName value) none

/-- A dictionary. The last value of a key wins, at the first place. -/
def ofEntries (entries : List (String × Value)) : Value :=
  .dictionary (Table.ofLast entries).entries none

/-- A value together with named parameters. -/
def withContext (v : Value) (context : List (String × Value)) : Value :=
  .contextualized v (context.map fun (key, value) => ⟨some key, value, none⟩) none

/-- The same value at a place. -/
def withRange (v : Value) (range : Option Range) : Value :=
  match v with
  | .string value _ => .string value range
  | .number value _ => .number value range
  | .boolean value _ => .boolean value range
  | .null _ => .null range
  | .atom value _ => .atom value range
  | .identifier value _ => .identifier value range
  | .reference name _ => .reference name range
  | .list items _ => .list items range
  | .dictionary entries _ => .dictionary entries range
  | .contextualized value context _ => .contextualized value context range
  | .typeTag tag value qualifier _ => .typeTag tag value qualifier range

/-- The same value at one position. -/
def located (v : Value) (line column : Nat) : Value := v.withRange (some (.point line column))

end Value

namespace Section

/-- A section with nothing in it. -/
def ofKind (kind : String) : Section := ⟨kind, none, [], [], none⟩

def withName (s : Section) (name : String) : Section := { s with identifier := some ⟨name, none⟩ }

/-- Puts the section, and its name if it has one by now, at a position. -/
def located (s : Section) (line column : Nat) : Section :=
  { s with
    range := some (.point line column)
    identifier := s.identifier.map fun i => { i with range := some (.point line column) } }

def withParameter (s : Section) (key : Option String) (value : Value) : Section :=
  { s with parameters := s.parameters ++ [⟨key, value, none⟩] }

def withNode (s : Section) (node : Node) : Section := { s with body := s.body ++ [node] }

def withAttribute (s : Section) (key : String) (value : Value) : Section :=
  s.withNode (.attribute ⟨key, value, none⟩)

/-- The column at which attributes are taken to stand. -/
def attributeColumn : Nat := 3

def withAttributeAt (s : Section) (key : String) (value : Value) (line : Nat) : Section :=
  s.withNode (.attribute ⟨key, value, some (.point line attributeColumn)⟩)

def withTransition (s : Section) (operand : Option Value) (target : Value) : Section :=
  s.withNode (.transition ⟨operand, target, none⟩)

/-- A match block with cases of pattern and consequence. -/
def withMatch (s : Section) (discriminant : Value) (cases : List (Value × Value)) : Section :=
  s.withNode
    (.matchBlock ⟨discriminant, cases.map fun (pattern, target) => ⟨pattern, target, none⟩, none⟩)

end Section

end Dialogue
