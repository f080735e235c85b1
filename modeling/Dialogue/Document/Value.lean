import Dialogue.Document.Range

/-!
# Values

A value is a literal, a name, a collection, a type-tagged literal such as `<email a@b.c>`, or another
value together with a context (`Next with size: 3`). Contexts may be stacked; what a value means is
decided by its core, the value under all of them.

These are `Value` and its `unwrap_context`, `kind_name`, `as_str`, `as_state_ref`, `canonical_text` and
`to_literal`.
-/
namespace Dialogue

/-- A parameter of a section or a context. A positional parameter has no key. -/
structure Labelled (α : Type) where
  key : Option String
  value : α
  range : Option Range

inductive Value where
  | string (value : String) (range : Option Range)
  | number (value : Float) (range : Option Range)
  | boolean (value : Bool) (range : Option Range)
  | null (range : Option Range)
  | atom (value : String) (range : Option Range)
  | identifier (value : String) (range : Option Range)
  | reference (name : String) (range : Option Range)
  | list (items : List Value) (range : Option Range)
  | dictionary (entries : List (String × Value)) (range : Option Range)
  | contextualized (value : Value) (context : List (Labelled Value)) (range : Option Range)
  | typeTag (tag value : String) (qualifier : Option String) (range : Option Range)
  deriving Inhabited

abbrev Parameter := Labelled Value

namespace Value

def range : Value → Option Range
  | .string _ range | .number _ range | .boolean _ range | .null range | .atom _ range
  | .identifier _ range | .reference _ range | .list _ range | .dictionary _ range
  | .contextualized _ _ range | .typeTag _ _ _ range => range

/-- The kind of a value, as messages name it. -/
def kind : Value → String
  | .string .. => "string"
  | .number .. => "number"
  | .boolean .. => "boolean"
  | .null .. => "null"
  | .atom .. => "atom"
  | .identifier .. => "identifier"
  | .reference .. => "variable"
  | .list .. => "list"
  | .dictionary .. => "dictionary"
  | .contextualized .. => "contextualized value"
  | .typeTag .. => "type tag"

/-- The value under all contexts. -/
def core : Value → Value
  | .contextualized value _ _ => value.core
  | value => value

/-- The parameters of all contexts, from the outermost inward. -/
def context : Value → List Parameter
  | .contextualized value parameters _ => parameters ++ value.context
  | _ => []

/-- The text of a string literal that stands without a context. -/
def text? : Value → Option String
  | .string value _ => some value
  | _ => none

/-- The state or flow that a value names. Only identifiers do. -/
def stateRef? (v : Value) : Option String :=
  match v.core with
  | .identifier name _ => some name
  | _ => none

/-- An atom's name; a leading colon is tolerated. -/
def atomName (value : String) : String := Text.dropLeading ':' value

/-- A number as part of an event's name. -/
def numberText (x : Float) : String :=
  match Decimal.wholeNumber? x with
  | some n => String.ofList (Decimal.intText n)
  | none => String.ofList (Decimal.plainText x)

/-- The text that a value contributes to the name of an event. Collections and type tags have none. -/
def canonicalText? (v : Value) : Option String :=
  match v.core with
  | .string value _ | .identifier value _ => some value
  | .atom value _ => some (atomName value)
  | .number x _ => some (numberText x)
  | .boolean b _ => some (if b then "true" else "false")
  | .null _ => some "null"
  | .reference name _ => some ("@" ++ name)
  | _ => none

/-- A number as a literal; whole numbers become integers. -/
def numberLiteral (x : Float) : Json :=
  match Decimal.wholeNumber? x with
  | some n => .int n
  | none => Json.number x

mutual

/-- The literal that is handed to whoever runs the agent. Contexts are dropped. -/
def literal : Value → Json
  | .string value _ => .str value
  | .number x _ => numberLiteral x
  | .boolean b _ => .bool b
  | .null _ => .null
  | .atom value _ => .str (":" ++ atomName value)
  | .identifier value _ => .str value
  | .reference name _ => .obj [("var", .str name)]
  | .list items _ => .arr (literalItems items)
  | .dictionary entries _ => .obj (literalEntries entries)
  | .contextualized value _ _ => value.literal
  | .typeTag tag value qualifier _ =>
    .obj ([("type", .str tag), ("value", .str value)] ++
      Json.entry? "qualifier" (qualifier.map .str))

def literalItems : List Value → List Json
  | [] => []
  | item :: rest => item.literal :: literalItems rest

def literalEntries : List (String × Value) → List (String × Json)
  | [] => []
  | (key, value) :: rest => (key, value.literal) :: literalEntries rest

end

end Value

end Dialogue
