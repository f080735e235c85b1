import Dialogue.Document.Section

/-!
# The JSON form of documents

A value names its kind under `type` and a body node under `node`; a bare value in a body carries both
names in one object. Fields that hold nothing are left out, and so are empty parameter lists and
bodies. Decoding recurses at most as deep as the tree it is given.

These are the derived encoders and decoders of `Document`, `Section`, `AstNode` and `Value`.
-/
namespace Dialogue

open Json (Decoder Fields)

namespace Ident

def toJson (i : Ident) : Json := .obj (("value", .str i.value) :: Range.entry i.range)

def decoder : Decoder Ident :=
  .record "struct Ident" (Ident.mk <$> .required "value" .text <*> Range.field)

end Ident

namespace Value

/-- The entries of a value that names its kind. -/
def entriesOf (kind : String) (fields : List (String × Json)) (range : Option Range) :
    List (String × Json) :=
  ("type", .str kind) :: fields ++ Range.entry range

mutual

def toEntries : Value → List (String × Json)
  | .string value range => entriesOf "String" [("value", .str value)] range
  | .number x range => entriesOf "Number" [("value", Json.number x)] range
  | .boolean b range => entriesOf "Boolean" [("value", .bool b)] range
  | .null range => entriesOf "Null" [] range
  | .atom value range => entriesOf "Atom" [("value", .str value)] range
  | .identifier value range => entriesOf "Identifier" [("value", .str value)] range
  | .reference name range => entriesOf "Variable" [("name", .str name)] range
  | .list items range => entriesOf "List" [("items", .arr (itemsToJson items))] range
  | .dictionary entries range =>
    entriesOf "Dictionary" [("entries", .obj (entriesToJson entries))] range
  | .contextualized value context range =>
    entriesOf "ContextualizedValue"
      [("value", .obj value.toEntries), ("context", .arr (contextToJson context))] range
  | .typeTag tag value qualifier range =>
    entriesOf "TypeTag"
      ([("tag", .str tag), ("value", .str value)] ++
        Json.entry? "qualifier" (qualifier.map .str)) range

def itemsToJson : List Value → List Json
  | [] => []
  | item :: rest => .obj item.toEntries :: itemsToJson rest

def entriesToJson : List (String × Value) → List (String × Json)
  | [] => []
  | (key, value) :: rest => (key, .obj value.toEntries) :: entriesToJson rest

def contextToJson : List (Labelled Value) → List Json
  | [] => []
  | ⟨key, value, range⟩ :: rest =>
    .obj (Json.entry? "key" (key.map .str) ++ ("value", .obj value.toEntries) :: Range.entry range) ::
      contextToJson rest

end

def toJson (v : Value) : Json := .obj v.toEntries

end Value

namespace Labelled

def toJson (p : Parameter) : Json :=
  .obj (Json.entry? "key" (p.key.map .str) ++ ("value", p.value.toJson) :: Range.entry p.range)

def decoderOf (value : Decoder Value) : Decoder Parameter :=
  .record "struct Parameter"
    (Labelled.mk <$> .maybe "key" .text <*> .required "value" value <*> Range.field)

end Labelled

namespace Value

/-- The kinds of values, given how the values inside them are decoded. -/
def variants (value : Decoder Value) : List (String × Decoder Value) :=
  [("String", .record "struct variant Value::String"
      (Value.string <$> .required "value" .text <*> Range.field)),
   ("Number", .record "struct variant Value::Number"
      (Value.number <$> .required "value" .double <*> Range.field)),
   ("Boolean", .record "struct variant Value::Boolean"
      (Value.boolean <$> .required "value" .flag <*> Range.field)),
   ("Null", .record "struct variant Value::Null" (Value.null <$> Range.field)),
   ("Atom", .record "struct variant Value::Atom"
      (Value.atom <$> .required "value" .text <*> Range.field)),
   ("Identifier", .record "struct variant Value::Identifier"
      (Value.identifier <$> .required "value" .text <*> Range.field)),
   ("Variable", .record "struct variant Value::Variable"
      (Value.reference <$> .required "name" .text <*> Range.field)),
   ("List", .record "struct variant Value::List"
      (Value.list <$> .withDefault "items" (.list value) [] <*> Range.field)),
   ("Dictionary", .record "struct variant Value::Dictionary"
      (Value.dictionary <$> .withDefault "entries" (.map Table.entries (.table value)) [] <*>
        Range.field)),
   ("ContextualizedValue", .record "struct variant Value::ContextualizedValue"
      (Value.contextualized <$> .required "value" value <*>
        .withDefault "context" (.list (Labelled.decoderOf value)) [] <*> Range.field)),
   ("TypeTag", .record "struct variant Value::TypeTag"
      (Value.typeTag <$> .required "tag" .text <*> .required "value" .text <*>
        .maybe "qualifier" .text <*> Range.field))]

/-- Decodes values that nest at most `depth` deep. -/
def decoderWithin : Nat → Decoder Value
  | 0 => fun _ _ => .error (.malformed .tooDeep)
  | depth + 1 => .tagged "type" "Value" (variants (decoderWithin depth))

def decoder : Decoder Value := fun origin tree => decoderWithin tree.depth origin tree

end Value

namespace Labelled

def decoder : Decoder Parameter := decoderOf Value.decoder

end Labelled

namespace Attribute

def toEntries (a : Attribute) : List (String × Json) :=
  [("key", .str a.key), ("value", a.value.toJson)] ++ Range.entry a.range

def decoder : Decoder Attribute :=
  .record "struct Attribute"
    (Attribute.mk <$> .required "key" .text <*> .required "value" Value.decoder <*> Range.field)

end Attribute

namespace MatchCase

def toJson (c : MatchCase) : Json :=
  .obj ([("pattern", c.pattern.toJson), ("consequence", c.consequence.toJson)] ++ Range.entry c.range)

def decoder : Decoder MatchCase :=
  .record "struct MatchCase"
    (MatchCase.mk <$> .required "pattern" Value.decoder <*> .required "consequence" Value.decoder <*>
      Range.field)

end MatchCase

namespace MatchBlock

def toEntries (m : MatchBlock) : List (String × Json) :=
  [("discriminant", m.discriminant.toJson), ("cases", .arr (m.cases.map MatchCase.toJson))] ++
    Range.entry m.range

def decoder : Decoder MatchBlock :=
  .record "struct MatchBlock"
    (MatchBlock.mk <$> .required "discriminant" Value.decoder <*>
      .withDefault "cases" (.list MatchCase.decoder) [] <*> Range.field)

end MatchBlock

namespace DirectTransition

def toEntries (t : DirectTransition) : List (String × Json) :=
  Json.entry? "operand" (t.operand.map Value.toJson) ++ ("target", t.target.toJson) ::
    Range.entry t.range

def decoder : Decoder DirectTransition :=
  .record "struct DirectTransition"
    (DirectTransition.mk <$> .maybe "operand" Value.decoder <*> .required "target" Value.decoder <*>
      Range.field)

end DirectTransition

mutual

def Section.toEntries : Section → List (String × Json)
  | ⟨kind, identifier, parameters, body, range⟩ =>
    [("sectionType", .str kind)] ++ Json.entry? "identifier" (identifier.map Ident.toJson) ++
      Json.entryList "parameters" (parameters.map Labelled.toJson) ++
      Json.entryList "body" (Node.listToJson body) ++ Range.entry range

def Node.toEntries : Node → List (String × Json)
  | .child s => ("node", .str "Section") :: s.toEntries
  | .attribute a => ("node", .str "Attribute") :: a.toEntries
  | .matchBlock m => ("node", .str "MatchBlock") :: m.toEntries
  | .transition t => ("node", .str "Transition") :: t.toEntries
  | .value v => ("node", .str "Value") :: v.toEntries

def Node.listToJson : List Node → List Json
  | [] => []
  | node :: rest => .obj node.toEntries :: Node.listToJson rest

end

namespace Node

def toJson (n : Node) : Json := .obj n.toEntries

end Node

namespace Section

def toJson (s : Section) : Json := .obj s.toEntries

/-- A section, given how the nodes of its body are decoded. -/
def decoderOf (node : Decoder Node) : Decoder Section :=
  .record "struct Section"
    (Section.mk <$> .required "sectionType" .text <*> .maybe "identifier" Ident.decoder <*>
      .withDefault "parameters" (.list Labelled.decoder) [] <*>
      .withDefault "body" (.list node) [] <*> Range.field)

end Section

namespace Node

/-- The kinds of body nodes, given how the nodes of a nested body are decoded. -/
def variants (node : Decoder Node) : List (String × Decoder Node) :=
  [("Section", .map Node.child (Section.decoderOf node)),
   ("Attribute", .map Node.attribute Attribute.decoder),
   ("MatchBlock", .map Node.matchBlock MatchBlock.decoder),
   ("Transition", .map Node.transition DirectTransition.decoder),
   ("Value", .map Node.value Value.decoder)]

/-- Decodes nodes that nest at most `depth` deep. -/
def decoderWithin : Nat → Decoder Node
  | 0 => fun _ _ => .error (.malformed .tooDeep)
  | depth + 1 => .tagged "node" "AstNode" (variants (decoderWithin depth))

def decoder : Decoder Node := fun origin tree => decoderWithin tree.depth origin tree

end Node

namespace Section

def decoder : Decoder Section := decoderOf Node.decoder

end Section

namespace Document

def toJson (doc : Document) : Json :=
  .obj (("sections", .arr (doc.sections.map Section.toJson)) :: Range.entry doc.range)

def decoder : Decoder Document :=
  .record "struct Document"
    (Document.mk <$> .withDefault "sections" (.list Section.decoder) [] <*> Range.field)

end Document

end Dialogue
