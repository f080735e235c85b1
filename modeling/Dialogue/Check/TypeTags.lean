import Dialogue.Diagnostic.Problem
import Dialogue.Document.Section
import Dialogue.Text.Pattern

/-!
# Type-tagged literals

A literal such as `<email user@example.com>` may stand anywhere in a document. First all of them are
listed in the order in which they are written, then each is looked at by itself.

This is `check_type_tags`: the listing is what `visit_section` and `visit_value` come by, the look at each
is `check_tag`.
-/
namespace Dialogue.Check

open Text (Pattern)

/-- A type-tagged literal and where it stands. -/
structure TagUse where
  tag : String
  value : String
  range : Option Range
  deriving DecidableEq, Repr

mutual

/-- The type-tagged literals in a value. -/
def tagUses : Value → List TagUse
  | .typeTag tag value _ range => [⟨tag, value, range⟩]
  | .list items _ => itemsTagUses items
  | .dictionary entries _ => entriesTagUses entries
  | .contextualized value context _ => tagUses value ++ contextTagUses context
  | _ => []

def itemsTagUses : List Value → List TagUse
  | [] => []
  | item :: rest => tagUses item ++ itemsTagUses rest

def entriesTagUses : List (String × Value) → List TagUse
  | [] => []
  | (_, value) :: rest => tagUses value ++ entriesTagUses rest

def contextTagUses : List (Labelled Value) → List TagUse
  | [] => []
  | ⟨_, value, _⟩ :: rest => tagUses value ++ contextTagUses rest

end

def caseTagUses (c : MatchCase) : List TagUse := tagUses c.pattern ++ tagUses c.consequence

def blockTagUses (block : MatchBlock) : List TagUse :=
  tagUses block.discriminant ++ block.cases.flatMap caseTagUses

def ruleTagUses (rule : DirectTransition) : List TagUse :=
  (match rule.operand with
  | some operand => tagUses operand
  | none => []) ++ tagUses rule.target

mutual

/-- The type-tagged literals in a section and everything below it. -/
def sectionTagUses : Section → List TagUse
  | ⟨_, _, parameters, body, _⟩ =>
    parameters.flatMap (fun p => tagUses p.value) ++ bodyTagUses body

def bodyTagUses : List Node → List TagUse
  | [] => []
  | node :: rest => nodeTagUses node ++ bodyTagUses rest

def nodeTagUses : Node → List TagUse
  | .child s => sectionTagUses s
  | .attribute a => tagUses a.value
  | .matchBlock block => blockTagUses block
  | .transition rule => ruleTagUses rule
  | .value v => tagUses v

end

/-- The tags that mean something to whoever runs the agent. -/
def knownTags : List String :=
  ["phone", "email", "url", "date", "time", "datetime", "duration", "zip", "zipcode", "currency",
    "money"]

/-- Neither an at sign nor white space. -/
def isAddressChar (c : Char) : Bool := !(c == '@' || Text.isBlank c)

/-- Someone at a domain with a dot inside. -/
def emailAddress : Pattern :=
  .seq (.plus (.one isAddressChar))
    (.seq (.char '@')
      (.seq (.plus (.one isAddressChar))
        (.seq (.char '.') (.plus (.one isAddressChar)))))

/-- Whether a value stands in quotes of one kind. -/
def isQuoted (value : String) : Bool :=
  2 ≤ value.utf8ByteSize &&
    ((Text.startsWith value "\"" && Text.endsWith value "\"") ||
      (Text.startsWith value "'" && Text.endsWith value "'"))

/-- Why the value of a known tag is refused. -/
def tagFault? (tag value : String) : Option TagFault :=
  if isQuoted value then some .quoted
  else if Text.allBlank value then some .empty
  else if tag = "email" then (if emailAddress.isMatch value then none else some .notAnEmail)
  else if tag = "url" then
    (if Text.startsWith value "https://" || Text.startsWith value "http://" then none
    else some .missingScheme)
  else none

/-- What is wrong with a type-tagged literal. -/
def tagProblem? (use : TagUse) : Option Problem :=
  if knownTags.contains use.tag then
    (tagFault? use.tag use.value).map (.invalidTagValue use.tag use.value)
  else some (.invalidTypeTag use.tag)

def tagFinding? (use : TagUse) : Option Finding :=
  (tagProblem? use).map fun problem => ⟨problem, use.range⟩

/-- Every type-tagged literal that is refused. -/
def typeTags (doc : Document) : List Finding :=
  (doc.sections.flatMap sectionTagUses).filterMap tagFinding?

end Dialogue.Check
