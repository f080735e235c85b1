import Dialogue.Diagnostic.Basic

/-!
# What can be found

Every finding of the checks is one of these problems. The problem fixes the code, the severity and all
wording; only the place is added where it is reported.

Each problem stands for one function that makes a diagnostic, such as `missing_identifier` or
`duplicate_event`.
-/
namespace Dialogue

/-- Why the value of a type tag is refused. -/
inductive TagFault where
  | quoted | empty | notAnEmail | missingScheme
  deriving DecidableEq, Repr

inductive Problem where
  | missingIdentifier (context : String)
  | invalidIndentation (expected found : Nat)
  | unexpectedToken (found : String) (expected : Option String)
  | missingColon (after : String)
  | invalidSectionType (found : String)
  | malformedMatch (detail : String)
  | missingRequiredField (field : String)
  | duplicateDefinition (kind : String) (name : Option String)
  | invalidAgentName (name reason : String)
  | reservedAgentName (name : String)
  | missingDisplayName (agent : String)
  | emptyFlow (flow : String)
  | missingFlowStart (flow : String)
  | emptyMessages
  | undefinedState (state flow : String)
  | undefinedFlow (flow : String)
  | invalidTypeTag (tag : String)
  | typeMismatch (expected found context : String)
  | invalidTagValue (tag value : String) (fault : TagFault)
  | invalidPropertyName (property kind : String)
  | invalidMessageType (tag : String)
  | malformedMessage (message detail : String)
  | namingConvention (kind name convention : String) (severity : Severity)
  | duplicateMatchCase (pattern : String)
  | duplicateEvent (event state : String)
  | fileNotFound (path : String)
  | fileReadError (path reason : String)
  | internalError (detail : String)
  deriving DecidableEq, Repr

namespace Problem

def code : Problem → Code
  | .missingIdentifier _ => .missingIdentifier
  | .invalidIndentation _ _ => .invalidIndentation
  | .unexpectedToken _ _ => .unexpectedToken
  | .missingColon _ => .missingColon
  | .invalidSectionType _ => .invalidSectionType
  | .malformedMatch _ => .malformedMatchStatement
  | .missingRequiredField _ => .missingRequiredField
  | .duplicateDefinition _ _ => .duplicateDefinition
  | .invalidAgentName _ _ => .invalidAgentName
  | .reservedAgentName _ => .invalidAgentName
  | .missingDisplayName _ => .missingDisplayName
  | .emptyFlow _ => .emptyFlowSection
  | .missingFlowStart _ => .missingFlowStart
  | .emptyMessages => .emptyMessagesSection
  | .undefinedState _ _ => .undefinedStateReference
  | .undefinedFlow _ => .undefinedFlowReference
  | .invalidTypeTag _ => .invalidTypeTag
  | .typeMismatch _ _ _ => .typeMismatch
  | .invalidTagValue _ _ _ => .invalidTypeTagValue
  | .invalidPropertyName _ _ => .invalidPropertyName
  | .invalidMessageType _ => .invalidMessageType
  | .malformedMessage _ _ => .malformedMessageContent
  | .namingConvention _ _ _ _ => .namingConvention
  | .duplicateMatchCase _ => .duplicateMatchCase
  | .duplicateEvent _ _ => .duplicateMatchCase
  | .fileNotFound _ => .fileNotFound
  | .fileReadError _ _ => .fileReadError
  | .internalError _ => .internalError

/-- Repeated rules and reserved names are warnings, naming findings say themselves, all else is an
error. -/
def severity : Problem → Severity
  | .duplicateMatchCase _ | .duplicateEvent _ _ | .reservedAgentName _ => .warning
  | .namingConvention _ _ _ severity => severity
  | _ => .error

def message : Problem → String
  | .missingIdentifier context => "Missing identifier after '" ++ context ++ "'"
  | .invalidIndentation expected found =>
    "Invalid indentation: expected " ++ toString expected ++ " spaces, found " ++ toString found
  | .unexpectedToken found (some expected) =>
    "Unexpected '" ++ found ++ "', expected " ++ expected
  | .unexpectedToken found none => "Unexpected '" ++ found ++ "'"
  | .missingColon after => "Missing ':' after property '" ++ after ++ "'"
  | .invalidSectionType found => "Unknown section type '" ++ found ++ "'"
  | .malformedMatch detail => "Malformed match statement: " ++ detail
  | .missingRequiredField field => "Missing required field: " ++ field
  | .duplicateDefinition kind (some name) =>
    "Duplicate " ++ kind ++ " definition '" ++ name ++ "'"
  | .duplicateDefinition kind none => "Duplicate " ++ kind ++ " definition"
  | .invalidAgentName name reason => "Invalid agent name '" ++ name ++ "': " ++ reason
  | .reservedAgentName name =>
    "Invalid agent name '" ++ name ++ "': it is a reserved section name"
  | .missingDisplayName agent => "Agent '" ++ agent ++ "' must have a displayName property"
  | .emptyFlow flow => "Flow '" ++ flow ++ "' has no states defined"
  | .missingFlowStart flow => "Flow '" ++ flow ++ "' must have a 'start' property"
  | .emptyMessages => "Messages section contains no message definitions"
  | .undefinedState state flow =>
    "Reference to undefined state '" ++ state ++ "' in flow '" ++ flow ++ "'"
  | .undefinedFlow flow => "Reference to undefined flow '" ++ flow ++ "'"
  | .invalidTypeTag tag => "Invalid type tag '" ++ tag ++ "'"
  | .typeMismatch expected found context =>
    "Type mismatch in " ++ context ++ ": expected " ++ expected ++ ", found " ++ found
  | .invalidTagValue tag value _ =>
    "Invalid value '" ++ value ++ "' for type tag <" ++ tag ++ ">"
  | .invalidPropertyName property kind =>
    "Property '" ++ property ++ "' is not allowed in '" ++ kind ++ "' sections"
  | .invalidMessageType tag => "Unknown message type '" ++ tag ++ "'"
  | .malformedMessage message detail =>
    "Message '" ++ message ++ "' has malformed content: " ++ detail
  | .namingConvention kind name convention _ =>
    kind ++ " name '" ++ name ++ "' should be " ++ convention
  | .duplicateMatchCase pattern =>
    "Match case '" ++ pattern ++ "' appears more than once; only the first is used"
  | .duplicateEvent event state =>
    "Event '" ++ event ++ "' is handled more than once in state '" ++ state ++
      "'; only the first rule is used"
  | .fileNotFound path => "File not found: " ++ path
  | .fileReadError path reason => "Could not read " ++ path ++ ": " ++ reason
  | .internalError detail => "Internal error: " ++ detail

def hint : Problem → String
  | .missingIdentifier context =>
    "Add a name after '" ++ context ++ "', for example: " ++ context ++ " MyName"
  | .invalidIndentation _ _ => "Use consistent indentation (2 spaces per level)"
  | .unexpectedToken _ _ => "Check for typos or missing punctuation near this position"
  | .missingColon _ => "Properties are written as key: value"
  | .invalidSectionType _ =>
    "Valid sections include agent, flow, on, messages, config and defaults"
  | .malformedMatch _ => "Each case is written as: \"pattern\" -> TargetState"
  | .missingRequiredField field => "Add the " ++ field ++ " to your document"
  | .duplicateDefinition kind (some name) =>
    "Rename or remove the repeated " ++ kind ++ " '" ++ name ++ "'"
  | .duplicateDefinition kind none => "Only one " ++ kind ++ " section is allowed per file"
  | .invalidAgentName _ _ | .reservedAgentName _ => "Choose a different name for the agent"
  | .missingDisplayName _ => "Add a displayName property to your agent definition"
  | .emptyFlow _ => "Add at least one state to your flow using \"on StateName\" syntax"
  | .missingFlowStart _ => "Add a start property naming the first state of the flow"
  | .emptyMessages => "Define at least one message, for example: text Welcome \"Hello!\""
  | .undefinedState state _ =>
    "Make sure to define an 'on " ++ state ++ "' section in your flow"
  | .undefinedFlow flow => "Define a 'flow " ++ flow ++ "' section or fix the name"
  | .invalidTypeTag _ =>
    "Type tags are written as <type value>, for example <email user@example.com>"
  | .typeMismatch expected _ _ => "Use a value of type " ++ expected ++ " here"
  | .invalidTagValue _ _ .quoted => "Type tag values should not be quoted"
  | .invalidTagValue tag _ .empty =>
    "Write the value after the tag name: <" ++ tag ++ " value>"
  | .invalidTagValue _ _ .notAnEmail => "Email values look like user@example.com"
  | .invalidTagValue _ _ .missingScheme => "URLs must start with http:// or https://"
  | .invalidPropertyName _ _ =>
    "The agent name comes from its identifier, for example: agent CoffeeShop"
  | .invalidMessageType _ => "Messages are declared with text, richCard, carousel or message"
  | .malformedMessage _ _ => "Check the shape of the message attributes"
  | .namingConvention kind _ convention _ => "Rename the " ++ kind ++ " to follow " ++ convention
  | .duplicateMatchCase _ => "Remove the repeated case"
  | .duplicateEvent _ _ => "Remove the later rule or give it a different event"
  | .fileNotFound _ => "Check that the path exists and is spelled correctly"
  | .fileReadError _ _ => "Check file permissions and encoding"
  | .internalError _ => "This is likely a bug in the compiler. Please report it."

/-- The text between the first and the last character, when both take one byte. -/
def unquoted (value : String) : String :=
  match value.toList with
  | first :: second :: rest =>
    let body := second :: rest
    if first.utf8Size = 1 && (body.getLast?.map Char.utf8Size) == some 1 then
      String.ofList body.dropLast
    else value
  | _ => value

/-- The edit that resolves the problem, where there is one that needs no author. -/
def fix? : Problem → Option (String × String)
  | .missingColon after => some ("Insert colon", after ++ ":")
  | .missingDisplayName _ => some ("Add displayName", "  displayName: \"Your Agent Name\"")
  | .missingFlowStart _ => some ("Add start state", "    start: InitialState")
  | .invalidTagValue tag value .quoted =>
    some ("Remove quotes", "<" ++ tag ++ " " ++ unquoted value ++ ">")
  | _ => none

/-- The file that a problem is about. -/
def file? : Problem → Option String
  | .fileNotFound path | .fileReadError path _ => some path
  | _ => none

/-- A problem with a file as a whole has no place in it. -/
def place? (p : Problem) (range : Option Range) : Option Range :=
  match p.file? with
  | some _ => none
  | none => range

/-- The finding of a problem at a place. An edit belongs to that place as well. -/
def diagnostic (p : Problem) (range : Option Range) : Diagnostic :=
  let d := (Diagnostic.ofCode p.code p.message).withRange (p.place? range)
    |>.withSeverity p.severity |>.withHint p.hint
  let d :=
    match p.fix? with
    | some (label, replacement) => d.withFix label replacement
    | none => d
  match p.file? with
  | some path => d.inFile path
  | none => d

theorem diagnostic_eq (p : Problem) (range : Option Range) :
    p.diagnostic range =
      ⟨p.severity, p.code.category, p.code, p.message, p.place? range, p.file?, some p.hint,
        (p.fix?.map fun (label, replacement) => ⟨label, replacement, range⟩).toList⟩ := by
  cases p with
  | invalidTagValue tag value fault => cases fault <;> rfl
  | _ => rfl

end Problem

/-- A problem and the place where it was found. -/
structure Finding where
  problem : Problem
  range : Option Range
  deriving DecidableEq, Repr

namespace Finding

variable (f : Finding)

def diagnostic : Diagnostic := f.problem.diagnostic f.range

@[simp] theorem severity_diagnostic : f.diagnostic.severity = f.problem.severity := by
  rw [diagnostic, Problem.diagnostic_eq]

@[simp] theorem code_diagnostic : f.diagnostic.code = f.problem.code := by
  rw [diagnostic, Problem.diagnostic_eq]

@[simp] theorem category_diagnostic : f.diagnostic.category = f.problem.code.category := by
  rw [diagnostic, Problem.diagnostic_eq]

@[simp] theorem message_diagnostic : f.diagnostic.message = f.problem.message := by
  rw [diagnostic, Problem.diagnostic_eq]

end Finding

end Dialogue
