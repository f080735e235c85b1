import Dialogue.Text.Blank

/-!
# Diagnostic codes

Every code has a fixed number, and the band of hundreds that the number lies in is its category. So a
bare code is enough to tell the category.

These are `ErrorCode` and `Category` with `from_number` and `from_code`.
-/
namespace Dialogue

inductive Category where
  | grammar | semantic | reference | typing | validation | io | internal
  deriving DecidableEq, Repr

namespace Category

def name : Category → String
  | .grammar => "Syntax"
  | .semantic => "Semantic"
  | .reference => "Reference"
  | .typing => "Type"
  | .validation => "Validation"
  | .io => "IO"
  | .internal => "Internal"

def all : List Category :=
  [.grammar, .semantic, .reference, .typing, .validation, .io, .internal]

/-- The category of a number. The round hundreds and the bands without a category have none. -/
def ofNumber? (n : Nat) : Option Category :=
  if 1 ≤ n && n ≤ 99 then some .grammar
  else if 101 ≤ n && n ≤ 199 then some .semantic
  else if 201 ≤ n && n ≤ 299 then some .reference
  else if 301 ≤ n && n ≤ 399 then some .typing
  else if 401 ≤ n && n ≤ 499 then some .validation
  else if 501 ≤ n && n ≤ 599 then some .io
  else if 901 ≤ n && n ≤ 999 then some .internal
  else none

/-- A number of at most 16 bits in decimal digits, with at most one plus sign before it. -/
def parseNumber? (cs : List Char) : Option Nat :=
  let digits :=
    match cs with
    | '+' :: rest => rest
    | _ => cs
  if digits.isEmpty || !digits.all (fun c => '0' ≤ c && c ≤ '9') then none
  else
    let n := digits.foldl (fun n c => n * 10 + (c.toNat - 48)) 0
    if n < Nat.pow 2 16 then some n else none

/-- The category of a code such as `RCL201`, whether or not the code is in use. -/
def ofCode? (code : String) : Option Category := do
  let digits ← Text.withoutStart? code "RCL"
  let number ← parseNumber? digits.toList
  ofNumber? number

end Category

/-- The codes in use. -/
inductive Code where
  | missingIdentifier | invalidIndentation | unexpectedToken | missingColon | invalidSectionType
  | malformedMatchStatement | missingRequiredField | duplicateDefinition | invalidAgentName
  | missingDisplayName | emptyFlowSection | missingFlowStart | emptyMessagesSection
  | undefinedStateReference | undefinedMessageReference | undefinedFlowReference
  | circularReference | invalidTypeTag | typeMismatch | invalidTypeTagValue
  | invalidPropertyName | valueOutOfRange | invalidMessageType | malformedMessageContent
  | namingConvention | duplicateMatchCase | fileNotFound | fileReadError | internalError
  | parserInitializationError
  deriving DecidableEq, Repr

namespace Code

def all : List Code :=
  [.missingIdentifier, .invalidIndentation, .unexpectedToken, .missingColon, .invalidSectionType,
   .malformedMatchStatement, .missingRequiredField, .duplicateDefinition, .invalidAgentName,
   .missingDisplayName, .emptyFlowSection, .missingFlowStart, .emptyMessagesSection,
   .undefinedStateReference, .undefinedMessageReference, .undefinedFlowReference,
   .circularReference, .invalidTypeTag, .typeMismatch, .invalidTypeTagValue, .invalidPropertyName,
   .valueOutOfRange, .invalidMessageType, .malformedMessageContent, .namingConvention,
   .duplicateMatchCase, .fileNotFound, .fileReadError, .internalError, .parserInitializationError]

def number : Code → Nat
  | .missingIdentifier => 1
  | .invalidIndentation => 2
  | .unexpectedToken => 3
  | .missingColon => 4
  | .invalidSectionType => 5
  | .malformedMatchStatement => 6
  | .missingRequiredField => 101
  | .duplicateDefinition => 102
  | .invalidAgentName => 103
  | .missingDisplayName => 104
  | .emptyFlowSection => 105
  | .missingFlowStart => 106
  | .emptyMessagesSection => 107
  | .undefinedStateReference => 201
  | .undefinedMessageReference => 202
  | .undefinedFlowReference => 203
  | .circularReference => 204
  | .invalidTypeTag => 301
  | .typeMismatch => 302
  | .invalidTypeTagValue => 303
  | .invalidPropertyName => 401
  | .valueOutOfRange => 402
  | .invalidMessageType => 403
  | .malformedMessageContent => 404
  | .namingConvention => 405
  | .duplicateMatchCase => 406
  | .fileNotFound => 501
  | .fileReadError => 502
  | .internalError => 901
  | .parserInitializationError => 902

/-- The code as it is written. -/
def token : Code → String
  | .missingIdentifier => "RCL001"
  | .invalidIndentation => "RCL002"
  | .unexpectedToken => "RCL003"
  | .missingColon => "RCL004"
  | .invalidSectionType => "RCL005"
  | .malformedMatchStatement => "RCL006"
  | .missingRequiredField => "RCL101"
  | .duplicateDefinition => "RCL102"
  | .invalidAgentName => "RCL103"
  | .missingDisplayName => "RCL104"
  | .emptyFlowSection => "RCL105"
  | .missingFlowStart => "RCL106"
  | .emptyMessagesSection => "RCL107"
  | .undefinedStateReference => "RCL201"
  | .undefinedMessageReference => "RCL202"
  | .undefinedFlowReference => "RCL203"
  | .circularReference => "RCL204"
  | .invalidTypeTag => "RCL301"
  | .typeMismatch => "RCL302"
  | .invalidTypeTagValue => "RCL303"
  | .invalidPropertyName => "RCL401"
  | .valueOutOfRange => "RCL402"
  | .invalidMessageType => "RCL403"
  | .malformedMessageContent => "RCL404"
  | .namingConvention => "RCL405"
  | .duplicateMatchCase => "RCL406"
  | .fileNotFound => "RCL501"
  | .fileReadError => "RCL502"
  | .internalError => "RCL901"
  | .parserInitializationError => "RCL902"

/-- The name that reports show beside the code. -/
def name : Code → String
  | .missingIdentifier => "MISSING_IDENTIFIER"
  | .invalidIndentation => "INVALID_INDENTATION"
  | .unexpectedToken => "UNEXPECTED_TOKEN"
  | .missingColon => "MISSING_COLON"
  | .invalidSectionType => "INVALID_SECTION_TYPE"
  | .malformedMatchStatement => "MALFORMED_MATCH_STATEMENT"
  | .missingRequiredField => "MISSING_REQUIRED_FIELD"
  | .duplicateDefinition => "DUPLICATE_DEFINITION"
  | .invalidAgentName => "INVALID_AGENT_NAME"
  | .missingDisplayName => "MISSING_DISPLAY_NAME"
  | .emptyFlowSection => "EMPTY_FLOW_SECTION"
  | .missingFlowStart => "MISSING_FLOW_START"
  | .emptyMessagesSection => "EMPTY_MESSAGES_SECTION"
  | .undefinedStateReference => "UNDEFINED_STATE_REFERENCE"
  | .undefinedMessageReference => "UNDEFINED_MESSAGE_REFERENCE"
  | .undefinedFlowReference => "UNDEFINED_FLOW_REFERENCE"
  | .circularReference => "CIRCULAR_REFERENCE"
  | .invalidTypeTag => "INVALID_TYPE_TAG"
  | .typeMismatch => "TYPE_MISMATCH"
  | .invalidTypeTagValue => "INVALID_TYPE_TAG_VALUE"
  | .invalidPropertyName => "INVALID_PROPERTY_NAME"
  | .valueOutOfRange => "VALUE_OUT_OF_RANGE"
  | .invalidMessageType => "INVALID_MESSAGE_TYPE"
  | .malformedMessageContent => "MALFORMED_MESSAGE_CONTENT"
  | .namingConvention => "NAMING_CONVENTION"
  | .duplicateMatchCase => "DUPLICATE_MATCH_CASE"
  | .fileNotFound => "FILE_NOT_FOUND"
  | .fileReadError => "FILE_READ_ERROR"
  | .internalError => "INTERNAL_ERROR"
  | .parserInitializationError => "PARSER_INITIALIZATION_ERROR"

def category (c : Code) : Category := (Category.ofNumber? c.number).getD .internal

def ofToken? (token : String) : Option Code := all.find? (fun c => c.token == token)

end Code

end Dialogue
