/-!
# JSON trees

A tree keeps the order of object entries and tells integers from floating point numbers. The reader
never gives up on a text: where the text stops being JSON the tree holds `cut`, so that a decoder which
walks the tree meets the fault at the place where it stands in the text.

The line and column of a fault are not modelled.
-/
namespace Dialogue

/-- Why a text is not JSON, or is JSON that cannot be held. -/
inductive Json.Fault where
  | endOfValue | endOfWord | endOfObject | endOfList | endOfString
  | expectedValue | expectedIdent | keyMustBeString
  | expectedColon | expectedCommaOrBrace | expectedCommaOrBracket
  | trailingComma | trailingCharacters
  | invalidNumber | numberOutOfRange
  | invalidEscape | endOfHexEscape | loneSurrogate | controlCharacter
  | tooDeep
  deriving DecidableEq, Repr

def Json.Fault.message : Json.Fault → String
  | .endOfValue | .endOfWord => "EOF while parsing a value"
  | .endOfObject => "EOF while parsing an object"
  | .endOfList => "EOF while parsing a list"
  | .endOfString => "EOF while parsing a string"
  | .expectedValue => "expected value"
  | .expectedIdent => "expected ident"
  | .keyMustBeString => "key must be a string"
  | .expectedColon => "expected `:`"
  | .expectedCommaOrBrace => "expected `,` or `\x7d`"
  | .expectedCommaOrBracket => "expected `,` or `]`"
  | .trailingComma => "trailing comma"
  | .trailingCharacters => "trailing characters"
  | .invalidNumber => "invalid number"
  | .numberOutOfRange => "number out of range"
  | .invalidEscape => "invalid escape"
  | .endOfHexEscape => "unexpected end of hex escape"
  | .loneSurrogate => "lone leading surrogate in hex escape"
  | .controlCharacter => "control character (\\u0000-\\u001F) found while parsing a string"
  | .tooDeep => "recursion limit exceeded"

/-- Whether a fault lies inside a number or one of the three words. -/
def Json.Fault.isOfToken : Json.Fault → Bool
  | .endOfWord | .expectedIdent | .invalidNumber | .numberOutOfRange => true
  | _ => false

/-- A JSON value. `cut` and `stray` only occur in trees read from a text: `read` is the fault that
whoever wants the value meets, and `skipped` the one that whoever skips it meets, if any. `stray` stands
for a fault between the entries of an object, under an empty key. -/
inductive Json where
  | null
  | bool (value : Bool)
  | int (value : Int)
  | float (value : Float)
  | str (value : String)
  | arr (items : List Json)
  | obj (entries : List (String × Json))
  | cut (read : Json.Fault) (skipped : Option Json.Fault)
  | stray (read : Json.Fault) (skipped : Option Json.Fault)
  deriving Inhabited

namespace Json

mutual

/-- The number of nodes on the longest way down; a scalar counts one. -/
def depth : Json → Nat
  | .arr items => depthItems items + 1
  | .obj entries => depthEntries entries + 1
  | _ => 1

def depthItems : List Json → Nat
  | [] => 0
  | item :: rest => max item.depth (depthItems rest)

def depthEntries : List (String × Json) → Nat
  | [] => 0
  | (_, value) :: rest => max value.depth (depthEntries rest)

end

mutual

/-- The first fault that reading the value meets when `budget` more containers may be entered. -/
def readFault? (budget : Nat) : Json → Option Fault
  | .cut fault _ | .stray fault _ => some fault
  | .arr items =>
    match budget with
    | 0 => some .tooDeep
    | budget + 1 => itemsFault? budget items
  | .obj entries =>
    match budget with
    | 0 => some .tooDeep
    | budget + 1 => entriesFault? budget entries
  | _ => none

def itemsFault? (budget : Nat) : List Json → Option Fault
  | [] => none
  | item :: rest => (item.readFault? budget).orElse fun _ => itemsFault? budget rest

def entriesFault? (budget : Nat) : List (String × Json) → Option Fault
  | [] => none
  | (_, value) :: rest => (value.readFault? budget).orElse fun _ => entriesFault? budget rest

end

mutual

/-- The first fault that skipping the value meets. Depth and the size of numbers do not matter. -/
def skipFault? : Json → Option Fault
  | .cut _ skipped | .stray _ skipped => skipped
  | .arr items => skipItems? items
  | .obj entries => skipEntries? entries
  | _ => none

def skipItems? : List Json → Option Fault
  | [] => none
  | item :: rest => item.skipFault?.orElse fun _ => skipItems? rest

def skipEntries? : List (String × Json) → Option Fault
  | [] => none
  | (_, value) :: rest => value.skipFault?.orElse fun _ => skipEntries? rest

end

end Json

end Dialogue
