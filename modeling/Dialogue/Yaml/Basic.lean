import Dialogue.Decimal.Notation

/-!
# YAML trees

Configuration files are written in YAML. A scalar keeps its text and whether it was written plainly;
what a plain scalar means is decided by who reads it.
-/
namespace Dialogue

inductive Yaml where
  | scalar (plain : Bool) (text : String)
  | sequence (items : List Yaml)
  | mapping (entries : List (Yaml × Yaml))
  deriving Inhabited

namespace Yaml

/-- Where a value would be and nothing is written. -/
def absent : Yaml := .scalar true ""

/-- The ways to write nothing. -/
def nullWords : List String := ["null", "Null", "NULL", "~"]

def isNull (text : String) : Bool := text.isEmpty || nullWords.contains text

def flag? (text : String) : Option Bool :=
  if ["true", "True", "TRUE"].contains text then some true
  else if ["false", "False", "FALSE"].contains text then some false
  else none

/-- The value of a digit in a base of at most sixteen. -/
def digit? (base : Nat) (c : Char) : Option Nat :=
  let value :=
    if '0' ≤ c && c ≤ '9' then some (c.toNat - '0'.toNat)
    else if 'a' ≤ c && c ≤ 'f' then some (c.toNat - 'a'.toNat + 10)
    else if 'A' ≤ c && c ≤ 'F' then some (c.toNat - 'A'.toNat + 10)
    else none
  value.filter (· < base)

/-- A number written in a base, with one digit at least. -/
def numeral? (base : Nat) : List Char → Option Nat
  | [] => none
  | cs => cs.foldlM (fun n c => (digit? base c).map fun d => n * base + d) 0

/-- A run of digits with a zero in front is no number. -/
def hasLeadingZero : List Char → Bool
  | '0' :: c :: rest => (c :: rest).all fun c => '0' ≤ c && c ≤ '9'
  | _ => false

/-- The number that digits in one of the four bases stand for. -/
def magnitude? (cs : List Char) : Option Nat :=
  let prefixed : Option Nat :=
    match cs with
    | '0' :: 'x' :: rest => numeral? 16 rest
    | '0' :: 'o' :: rest => numeral? 8 rest
    | '0' :: 'b' :: rest => numeral? 2 rest
    | _ => none
  match prefixed with
  | some n => some n
  | none => if hasLeadingZero cs then none else numeral? 10 cs

/-- An integer, with at most one sign. -/
def integer? (text : String) : Option Int :=
  match text.toList with
  | '-' :: rest => (magnitude? rest).map fun n => -(n : Int)
  | '+' :: rest => (magnitude? rest).map Int.ofNat
  | cs => (magnitude? cs).map Int.ofNat

/-- An integer that is not negative and takes at most 64 bits. -/
def natural? (text : String) : Option Nat :=
  match text.toList with
  | '-' :: _ => none
  | '+' :: rest => (magnitude? rest).filter (· < Nat.pow 2 64)
  | cs => (magnitude? cs).filter (· < Nat.pow 2 64)

end Yaml

end Dialogue
