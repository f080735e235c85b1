import Dialogue.Json.Basic
import Dialogue.Decimal.Notation

/-!
# Writing JSON

The compact form has no spaces. The pretty form indents by two spaces and closes an empty container at
once. Only quotes, backslashes and characters below U+0020 are escaped.

These are the printers that literals and compiled agents go through.
-/
namespace Dialogue.Json

def hexDigit (n : Nat) : Char :=
  if n < 10 then Char.ofNat (48 + n) else Char.ofNat (87 + n)

/-- How one character stands inside a quoted text. -/
def escapeChar (c : Char) : List Char :=
  if c = '"' then ['\\', '"']
  else if c = '\\' then ['\\', '\\']
  else if c = '\n' then ['\\', 'n']
  else if c = '\r' then ['\\', 'r']
  else if c = '\t' then ['\\', 't']
  else if c.toNat = 8 then ['\\', 'b']
  else if c.toNat = 12 then ['\\', 'f']
  else if c.toNat < 32 then ['\\', 'u', '0', '0', hexDigit (c.toNat / 16), hexDigit (c.toNat % 16)]
  else [c]

def quote (s : String) : List Char := '"' :: s.toList.flatMap escapeChar ++ ['"']

mutual

/-- The compact form. -/
def chars : Json → List Char
  | .null => ['n', 'u', 'l', 'l']
  | .bool true => ['t', 'r', 'u', 'e']
  | .bool false => ['f', 'a', 'l', 's', 'e']
  | .int n => Decimal.intText n
  | .float x => Decimal.jsonText x
  | .str s => quote s
  | .arr items => '[' :: charsItems items ++ [']']
  | .obj entries => '\x7b' :: charsEntries entries ++ ['\x7d']
  | .cut _ _ | .stray _ _ => ['n', 'u', 'l', 'l']

def charsItems : List Json → List Char
  | [] => []
  | [item] => item.chars
  | item :: next :: rest => item.chars ++ ',' :: charsItems (next :: rest)

def charsEntries : List (String × Json) → List Char
  | [] => []
  | [(key, value)] => quote key ++ ':' :: value.chars
  | (key, value) :: next :: rest => quote key ++ ':' :: (value.chars ++ ',' :: charsEntries (next :: rest))

end

def compact (j : Json) : String := String.ofList j.chars

def newline (level : Nat) : List Char := '\n' :: List.replicate (2 * level) ' '

mutual

/-- The pretty form of a value that stands `level` containers deep. -/
def prettyChars (level : Nat) : Json → List Char
  | .arr [] => ['[', ']']
  | .arr (item :: rest) => '[' :: prettyItems (level + 1) (item :: rest) ++ newline level ++ [']']
  | .obj [] => ['\x7b', '\x7d']
  | .obj (entry :: rest) =>
    '\x7b' :: prettyEntries (level + 1) (entry :: rest) ++ newline level ++ ['\x7d']
  | .null => ['n', 'u', 'l', 'l']
  | .bool true => ['t', 'r', 'u', 'e']
  | .bool false => ['f', 'a', 'l', 's', 'e']
  | .int n => Decimal.intText n
  | .float x => Decimal.jsonText x
  | .str s => quote s
  | .cut _ _ | .stray _ _ => ['n', 'u', 'l', 'l']

def prettyItems (level : Nat) : List Json → List Char
  | [] => []
  | [item] => newline level ++ prettyChars level item
  | item :: next :: rest =>
    newline level ++ prettyChars level item ++ ',' :: prettyItems level (next :: rest)

def prettyEntries (level : Nat) : List (String × Json) → List Char
  | [] => []
  | [(key, value)] => newline level ++ quote key ++ ':' :: ' ' :: prettyChars level value
  | (key, value) :: next :: rest =>
    newline level ++ quote key ++ ':' :: ' ' :: prettyChars level value ++
      ',' :: prettyEntries level (next :: rest)

end

def pretty (j : Json) : String := String.ofList (j.prettyChars 0)

end Dialogue.Json
