import Dialogue.Json.Basic
import Dialogue.Decimal.Notation
import Dialogue.Table

/-!
# Reading JSON

The reader turns any text into a tree and says what is left of the text, or nothing once a fault has
stopped it. `parse` is the strict form: the whole text is one value, without a fault, and an object
that names a key twice keeps the last value at the first place.

Numbers are read as `Decimal.ofParts?` says, so a fraction is not always the nearest double. The line and
column of a fault are not modelled.
-/
namespace Dialogue.Json

/-- The four characters that may stand between tokens. -/
def isSpace (c : Char) : Bool := c == ' ' || c == '\n' || c == '\t' || c == '\r'

def skipSpace (cs : List Char) : List Char := cs.dropWhile isSpace

/-- What is left to read; nothing once a fault has stopped the reader. -/
abbrev Rest := Option (List Char)

def stop (fault : Fault) : Json × Rest := (.cut fault (some fault), none)

/-- One unit of a quoted text: a character as it stands, a short escape, or a 16-bit escape. -/
inductive TextUnit where
  | raw (c : Char) | short (c : Char) | hex (n : Nat)

/-- How a quoted text ends. -/
inductive TextEnd where
  | closed (rest : List Char) | unended | control | badEscape | badHex

def hexValue? (c : Char) : Option Nat :=
  if '0' ≤ c && c ≤ '9' then some (c.toNat - 48)
  else if 'a' ≤ c && c ≤ 'f' then some (c.toNat - 87)
  else if 'A' ≤ c && c ≤ 'F' then some (c.toNat - 55)
  else none

def hexValues? (a b c d : Char) : Option Nat := do
  let a ← hexValue? a
  let b ← hexValue? b
  let c ← hexValue? c
  let d ← hexValue? d
  pure (((a * 16 + b) * 16 + c) * 16 + d)

def shortEscape? (c : Char) : Option Char :=
  if c = '"' || c = '\\' || c = '/' then some c
  else if c = 'b' then some (Char.ofNat 8)
  else if c = 'f' then some (Char.ofNat 12)
  else if c = 'n' then some '\n'
  else if c = 'r' then some '\r'
  else if c = 't' then some '\t'
  else none

/-- Splits what follows an opening quote into units. -/
def scanText : List Char → List TextUnit × TextEnd
  | [] => ([], .unended)
  | '"' :: rest => ([], .closed rest)
  | '\\' :: 'u' :: a :: b :: c :: d :: rest =>
    match hexValues? a b c d with
    | some n => let (units, ending) := scanText rest; (.hex n :: units, ending)
    | none => ([], .badHex)
  | '\\' :: 'u' :: rest =>
    ([], if (String.ofList rest).utf8ByteSize < 4 then .unended else .badHex)
  | '\\' :: e :: rest =>
    match shortEscape? e with
    | some c => let (units, ending) := scanText rest; (.short c :: units, ending)
    | none => ([], .badEscape)
  | ['\\'] => ([], .unended)
  | c :: rest =>
    if c.toNat < 32 then ([], .control)
    else let (units, ending) := scanText rest; (.raw c :: units, ending)

/-- The fault that the end of a quoted text is, whether it is read or skipped. -/
def TextEnd.fault? : TextEnd → Option Fault
  | .closed _ => none
  | .unended => some .endOfString
  | .control => some .controlCharacter
  | .badEscape | .badHex => some .invalidEscape

/-- The fault of a leading surrogate with nothing to pair it behind it. -/
def TextEnd.unpaired : TextEnd → Fault
  | .closed _ | .control | .badEscape => .endOfHexEscape
  | .unended => .endOfString
  | .badHex => .invalidEscape

def isLeading (n : Nat) : Bool := 0xd800 ≤ n && n ≤ 0xdbff

def isTrailing (n : Nat) : Bool := 0xdc00 ≤ n && n ≤ 0xdfff

/-- Puts surrogates together. A surrogate without its partner is a fault. -/
def pairUnits (ending : TextEnd) : List TextUnit → Except Fault (List Char)
  | [] => .ok []
  | .raw c :: rest => (c :: ·) <$> pairUnits ending rest
  | .short c :: rest => (c :: ·) <$> pairUnits ending rest
  | [.hex n] =>
    if isTrailing n then .error .loneSurrogate
    else if isLeading n then .error ending.unpaired
    else .ok [Char.ofNat n]
  | .hex n :: next :: rest =>
    if isTrailing n then .error .loneSurrogate
    else if isLeading n then
      match next with
      | .hex m =>
        if isTrailing m then
          (Char.ofNat ((n - 0xd800) * 0x400 + (m - 0xdc00) + 0x10000) :: ·) <$> pairUnits ending rest
        else .error .loneSurrogate
      | _ => .error .endOfHexEscape
    else (Char.ofNat n :: ·) <$> pairUnits ending (next :: rest)

/-- A quoted text: its characters or the fault of reading it, the fault of skipping it, the rest. -/
structure TextReading where
  text : Except Fault String
  skipped : Option Fault
  rest : Rest

/-- Reads what follows an opening quote. -/
def readText (cs : List Char) : TextReading :=
  let (units, ending) := scanText cs
  let text :=
    match pairUnits ending units, ending.fault? with
    | .error fault, _ => .error fault
    | .ok _, some fault => .error fault
    | .ok text, none => .ok (String.ofList text)
  ⟨text, ending.fault?, match ending with | .closed rest => some rest | _ => none⟩

def isDigit (c : Char) : Bool := '0' ≤ c && c ≤ '9'

def digitsValue (ds : List Char) : Nat := ds.foldl (fun n c => n * 10 + (c.toNat - 48)) 0

/-- Appends digits to a number as long as it fits 64 bits, and says which digits are left. -/
def takeDigits (n : Nat) : List Char → Nat × List Char
  | [] => (n, [])
  | c :: rest =>
    let next := n * 10 + (c.toNat - 48)
    if next < Nat.pow 2 64 then takeDigits next rest else (n, c :: rest)

/-- A number whose digits end with the text is a different fault for who skips it. -/
def numberStop : List Char → Json × Rest
  | [] => (.cut .endOfWord (some .invalidNumber), none)
  | _ => stop .invalidNumber

def floatToken (negative : Bool) (significand : Nat) (exponent : Int) : Json :=
  match Decimal.ofParts? significand exponent with
  | some x => .float (if negative then -x else x)
  | none => .cut .numberOutOfRange none

/-- An integer that fits 64 bits stays an integer; any other number is a double. -/
def integerToken (negative : Bool) (n : Nat) : Json :=
  if negative && 0 < n && n ≤ Nat.pow 2 63 then .int (-(n : Int))
  else if !negative && n < Nat.pow 2 64 then .int n
  else floatToken negative n 0

/-- Reads the exponent of a number behind its mark; `scale` is the one that its digits have so far. -/
def readExponent (negative : Bool) (significand : Nat) (scale : Int) (cs : List Char) : Json × Rest :=
  let (down, cs) :=
    match cs with
    | '+' :: rest => (false, rest)
    | '-' :: rest => (true, rest)
    | _ => (false, cs)
  let digits := cs.takeWhile isDigit
  if digits.isEmpty then numberStop cs
  else
    let e : Int := digitsValue digits
    (floatToken negative significand (scale + if down then -e else e), some (cs.dropWhile isDigit))

/-- Reads the fraction of a number behind its point. Digits that do not fit 64 bits are dropped. -/
def readFraction (negative : Bool) (whole : Nat) (scale : Int) (cs : List Char) : Json × Rest :=
  let digits := cs.takeWhile isDigit
  let rest := cs.dropWhile isDigit
  if digits.isEmpty then numberStop cs
  else
    let (significand, dropped) := takeDigits whole digits
    let scale := scale - (digits.length - dropped.length : Nat)
    match rest with
    | 'e' :: rest | 'E' :: rest => readExponent negative significand scale rest
    | _ => (floatToken negative significand scale, some rest)

/-- Reads a number behind its sign. Digits that do not fit 64 bits only count as places. -/
def readMagnitude (negative : Bool) (cs : List Char) : Json × Rest :=
  let digits := cs.takeWhile isDigit
  let rest := cs.dropWhile isDigit
  match digits with
  | [] => numberStop cs
  | '0' :: _ :: _ => stop .invalidNumber
  | _ =>
    let (significand, dropped) := takeDigits 0 digits
    match rest with
    | '.' :: rest => readFraction negative significand dropped.length rest
    | 'e' :: rest | 'E' :: rest => readExponent negative significand dropped.length rest
    | _ =>
      (if dropped.isEmpty then integerToken negative significand
        else floatToken negative significand dropped.length, some rest)

/-- Reads the rest of one of the three words. -/
def readWord (value : Json) : List Char → List Char → Json × Rest
  | [], rest => (value, some rest)
  | _ :: _, [] => stop .endOfWord
  | w :: word, c :: rest => if w = c then readWord value word rest else stop .expectedIdent

/-- A fault between entries, with which the reader stops. -/
def brokenEntry (read skipped : Fault) : List (String × Json) × Rest :=
  ([("", .stray read (some skipped))], none)

mutual

def readValue : Nat → List Char → Json × Rest
  | 0, _ => stop .tooDeep
  | fuel + 1, cs =>
    match skipSpace cs with
    | [] => stop .endOfValue
    | 'n' :: rest => readWord .null ['u', 'l', 'l'] rest
    | 't' :: rest => readWord (.bool true) ['r', 'u', 'e'] rest
    | 'f' :: rest => readWord (.bool false) ['a', 'l', 's', 'e'] rest
    | '"' :: rest =>
      let reading := readText rest
      match reading.text with
      | .ok text => (.str text, reading.rest)
      | .error fault => (.cut fault reading.skipped, reading.rest)
    | '[' :: rest => let (items, rest) := readItems fuel true rest; (.arr items, rest)
    | '\x7b' :: rest => let (entries, rest) := readEntries fuel true rest; (.obj entries, rest)
    | '-' :: rest => readMagnitude true rest
    | c :: rest => if isDigit c then readMagnitude false (c :: rest) else stop .expectedValue

/-- Reads list items up to the closing bracket; `first` before any comma. -/
def readItems : Nat → Bool → List Char → List Json × Rest
  | 0, _, _ => ([.cut .tooDeep (some .tooDeep)], none)
  | fuel + 1, first, cs =>
    let item (cs : List Char) : List Json × Rest :=
      match readValue fuel cs with
      | (value, none) => ([value], none)
      | (value, some rest) => let (items, rest) := readItems fuel false rest; (value :: items, rest)
    match skipSpace cs with
    | [] => ([.cut .endOfList (some .endOfList)], none)
    | ']' :: rest => ([], some rest)
    | c :: rest =>
      if first then item (c :: rest)
      else if c = ',' then
        match skipSpace rest with
        | [] => ([.cut .endOfValue (some .endOfValue)], none)
        | ']' :: _ => ([.cut .trailingComma (some .expectedValue)], none)
        | next => item next
      else ([.cut .expectedCommaOrBracket (some .expectedCommaOrBracket)], none)

/-- Reads object entries up to the closing brace; `first` before any comma. -/
def readEntries : Nat → Bool → List Char → List (String × Json) × Rest
  | 0, _, _ => brokenEntry .tooDeep .tooDeep
  | fuel + 1, first, cs =>
    let entry (cs : List Char) : List (String × Json) × Rest :=
      let reading := readText cs
      match reading.rest with
      | none =>
        match reading.text with
        | .error fault => ([("", .stray fault reading.skipped)], none)
        | .ok _ => ([], none)
      | some rest =>
        let (key, ahead) : String × List (String × Json) :=
          match reading.text with
          | .ok text => (text, [])
          | .error fault => ("", [("", .stray fault none)])
        match skipSpace rest with
        | [] => (ahead ++ [(key, .cut .endOfObject (some .endOfObject))], none)
        | ':' :: rest =>
          match readValue fuel rest with
          | (value, none) => (ahead ++ [(key, value)], none)
          | (value, some rest) =>
            let (entries, rest) := readEntries fuel false rest
            (ahead ++ (key, value) :: entries, rest)
        | _ => (ahead ++ [(key, .cut .expectedColon (some .expectedColon))], none)
    match skipSpace cs with
    | [] => brokenEntry .endOfObject .endOfObject
    | '\x7d' :: rest => ([], some rest)
    | c :: rest =>
      if first then (if c = '"' then entry rest else brokenEntry .keyMustBeString .keyMustBeString)
      else if c = ',' then
        match skipSpace rest with
        | [] => brokenEntry .endOfValue .endOfObject
        | '"' :: rest => entry rest
        | '\x7d' :: _ => brokenEntry .trailingComma .keyMustBeString
        | _ => brokenEntry .keyMustBeString .keyMustBeString
      else brokenEntry .expectedCommaOrBrace .expectedCommaOrBrace

end

/-- Reads one value. Every two steps of the recursion consume a character. -/
def read (s : String) : Json × Rest :=
  let cs := s.toList
  readValue (2 * cs.length + 2) cs

/-- The most containers that may enclose each other in a text that is kept. -/
def maxNesting : Nat := 127

mutual

/-- Gives every object distinct keys: the last value of a key wins, at the first place. -/
def settle : Json → Json
  | .arr items => .arr (settleItems items)
  | .obj entries => .obj (Table.ofLast (settleEntries entries)).entries
  | j => j

def settleItems : List Json → List Json
  | [] => []
  | item :: rest => item.settle :: settleItems rest

def settleEntries : List (String × Json) → List (String × Json)
  | [] => []
  | (key, value) :: rest => (key, value.settle) :: settleEntries rest

end

/-- Reads a text that is one JSON value and nothing else. -/
def parse (s : String) : Except Fault Json :=
  let (tree, rest) := read s
  match tree.readFault? maxNesting with
  | some fault => .error fault
  | none =>
    if ((rest.getD []).all isSpace) then .ok tree.settle else .error .trailingCharacters

end Dialogue.Json
