import Dialogue.Yaml.Basic

/-!
# Scalars in a YAML text

A scalar is written plainly, in single or in double quotes, and may go over several lines: a single line
break inside it is a space, and of several all but the first are kept.
-/
namespace Dialogue.Yaml

/-- What is left of a text, and the column at which it starts. -/
structure Cursor where
  rest : List Char
  column : Nat

def isSpace (c : Char) : Bool := c == ' ' || c == '\t'

/-- Whether the text ends here or goes on with white space. -/
def blankNext : List Char → Bool
  | [] => true
  | c :: _ => isSpace c || c == '\n'

/-- Whether a line starts here that separates documents. -/
def isMarker : List Char → Bool
  | '-' :: '-' :: '-' :: rest => blankNext rest
  | '.' :: '.' :: '.' :: rest => blankNext rest
  | _ => false

/-- Whether the document ends here. -/
def Cursor.atEnd (c : Cursor) : Bool := c.rest.isEmpty || (c.column == 0 && isMarker c.rest)

/-- White space between two words. -/
structure Gap where
  spaces : List Char
  breaks : Nat

/-- What a gap inside a scalar stands for. -/
def Gap.text (g : Gap) : List Char :=
  match g.breaks with
  | 0 => g.spaces
  | 1 => [' ']
  | n + 2 => List.replicate (n + 1) '\n'

/-- Passes over white space. -/
def gapAt (gap : Gap) (column : Nat) : List Char → Gap × Cursor
  | [] => (gap, ⟨[], column⟩)
  | c :: rest =>
    if c == '\n' then gapAt ⟨[], gap.breaks + 1⟩ 0 rest
    else if isSpace c then gapAt ⟨gap.spaces ++ [c], gap.breaks⟩ (column + 1) rest
    else (gap, ⟨c :: rest, column⟩)

/-- The characters that end a plain scalar inside brackets. -/
def flowIndicators : List Char := [',', '[', ']', '\x7b', '\x7d']

/-- Whether a plain word cannot go on here. -/
def endsPlain (flow : Bool) : List Char → Bool
  | [] => true
  | ':' :: rest => blankNext rest
  | c :: _ => isSpace c || c == '\n' || (flow && flowIndicators.contains c)

/-- One word of a plain scalar. -/
def plainWord (flow : Bool) (column : Nat) : List Char → List Char × Cursor
  | [] => ([], ⟨[], column⟩)
  | c :: rest =>
    if endsPlain flow (c :: rest) then ([], ⟨c :: rest, column⟩)
    else
      let (word, cursor) := plainWord flow (column + 1) rest
      (c :: word, cursor)

/-- Whether a plain scalar ends at a gap, because of what comes behind it. -/
def endsAtGap (flow : Bool) (least : Nat) (gap : Gap) (next : Cursor) : Bool :=
  (match next.rest with
    | '#' :: _ => true
    | rest => endsPlain flow rest) ||
    (gap.breaks != 0 && (next.atEnd || (!flow && next.column < least)))

/-- Further words of a plain scalar. Lines that go on with it start at column `least` or later. The
result tells whether the scalar stayed on one line. -/
def plainRest (flow : Bool) (least : Nat) :
    Nat → Bool → List Char → Cursor → List Char × Cursor × Bool
  | 0, single, text, cursor => (text, cursor, single)
  | fuel + 1, single, text, cursor =>
    let (gap, next) := gapAt ⟨[], 0⟩ cursor.column cursor.rest
    if endsAtGap flow least gap next then (text, cursor, single)
    else
      let (word, after) := plainWord flow next.column next.rest
      plainRest flow least fuel (single && gap.breaks == 0) (text ++ gap.text ++ word) after

/-- The characters that no plain scalar starts with. -/
def indicators : List Char :=
  ['-', '?', ':', ',', '[', ']', '\x7b', '\x7d', '#', '&', '*', '!', '|', '>', '\'', '"', '%', '@',
    Char.ofNat 0x60]

def startsPlain (flow : Bool) : List Char → Bool
  | [] => false
  | c :: rest =>
    if indicators.contains c then
      (c == '-' && !blankNext rest) || (!flow && (c == '?' || c == ':') && !blankNext rest)
    else !(isSpace c || c == '\n')

/-- A plain scalar. -/
def plain? (flow : Bool) (least : Nat) (cursor : Cursor) : Option (Yaml × Cursor × Bool) :=
  if startsPlain flow cursor.rest then
    let (word, after) := plainWord flow cursor.column cursor.rest
    let (text, after, single) := plainRest flow least cursor.rest.length true word after
    if flow && (match after.rest with
        | ':' :: c :: _ => flowIndicators.contains c
        | _ => false) then none
    else some (.scalar true (String.ofList text), after, single)
  else none

/-- A character given by its number in hexadecimal digits. -/
def escapedNumber? (digits : List Char) : Option Char :=
  (numeral? 16 digits).bind fun n => if n.isValidChar then some (Char.ofNat n) else none

/-- The escapes of one letter. -/
def escapes : List (Char × Char) :=
  [('0', '\x00'), ('a', '\x07'), ('b', '\x08'), ('t', '\t'), ('\t', '\t'), ('n', '\n'),
    ('v', '\x0b'), ('f', '\x0c'), ('r', '\r'), ('e', '\x1b'), (' ', ' '), ('"', '"'), ('/', '/'),
    ('\\', '\\'), ('N', Char.ofNat 0x85), ('_', Char.ofNat 0xa0), ('L', Char.ofNat 0x2028),
    ('P', Char.ofNat 0x2029)]

/-- The character that an escape stands for, and what comes behind it. -/
def escape? : List Char → Option (Char × List Char)
  | [] => none
  | c :: rest =>
    let numbered (count : Nat) : Option (Char × List Char) :=
      if rest.length < count then none
      else (escapedNumber? (rest.take count)).map fun d => (d, rest.drop count)
    if c == 'x' then numbered 2
    else if c == 'u' then numbered 4
    else if c == 'U' then numbered 8
    else (escapes.find? fun entry => entry.1 == c).map fun entry => (entry.2, rest)

/-- The rest of a scalar in quotes `quote`, of which `text` has been read. -/
def quotedRest (quote : Char) : Nat → List Char → Cursor → Option (List Char × Cursor)
  | 0, _, _ => none
  | fuel + 1, text, cursor =>
    if cursor.column == 0 && isMarker cursor.rest then none
    else
      match cursor.rest with
      | [] => none
      | c :: rest =>
        let after (taken : Nat) (rest : List Char) : Cursor := ⟨rest, cursor.column + taken⟩
        if c == quote then
          match rest with
          | d :: more =>
            if quote == '\'' && d == '\'' then quotedRest quote fuel (text ++ ['\'']) (after 2 more)
            else some (text, after 1 rest)
          | [] => some (text, after 1 [])
        else if c == '\\' && quote == '"' then
          match rest with
          | '\n' :: more =>
            let (gap, next) := gapAt ⟨[], 0⟩ 0 more
            quotedRest quote fuel (text ++ List.replicate gap.breaks '\n') next
          | _ =>
            match escape? rest with
            | none => none
            | some (d, more) =>
              quotedRest quote fuel (text ++ [d]) (after (rest.length - more.length + 1) more)
        else if isSpace c || c == '\n' then
          let (gap, next) := gapAt ⟨[], 0⟩ cursor.column (c :: rest)
          quotedRest quote fuel (text ++ gap.text) next
        else quotedRest quote fuel (text ++ [c]) (after 1 rest)

/-- A scalar in quotes. -/
def quoted? (cursor : Cursor) : Option (Yaml × Cursor) :=
  match cursor.rest with
  | [] => none
  | quote :: rest =>
    (quotedRest quote (rest.length + 1) [] ⟨rest, cursor.column + 1⟩).map fun (text, after) =>
      (.scalar false (String.ofList text), after)

end Dialogue.Yaml
