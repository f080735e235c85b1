import Dialogue.Yaml.Scalar

/-!
# Reading YAML

The part of YAML that configuration files use: mappings and sequences by indentation, the same in
brackets, scalars, comments, and a marker in front of the document. A text with anything else (anchors,
tags, block scalars, explicit keys, several documents) is refused.

The reasons of a refusal are not modelled.
-/
namespace Dialogue.Yaml

/-- Passes over white space and comments. Tabs are passed over in brackets and on the rest of a line, but
never indent one. The result tells whether a line ended. -/
def skip (flow tabs comment crossed : Bool) (column : Nat) : List Char → Cursor × Bool
  | [] => (⟨[], column⟩, crossed)
  | c :: rest =>
    if c == '\n' then skip flow flow false true 0 rest
    else if comment || c == ' ' || (c == '\t' && tabs) then
      skip flow tabs comment crossed (column + 1) rest
    else if c == '#' then skip flow tabs true crossed (column + 1) rest
    else (⟨c :: rest, column⟩, crossed)

/-- The next token of a block. No tab may stand at the start of a line. -/
def Cursor.next (c : Cursor) : Cursor × Bool :=
  skip false (c.column != 0) false false c.column c.rest

/-- The next token inside brackets. -/
def Cursor.nextFlow (c : Cursor) : Cursor := (skip true true false false c.column c.rest).1

/-- The cursor behind so many characters of the same line. -/
def Cursor.drop (c : Cursor) (count : Nat) : Cursor := ⟨c.rest.drop count, c.column + count⟩

/-- Whether an entry of a block sequence starts here. -/
def Cursor.isEntry (c : Cursor) : Bool :=
  match c.rest with
  | '-' :: rest => blankNext rest
  | _ => false

/-- The cursor behind the colon that makes what was read a key. -/
def keyEnd? (c : Cursor) : Option Cursor :=
  let spaces := (c.rest.takeWhile isSpace).length
  match c.rest.drop spaces with
  | ':' :: rest => if blankNext rest then some ⟨rest, c.column + spaces + 1⟩ else none
  | _ => none

/-- Whether no line ends between two cursors. -/
def sameLine (start stop : Cursor) : Bool :=
  !(start.rest.take (start.rest.length - stop.rest.length)).contains '\n'

/-! ## In brackets -/

mutual

/-- A node inside brackets. -/
def flowNode : Nat → Cursor → Option (Yaml × Cursor)
  | 0, _ => none
  | fuel + 1, c =>
    if c.atEnd then none
    else
      match c.rest with
      | '[' :: _ => flowItems fuel [] (c.drop 1)
      | '\x7b' :: _ => flowEntries fuel [] (c.drop 1)
      | '"' :: _ => quoted? c
      | '\'' :: _ => quoted? c
      | _ => (plain? true 0 c).map fun (node, after, _) => (node, after)

/-- What stands behind a colon inside brackets, if anything does. -/
def flowValue : Nat → Cursor → Option (Yaml × Cursor)
  | 0, _ => none
  | fuel + 1, c =>
    let c := c.nextFlow
    match c.rest with
    | ',' :: _ => some (absent, c)
    | ']' :: _ => some (absent, c)
    | '\x7d' :: _ => some (absent, c)
    | _ => flowNode fuel c

/-- The items of a sequence in brackets. An item with a colon is a mapping of one entry. -/
def flowItems : Nat → List Yaml → Cursor → Option (Yaml × Cursor)
  | 0, _, _ => none
  | fuel + 1, items, c =>
    let c := c.nextFlow
    match c.rest with
    | ']' :: _ => some (.sequence items, c.drop 1)
    | _ => do
      let (item, c) ← flowNode fuel c
      let c := c.nextFlow
      let (item, c) ←
        match c.rest with
        | ':' :: _ => do
          let (value, c) ← flowValue fuel (c.drop 1)
          some (.mapping [(item, value)], c.nextFlow)
        | _ => some (item, c)
      match c.rest with
      | ',' :: _ => flowItems fuel (items ++ [item]) (c.drop 1)
      | ']' :: _ => some (.sequence (items ++ [item]), c.drop 1)
      | _ => none

/-- The entries of a mapping in brackets. A key may stand without a value. -/
def flowEntries : Nat → List (Yaml × Yaml) → Cursor → Option (Yaml × Cursor)
  | 0, _, _ => none
  | fuel + 1, entries, c =>
    let c := c.nextFlow
    match c.rest with
    | '\x7d' :: _ => some (.mapping entries, c.drop 1)
    | _ => do
      let (key, c) ← flowNode fuel c
      let c := c.nextFlow
      let (value, c) ←
        match c.rest with
        | ':' :: _ => do
          let (value, c) ← flowValue fuel (c.drop 1)
          some (value, c.nextFlow)
        | _ => some (absent, c)
      match c.rest with
      | ',' :: _ => flowEntries fuel (entries ++ [(key, value)]) (c.drop 1)
      | '\x7d' :: _ => some (.mapping (entries ++ [(key, value)]), c.drop 1)
      | _ => none

end

/-! ## By indentation -/

/-- A scalar or a node in brackets, and whether it stays on one line. -/
def inlineNode (fuel least : Nat) (c : Cursor) : Option (Yaml × Cursor × Bool) :=
  match c.rest with
  | [] => none
  | first :: _ =>
    if first == '[' || first == '\x7b' || first == '"' || first == '\'' then
      (flowNode fuel c).map fun (node, after) => (node, after, sameLine c after)
    else plain? false least c

/-- Where a block node may stand. -/
structure BlockPlace where
  /-- The first column that belongs to the node. -/
  least : Nat
  /-- Whether a mapping or sequence may start on the current line. -/
  compact : Bool
  /-- Whether the entries of a sequence may stand one column to the left. -/
  outdented : Bool

mutual

/-- The node that starts at the next token, or nothing if that token lies too far to the left. -/
def blockNode : Nat → BlockPlace → Cursor → Option (Yaml × Cursor)
  | 0, _, _ => none
  | fuel + 1, place, start =>
    let (c, crossed) := start.next
    if c.atEnd then some (absent, start)
    else if crossed && c.column < place.least then
      if place.outdented && c.column + 1 == place.least && c.isEntry then
        blockItems fuel c.column [] c
      else some (absent, start)
    else if c.isEntry then
      if crossed || place.compact then blockItems fuel c.column [] c else none
    else do
      let (node, after, single) ← inlineNode fuel place.least c
      match keyEnd? after with
      | none => some (node, after)
      | some value =>
        if single && (crossed || place.compact) then blockEntries fuel c.column [] node value
        else none

/-- The entries of a mapping whose keys stand at `column`, from the value of `key` on. -/
def blockEntries : Nat → Nat → List (Yaml × Yaml) → Yaml → Cursor → Option (Yaml × Cursor)
  | 0, _, _, _, _ => none
  | fuel + 1, column, entries, key, c => do
    let (value, last) ← blockNode fuel ⟨column + 1, false, true⟩ c
    let entries := entries ++ [(key, value)]
    let (c, _) := last.next
    if c.atEnd || c.column < column then some (.mapping entries, last)
    else if c.column == column && !c.isEntry then
      let (key, after, single) ← inlineNode fuel (column + 1) c
      let value ← keyEnd? after
      if single then blockEntries fuel column entries key value else none
    else none

/-- The items of a sequence whose dashes stand at `column`, from the dash under the cursor on. -/
def blockItems : Nat → Nat → List Yaml → Cursor → Option (Yaml × Cursor)
  | 0, _, _, _ => none
  | fuel + 1, column, items, c => do
    let (item, last) ← blockNode fuel ⟨column + 1, true, false⟩ (c.drop 1)
    let items := items ++ [item]
    let (c, _) := last.next
    if c.atEnd || c.column < column then some (.sequence items, last)
    else if c.column == column then
      if c.isEntry then blockItems fuel column items c else some (.sequence items, last)
    else none

end

/-! ## Documents -/

/-- Every way to end a line becomes a line feed. -/
def lineFeeds : List Char → List Char
  | [] => []
  | '\r' :: '\n' :: rest => '\n' :: lineFeeds rest
  | c :: rest =>
    (if c == '\r' || c.toNat == 0x85 || c.toNat == 0x2028 || c.toNat == 0x2029 then '\n' else c) ::
      lineFeeds rest

/-- The characters that a text may hold. -/
def isAllowed (c : Char) : Bool :=
  let n := c.toNat
  c == '\t' || c == '\n' || (0x20 ≤ n && n ≤ 0x7e) || (0xa0 ≤ n && n ≤ 0xfffd) || 0x10000 ≤ n

/-- Whether nothing but the end of the document is left. -/
def isOver (c : Cursor) : Bool :=
  let (c, _) := c.next
  match c.rest with
  | [] => true
  | '.' :: '.' :: '.' :: rest => c.column == 0 && blankNext rest && (Cursor.next ⟨rest, 3⟩).1.rest.isEmpty
  | _ => false

/-- The document in a text, or nothing if the text is not well formed. -/
def parse? (s : String) : Option Yaml := do
  let cs := lineFeeds s.toList
  let cs := if cs.head? == some (Char.ofNat 0xfeff) then cs.drop 1 else cs
  let fuel := 2 * cs.length + 2
  if !cs.all isAllowed then none
  else
    let start : Cursor := ⟨cs, 0⟩
    let (first, _) := start.next
    let (node, after) ←
      match first.rest with
      | '-' :: '-' :: '-' :: rest =>
        if first.column == 0 && blankNext rest then blockNode fuel ⟨0, false, false⟩ ⟨rest, 3⟩
        else blockNode fuel ⟨0, true, false⟩ start
      | _ => blockNode fuel ⟨0, true, false⟩ start
    if isOver after then some node else none

end Dialogue.Yaml
