import Dialogue.Report.Span

/-!
# Source snippets

The lines of a span, one line before and one after, and a mark. A span within a line is underlined; one
over several lines is drawn at the left edge of the lines.

Every character is taken to be one column wide, and a snippet is drawn without colours.
-/
namespace Dialogue.Report

/-- A line of the source: its number from one on, where its bytes are, and what it says. -/
structure SourceLine where
  number : Nat
  offset : Nat
  length : Nat
  text : List Char

/-- A line without its line feed and the carriage return before it. -/
def lineText (line : List Char) : List Char :=
  match line.reverse with
  | '\n' :: '\r' :: rest => rest.reverse
  | '\n' :: rest => rest.reverse
  | _ => line

def numberLines (number offset : Nat) : List (List Char) → List SourceLine
  | [] => []
  | line :: rest =>
    ⟨number, offset, byteLength line, lineText line⟩ ::
      numberLines (number + 1) (offset + byteLength line) rest

def sourceLines (source : List Char) : List SourceLine := numberLines 1 0 (lines source)

/-- The number of the line on which a span starts. -/
def firstLine (ls : List SourceLine) (span : Span) : Nat :=
  (ls.filter fun l => l.offset ≤ span.offset).length

/-- The number of the line on which the text behind a span starts. -/
def lastLine (ls : List SourceLine) (span : Span) : Nat :=
  (ls.filter fun l => l.offset ≤ span.stop).length

/-- How a line takes part in a span. -/
inductive LineRole where
  | outside | whole | first | middle | last
  deriving DecidableEq, Repr

def SourceLine.role (l : SourceLine) (span : Span) : LineRole :=
  let stop := l.offset + l.length
  if span.offset < l.offset then
    if stop < span.stop then .middle else if l.offset < span.stop then .last else .outside
  else if span.offset < stop then
    if span.stop ≤ stop then .whole else .first
  else .outside

/-- The number of characters that begin a text and fit into a number of bytes. -/
def charsWithin (bytes : Nat) : List Char → Nat
  | [] => 0
  | c :: rest => if c.utf8Size ≤ bytes then charsWithin (bytes - c.utf8Size) rest + 1 else 0

/-- The column, from zero on, of an offset on a line. What lies beyond the text of the line stands one
column behind it. -/
def SourceLine.column (l : SourceLine) (offset : Nat) : Nat :=
  let inside := offset - l.offset
  if byteLength l.text < inside then l.text.length + 1
  else charsWithin inside l.text

def spaces (n : Nat) : String := String.ofList (List.replicate n ' ')

def bars (n : Nat) : String := String.ofList (List.replicate n '─')

/-- What stands at the left edge of a line when a span goes over several. -/
def LineRole.edge : LineRole → String
  | .first => "╭─▶ "
  | .middle => "│   "
  | .last => "├─▶ "
  | _ => "    "

/-- The underline of a span within a line, and the label under its middle. -/
def underline (margin : String) (l : SourceLine) (span : Span) : List String :=
  let start := l.column span.offset
  let stop := max (l.column span.stop) (start + 1)
  let mark := (start + stop) / 2
  [margin ++ "· " ++ spaces start ++ bars (mark - start) ++ "┬" ++ bars (stop - mark - 1),
    margin ++ "· " ++ spaces mark ++ "╰── here"]

/-- A line and what is drawn under it. -/
def drawLine (margin : String) (width : Nat) (edged : Bool) (span : Span) (l : SourceLine) :
    List String :=
  let role := l.role span
  let shown :=
    " " ++ Text.padLeft width (toString l.number) ++ " │ " ++ (if edged then role.edge else "") ++
      String.ofList l.text
  shown ::
    (match role with
    | .whole => underline margin l span
    | .last => [margin ++ "· ╰──── here"]
    | _ => [])

/-- The lines that are shown for a span. -/
def shownLines (ls : List SourceLine) (span : Span) : List SourceLine :=
  ls.filter fun l => firstLine ls span ≤ l.number + 1 && l.number ≤ lastLine ls span + 1

/-- The column, from one on, of the start of a span. -/
def startColumn (ls : List SourceLine) (span : Span) : Nat :=
  match ls.find? fun l => l.number == firstLine ls span with
  | some l => span.offset - l.offset + 1
  | none => 1

/-- The snippet of a span, line by line. -/
def snippet (name : String) (source : List Char) (span : Span) : List String :=
  let ls := sourceLines source
  let shown := shownLines ls span
  let width := ((shown.getLast?.map fun l => (toString l.number).length)).getD 1
  let margin := spaces (width + 2)
  let edged := shown.any fun l => l.role span == .first || l.role span == .last
  let title :=
    name ++ ":" ++ toString (firstLine ls span) ++ ":" ++ toString (startColumn ls span)
  [margin ++ "╭─[" ++ title ++ "]"] ++ shown.flatMap (drawLine margin width edged span) ++
    [margin ++ "╰────"]

end Dialogue.Report
