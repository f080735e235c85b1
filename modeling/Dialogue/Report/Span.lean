import Dialogue.Document.Range
import Dialogue.Text.Blank

/-!
# From lines and columns to bytes

Places in a document are lines and columns counted from one, in characters; a span is an offset and a
length in bytes of the source text. A column beyond the end of a line stands for the end of the line.

These are `to_span` and `byte_offset`.
-/
namespace Dialogue.Report

structure Span where
  offset : Nat
  length : Nat
  deriving DecidableEq, Repr

/-- The end of a span, which it does not contain. -/
def Span.stop (s : Span) : Nat := s.offset + s.length

/-- The number of bytes that characters take. -/
def byteLength : List Char → Nat
  | [] => 0
  | c :: rest => c.utf8Size + byteLength rest

/-- The lines of a text, each with the line feed that ends it. -/
def lines : List Char → List (List Char)
  | [] => []
  | c :: rest =>
    if c = '\n' then [c] :: lines rest
    else
      match lines rest with
      | [] => [[c]]
      | line :: later => (c :: line) :: later

def isLineEnd (c : Char) : Bool := c == '\n' || c == '\r'

/-- A line without the characters that end it. -/
def lineContent (line : List Char) : List Char := Text.dropTrailing isLineEnd line

/-- The offset of a position in a text. Only lines that are there have one. -/
def byteOffset? (source : List Char) (p : Position) : Option Nat :=
  match p.line.toNat with
  | 0 => none
  | index + 1 =>
    match (lines source)[index]? with
    | none => none
    | some line =>
      some (byteLength ((lines source).take index).flatten +
        byteLength ((lineContent line).take (p.column.toNat - 1)))

/-- The number of bytes of the character at an offset, or zero at the end of the text. -/
def sizeAt : Nat → List Char → Nat
  | _, [] => 0
  | 0, c :: _ => c.utf8Size
  | n + 1, c :: rest => sizeAt (n + 1 - c.utf8Size) rest

/-- The span of a range. One that is empty or ends before it starts covers one character. -/
def span? (source : List Char) (range : Range) : Option Span :=
  match byteOffset? source range.start with
  | none => none
  | some start =>
    let stop := max ((byteOffset? source range.stop).getD start) start
    some ⟨start, if start < stop then stop - start else sizeAt start source⟩

end Dialogue.Report
