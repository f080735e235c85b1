import Dialogue.Json.Decode

/-!
# Places in a source text

Lines and columns count from one, in 64 bits.

These are `Position` and `Range`.
-/
namespace Dialogue

structure Position where
  line : UInt64
  column : UInt64
  deriving DecidableEq, Repr, Inhabited

structure Range where
  start : Position
  stop : Position
  deriving DecidableEq, Repr, Inhabited

/-- The empty range at one place. -/
def Range.point (line column : Nat) : Range :=
  let place : Position := ⟨.ofNat line, .ofNat column⟩
  ⟨place, place⟩

namespace Position

def toJson (p : Position) : Json :=
  .obj [("line", .nat p.line.toNat), ("column", .nat p.column.toNat)]

def decoder : Json.Decoder Position :=
  .record "struct Position"
    (Position.mk <$> .required "line" .word <*> .required "column" .word)

end Position

namespace Range

def toJson (r : Range) : Json := .obj [("start", r.start.toJson), ("end", r.stop.toJson)]

def decoder : Json.Decoder Range :=
  .record "struct Range"
    (Range.mk <$> .required "start" Position.decoder <*> .required "end" Position.decoder)

/-- The field that says where something stands, left out when that is not known. -/
def field : Json.Fields (Option Range) := .maybe "range" decoder

def entry (range : Option Range) : List (String × Json) := Json.entry? "range" (range.map toJson)

end Range

end Dialogue
