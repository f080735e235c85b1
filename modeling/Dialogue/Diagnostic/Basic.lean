import Dialogue.Diagnostic.Code
import Dialogue.Document.Range

/-!
# Diagnostics

A diagnostic is one finding: how severe it is, its code and category, a message, and perhaps a place, a
file, a hint and edits that would resolve it. Only errors can fail a compilation.

These are `Diagnostic` and its steps `with_hint`, `with_fix`, `with_severity` and `in_file`, `to_minimal`,
`sort_diagnostics` and `has_errors`.
-/
namespace Dialogue

open Json (Decoder)

inductive Severity where
  | error | warning | info
  deriving DecidableEq, Repr

def Severity.name : Severity → String
  | .error => "error"
  | .warning => "warning"
  | .info => "info"

/-- An edit that resolves a finding. -/
structure QuickFix where
  label : String
  replacement : String
  range : Option Range
  deriving DecidableEq, Repr

structure Diagnostic where
  severity : Severity
  category : Category
  code : Code
  message : String
  range : Option Range
  file : Option String
  hint : Option String
  fixes : List QuickFix
  deriving DecidableEq, Repr

/-- The short form, for whoever only shows a message at a place. -/
structure MinimalDiagnostic where
  message : String
  range : Option Range
  severity : Severity
  deriving DecidableEq, Repr

namespace Diagnostic

/-- An error whose category follows from its code. -/
def ofCode (code : Code) (message : String) : Diagnostic :=
  ⟨.error, code.category, code, message, none, none, none, []⟩

def withRange (d : Diagnostic) (range : Option Range) : Diagnostic := { d with range := range }

def withHint (d : Diagnostic) (hint : String) : Diagnostic := { d with hint := some hint }

/-- Adds an edit at the place where the finding stands now. -/
def withFix (d : Diagnostic) (label replacement : String) : Diagnostic :=
  { d with fixes := d.fixes ++ [⟨label, replacement, d.range⟩] }

def withSeverity (d : Diagnostic) (severity : Severity) : Diagnostic :=
  { d with severity := severity }

def inFile (d : Diagnostic) (file : String) : Diagnostic := { d with file := some file }

/-- Sets the file of a finding that has none. -/
def inFileIfNone (d : Diagnostic) (file : String) : Diagnostic :=
  { d with file := d.file.or (some file) }

def isError (d : Diagnostic) : Bool := d.severity == .error

def minimal (d : Diagnostic) : MinimalDiagnostic := ⟨d.message, d.range, d.severity⟩

/-- ` (line 3, col 7)`. -/
def placeText (range : Range) : String :=
  " (line " ++ toString range.start.line.toNat ++ ", col " ++
    toString range.start.column.toNat ++ ")"

/-- The finding on one line. -/
def display (d : Diagnostic) : String :=
  d.severity.name ++ "[" ++ d.code.token ++ "]: " ++ d.message ++
    (match d.range with
    | some range => placeText range
    | none => "")

/-- Findings are ordered by file, line and column; what is not known counts as nothing. -/
structure SortKey where
  file : String
  line : Nat
  column : Nat
  deriving DecidableEq

def sortKey (d : Diagnostic) : SortKey :=
  ⟨d.file.getD "", (d.range.map fun r => r.start.line.toNat).getD 0,
    (d.range.map fun r => r.start.column.toNat).getD 0⟩

/-- Whether the first key comes no later than the second. -/
def SortKey.le (a b : SortKey) : Bool :=
  if a.file = b.file then
    if a.line = b.line then a.column ≤ b.column else a.line < b.line
  else decide (a.file < b.file)

/-- The findings in order; those with the same key keep theirs. -/
def sort (ds : List Diagnostic) : List Diagnostic :=
  ds.mergeSort fun a b => a.sortKey.le b.sortKey

def hasErrors (ds : List Diagnostic) : Bool := ds.any isError

end Diagnostic

/-! ## JSON form -/

namespace Severity

def decoder : Decoder Severity :=
  .oneOf [("error", .error), ("warning", .warning), ("info", .info)]

def toJson (s : Severity) : Json := .str s.name

end Severity

def Category.decoder : Decoder Category := .oneOf (Category.all.map fun c => (c.name, c))

def Code.decoder : Decoder Code := .oneOf (Code.all.map fun c => (c.token, c))

namespace QuickFix

def toJson (f : QuickFix) : Json :=
  .obj ([("label", .str f.label), ("replacement", .str f.replacement)] ++ Range.entry f.range)

def decoder : Decoder QuickFix :=
  .record "struct QuickFix"
    (QuickFix.mk <$> .required "label" .text <*> .required "replacement" .text <*> Range.field)

end QuickFix

namespace Diagnostic

def toJson (d : Diagnostic) : Json :=
  .obj ([("severity", d.severity.toJson), ("category", .str d.category.name),
      ("code", .str d.code.token), ("message", .str d.message)] ++ Range.entry d.range ++
    Json.entry? "file" (d.file.map .str) ++ Json.entry? "hint" (d.hint.map .str) ++
    Json.entryList "quickFixes" (d.fixes.map QuickFix.toJson))

def decoder : Decoder Diagnostic :=
  .record "struct Diagnostic"
    (Diagnostic.mk <$> .required "severity" Severity.decoder <*>
      .required "category" Category.decoder <*> .required "code" Code.decoder <*>
      .required "message" .text <*> Range.field <*> .maybe "file" .text <*> .maybe "hint" .text <*>
      .withDefault "quickFixes" (.list QuickFix.decoder) [])

end Diagnostic

namespace MinimalDiagnostic

def toJson (d : MinimalDiagnostic) : Json :=
  .obj (("message", .str d.message) :: Range.entry d.range ++ [("severity", d.severity.toJson)])

def decoder : Decoder MinimalDiagnostic :=
  .record "struct MinimalDiagnostic"
    (MinimalDiagnostic.mk <$> .required "message" .text <*> Range.field <*>
      .required "severity" Severity.decoder)

end MinimalDiagnostic

end Dialogue
