import Dialogue.Diagnostic.Basic
import Dialogue.Report.Snippet
import Dialogue.Text.Split

/-!
# Reports

A report shows one finding to a person: code, message, a snippet of the source when its text is at hand,
and help. Without a snippet the place is told in words.

This is `render_diagnostic` with `DiagnosticReport`. Long lines are not wrapped.
-/
namespace Dialogue

/-- A finding and, if it can be shown there, its place in a source text. -/
structure Report where
  diagnostic : Diagnostic
  place : Option (List Char × Report.Span)

namespace Report

def ofDiagnostic (d : Diagnostic) (source : Option String) : Report :=
  ⟨d,
    match source, d.range with
    | some text, some range => (span? text.toList range).map fun span => (text.toList, span)
    | _, _ => none⟩

def title (r : Report) : String := r.diagnostic.code.token ++ "::" ++ r.diagnostic.code.name

def display (r : Report) : String :=
  r.diagnostic.message ++
    (match r.place, r.diagnostic.range with
    | none, some range => Diagnostic.placeText range
    | _, _ => "")

/-- The hint, and below it the first edit that would resolve the finding. -/
def help? (r : Report) : Option String :=
  r.diagnostic.hint.map fun hint =>
    match r.diagnostic.fixes.head? with
    | some fix => hint ++ "\n" ++ fix.label ++ ":\n" ++ fix.replacement
    | none => hint

/-- The name of a source text without one. -/
def unnamedSource : String := "<input>"

def icon : Severity → String
  | .error => "×"
  | .warning => "⚠"
  | .info => "☞"

/-- How terminals switch to a colour. -/
def colour : Severity → String
  | .error => "\x1b[31m"
  | .warning => "\x1b[33m"
  | .info => "\x1b[36m"

def plain : String := "\x1b[0m"

/-- Paints a text when colours are wanted. -/
def paint (coloured : Bool) (severity : Severity) (text : String) : String :=
  if coloured then colour severity ++ text ++ plain else text

/-- The lines of a text, the first after one margin and the others after another. Spaces at the end of
a line are dropped. -/
def indented (first others : String) (text : String) : List String :=
  match Text.split '\n' text.toList with
  | [] => [first]
  | line :: later =>
    let shown (margin : String) (cs : List Char) : String :=
      margin ++ String.ofList (Text.dropTrailing (· == ' ') cs)
    shown first line :: later.map (shown others)

/-- A report line by line. -/
def reportLines (coloured : Bool) (r : Report) : List String :=
  let d := r.diagnostic
  let margin (mark : String) : String := "  " ++ paint coloured d.severity mark ++ " "
  [paint coloured d.severity r.title, ""] ++
    indented (margin (icon d.severity)) (margin "│") r.display ++
    (match r.place with
    | some (source, span) => snippet (d.file.getD unnamedSource) source span
    | none => []) ++
    (match r.help? with
    | some help => indented (paint coloured .info "  help: ") (spaces 8) help
    | none => [])

/-- The report on a finding. Every line ends in a line feed. -/
def render (d : Diagnostic) (source : Option String) (coloured : Bool) : String :=
  String.join ((reportLines coloured (ofDiagnostic d source)).map (· ++ "\n"))

end Report

end Dialogue
