import Dialogue.Proofs.Compilation.Success
import Dialogue.Proofs.Diagnostic.Sort

/-!
# What a compilation reports

The findings of the parser, of the checks, of the naming conventions and on empty sections of messages are
put one behind the other. Each is put down to the document unless it has a file of its own, which may change
its place in the order, and only then are they sorted.
-/
namespace Dialogue

/-- The finding, put down to a document when it has no file of its own. -/
def Diagnostic.filedUnder (uri : Option String) (d : Diagnostic) : Diagnostic :=
  { d with file := d.file.or uri }

@[simp] theorem Diagnostic.severity_filedUnder (uri : Option String) (d : Diagnostic) :
    (d.filedUnder uri).severity = d.severity := rfl

@[simp] theorem Diagnostic.code_filedUnder (uri : Option String) (d : Diagnostic) :
    (d.filedUnder uri).code = d.code := rfl

namespace Compilation

/-- What the passes of the compiler report, one pass behind the other. -/
def ownDiagnostics (options : CompilerOptions) (doc : Document) : List Diagnostic :=
  (Check.document doc).map Finding.diagnostic ++
    (if options.namingConventions then (Check.naming doc).map Finding.diagnostic else []) ++
    (emptyMessages doc).map Finding.diagnostic

theorem merged_eq (options : CompilerOptions) (input : SourceDocument) :
    merged options input = input.diagnostics ++ ownDiagnostics options input.ast := by
  unfold merged findings ownDiagnostics
  split <;> simp

theorem placed_eq_map (uri : Option String) (ds : List Diagnostic) :
    placed uri ds = ds.map (Diagnostic.filedUnder uri) := by
  cases uri with
  | none =>
    have kept : Diagnostic.filedUnder none = id := by
      funext d
      simp [Diagnostic.filedUnder]
    rw [kept, List.map_id]
    rfl
  | some uri => rfl

end Compilation

theorem compile_diagnostics_eq_sort (options : CompilerOptions) (input : SourceDocument) :
    (compile options input).diagnostics =
      Diagnostic.sort ((input.diagnostics ++ Compilation.ownDiagnostics options input.ast).map
        (Diagnostic.filedUnder input.uri)) := by
  rw [compile_diagnostics, Compilation.placed_eq_map, Compilation.merged_eq]

end Dialogue
