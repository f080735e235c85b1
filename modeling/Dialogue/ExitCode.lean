import Dialogue.Diagnostic.Basic

/-!
# Exit codes

How a run ends. When several things went wrong, the gravest of them decides.

This is `ExitCode` with `code`, `precedence`, `worst` and `for_diagnostics`.
-/
namespace Dialogue

inductive ExitCode where
  | success | syntaxError | semantic | io | output | usage | internal
  deriving DecidableEq, Repr

namespace ExitCode

/-- The number handed to the system. -/
def number : ExitCode → Nat
  | .success => 0
  | .syntaxError => 1
  | .semantic => 2
  | .io => 3
  | .output => 4
  | .usage => 64
  | .internal => 70

/-- How grave an exit code is. -/
def gravity : ExitCode → Nat
  | .success => 0
  | .semantic => 1
  | .syntaxError => 2
  | .output => 3
  | .io => 4
  | .usage => 5
  | .internal => 6

/-- The graver of two. -/
def worst (a b : ExitCode) : ExitCode := if a.gravity < b.gravity then b else a

def worstOf (codes : List ExitCode) : ExitCode := codes.foldl worst .success

def ofCategory : Category → ExitCode
  | .internal => .internal
  | .io => .io
  | .grammar => .syntaxError
  | .semantic | .reference | .typing | .validation => .semantic

/-- What findings lead to. Only errors count. -/
def ofDiagnostics (ds : List Diagnostic) : ExitCode :=
  worstOf ((ds.filter Diagnostic.isError).map fun d => ofCategory d.category)

end ExitCode

end Dialogue
