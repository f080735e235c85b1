import Dialogue.Text.Blank
import Dialogue.Text.Split

/-!
# Paths

A path is a text whose pieces stand between slashes. Repeated slashes, slashes at the end and single dots
do not matter, except for a dot in front; two paths are the same when their components are.

These are `components`, `file_name`, `parent` and `join`. Names that are no text and the drives of some
systems are not modelled.
-/
namespace Dialogue.Path

inductive Component where
  | root
  | current
  | parent
  | name (text : String)
  deriving DecidableEq, Repr

/-- The component that a piece stands for, when it is not the first one of a relative path. -/
def component? (piece : List Char) : Option Component :=
  if piece = [] || piece = ['.'] then none
  else if piece = ['.', '.'] then some .parent
  else some (.name (String.ofList piece))

def pieces (path : String) : List (List Char) := Text.split '/' path.toList

def isAbsolute (path : String) : Bool := Text.startsWith path "/"

def components (path : String) : List Component :=
  match pieces path with
  | [] => []
  | first :: rest =>
    if isAbsolute path then .root :: rest.filterMap component?
    else
      (if first = ['.'] then [.current] else (component? first).toList) ++ rest.filterMap component?

/-- Whether two paths are the same. -/
def same (a b : String) : Bool := components a == components b

/-- The name of the file or directory that a path leads to. -/
def fileName? (path : String) : Option String :=
  match (components path).getLast? with
  | some (.name text) => some text
  | _ => none

/-- Takes pieces that do not matter off the end; the pieces are given from the last to the first. -/
def trimmed (absolute : Bool) : List (List Char) → List (List Char)
  | [] => []
  | piece :: before =>
    if piece = [] || (piece = ['.'] && (absolute || !before.isEmpty)) then trimmed absolute before
    else piece :: before

/-- The path without its last component. The root and the empty path have no parent. -/
def parent? (path : String) : Option String :=
  let absolute := isAbsolute path
  let body := if absolute then (pieces path).drop 1 else pieces path
  match trimmed absolute body.reverse with
  | [] => none
  | _ :: before =>
    some ((if absolute then "/" else "") ++
      Text.join "/" ((trimmed absolute before).reverse.map String.ofList))

/-- A path below a directory. An absolute path stays what it is. -/
def join (directory path : String) : String :=
  if isAbsolute path || directory.isEmpty then path
  else if Text.endsWith directory "/" then directory ++ path
  else directory ++ "/" ++ path

/-- Whether a path can only lead to a directory. -/
def meansDirectory (path : String) : Bool :=
  match (pieces path).reverse with
  | last :: _ :: _ => last = [] || last = ['.']
  | _ => false

def Component.rank : Component → Nat
  | .root => 0
  | .current => 1
  | .parent => 2
  | .name _ => 3

/-- Whether one component comes no later than another. -/
def Component.le : Component → Component → Bool
  | .name a, .name b => a = b || decide (a < b)
  | a, b => a.rank ≤ b.rank

/-- Whether the first list of components comes no later than the second. -/
def componentsLE : List Component → List Component → Bool
  | [], _ => true
  | _ :: _, [] => false
  | a :: as, b :: bs => if a = b then componentsLE as bs else a.le b

/-- Paths in the order of their components. -/
def sort (paths : List String) : List String :=
  paths.mergeSort fun a b => componentsLE (components a) (components b)

end Dialogue.Path
