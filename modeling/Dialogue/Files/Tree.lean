import Dialogue.Files.Host
import Dialogue.Files.Path
import Dialogue.Table

/-!
# File trees

A file system as a value: files with their bytes, and directories of named files and directories. The tree
holds everything from the root on. An absolute path starts there and a relative one at the working
directory, `home`; the way up from the root leads to the root.

This is what `exists`, `is_file`, `read_to_string`, `create_dir_all`, `write` and the walk of
`discover_sources` see of a disk. Links, permissions, devices and other programs are not modelled.
-/
namespace Dialogue

inductive FileTree where
  | file (content : ByteArray)
  | directory (entries : List (String × FileTree))
  deriving Inhabited

namespace FileTree

def empty : FileTree := .directory []

/-- Writes an entry: in its place when the name is taken, else at the end. -/
def putEntry (name : String) (t : FileTree) : List (String × FileTree) → List (String × FileTree)
  | [] => [(name, t)]
  | (key, old) :: rest => if key = name then (key, t) :: rest else (key, old) :: putEntry name t rest

/-- What stands at the end of a list of names. -/
def find : List String → FileTree → Except FileFault FileTree
  | [], t => .ok t
  | _ :: _, .file _ => .error .notDirectory
  | name :: rest, .directory entries =>
    match Table.lookup name entries with
    | some t => find rest t
    | none => .error .notFound

/-- Writes a file into a directory that is there. -/
def writeAt (content : ByteArray) : List String → FileTree → Except FileFault FileTree
  | [], _ => .error .isDirectory
  | _ :: _, .file _ => .error .notDirectory
  | [name], .directory entries =>
    match Table.lookup name entries with
    | some (.directory _) => .error .isDirectory
    | _ => .ok (.directory (putEntry name (.file content) entries))
  | name :: next :: rest, .directory entries =>
    match Table.lookup name entries with
    | some t => do .ok (.directory (putEntry name (← writeAt content (next :: rest) t) entries))
    | none => .error .notFound

/-- Makes the directories that are missing on the way. -/
def makeAt : List String → FileTree → Except FileFault FileTree
  | [], .directory entries => .ok (.directory entries)
  | [], .file _ => .error .alreadyExists
  | _ :: _, .file _ => .error .notDirectory
  | name :: rest, .directory entries => do
    let t ← makeAt rest ((Table.lookup name entries).getD empty)
    .ok (.directory (putEntry name t entries))

mutual

/-- The files of a tree with their names from the top down. -/
def files : FileTree → List (List String × ByteArray)
  | .file content => [([], content)]
  | .directory entries => entriesFiles entries

def entriesFiles : List (String × FileTree) → List (List String × ByteArray)
  | [] => []
  | (name, t) :: rest => (files t).map (fun f => (name :: f.1, f.2)) ++ entriesFiles rest

end

/-- The names to follow for components that start at `names`. -/
def resolveFrom (tree : FileTree) (names : List String) :
    List Path.Component → Except FileFault (List String)
  | [] => .ok names
  | .root :: rest => resolveFrom tree [] rest
  | .current :: rest => resolveFrom tree names rest
  | .name text :: rest => resolveFrom tree (names ++ [text]) rest
  | .parent :: rest =>
    match find names tree with
    | .ok (.directory _) => resolveFrom tree names.dropLast rest
    | .ok (.file _) => .error .notDirectory
    | .error fault => .error fault

/-- The names to follow for a path. -/
def resolve (home : List String) (tree : FileTree) (path : String) :
    Except FileFault (List String) :=
  if path.isEmpty then .error .notFound else resolveFrom tree home (Path.components path)

/-- What a path leads to. -/
def lookup (home : List String) (tree : FileTree) (path : String) : Except FileFault FileTree := do
  match ← find (← resolve home tree path) tree with
  | .file content =>
    if Path.meansDirectory path then .error .notDirectory else .ok (.file content)
  | .directory entries => .ok (.directory entries)

def kind (home : List String) (tree : FileTree) (path : String) : PathKind :=
  match lookup home tree path with
  | .ok (.file _) => .file
  | .ok (.directory _) => .directory
  | .error _ => .missing

def read (home : List String) (tree : FileTree) (path : String) : Except FileFault String := do
  match ← lookup home tree path with
  | .directory _ => .error .isDirectory
  | .file content =>
    match String.fromUTF8? content with
    | some text => .ok text
    | none => .error .notText

def walk (home : List String) (tree : FileTree) (path : String) :
    Except FileFault (List String) := do
  let t ← lookup home tree path
  .ok (t.files.map fun f => Path.join path (Text.join "/" f.1))

/-- Makes the directories of components that start at `names`. A way up leads through a directory, which
is made as well. -/
def makeFrom (tree : FileTree) (names : List String) :
    List Path.Component → Except FileFault FileTree
  | [] => makeAt names tree
  | .root :: rest => makeFrom tree [] rest
  | .current :: rest => makeFrom tree names rest
  | .name text :: rest => makeFrom tree (names ++ [text]) rest
  | .parent :: rest =>
    match find names tree, makeAt names tree with
    | .ok (.file _), _ => .error .notDirectory
    | _, .error fault => .error fault
    | _, .ok made => makeFrom made names.dropLast rest

def makeDirectories (home : List String) (tree : FileTree) (path : String) :
    Except FileFault FileTree :=
  if path.isEmpty then .ok tree else makeFrom tree home (Path.components path)

def write (home : List String) (tree : FileTree) (path text : String) :
    Except FileFault FileTree := do
  writeAt text.toUTF8 (← resolve home tree path) tree

/-- A step that may change the tree. -/
def update (f : FileTree → Except FileFault FileTree) : StateM FileTree (Except FileFault Unit) :=
  fun tree =>
    match f tree with
    | .ok t => (.ok (), t)
    | .error fault => (.error fault, tree)

/-- A host whose files are a tree, for a program that runs in the directory `home`. -/
def host (home : List String) : Host (StateM FileTree) where
  kind path := fun tree => (kind home tree path, tree)
  read path := fun tree => (read home tree path, tree)
  walk path := fun tree => (walk home tree path, tree)
  makeDirectories path := update fun tree => makeDirectories home tree path
  write path text := update fun tree => write home tree path text

end FileTree

end Dialogue
