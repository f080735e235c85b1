/-!
# Where files are

What the program needs of a file system, and how an access can fail. The program is written over this
interface, so that it can work on a value as well as on a disk.

It has what is called of the file system: `exists` and `is_file`, `read_to_string`, the walk of
`discover_sources`, `create_dir_all` and `write`.
-/
namespace Dialogue

/-- Why a file cannot be read or written. -/
inductive FileFault where
  | notFound
  | notDirectory
  | isDirectory
  | alreadyExists
  | notText
  | other (detail : String)
  deriving DecidableEq, Repr

def FileFault.message : FileFault → String
  | .notFound => "No such file or directory (os error 2)"
  | .notDirectory => "Not a directory (os error 20)"
  | .isDirectory => "Is a directory (os error 21)"
  | .alreadyExists => "File exists (os error 17)"
  | .notText => "stream did not contain valid UTF-8"
  | .other detail => detail

/-- What a path leads to. -/
inductive PathKind where
  | missing | file | directory
  deriving DecidableEq, Repr

/-- A place to read files from and to write them to. -/
structure Host (m : Type → Type) where
  kind : String → m PathKind
  /-- The text of a file. -/
  read : String → m (Except FileFault String)
  /-- The paths of all files below a directory, in any order. -/
  walk : String → m (Except FileFault (List String))
  /-- Makes a directory and those above it, where they are missing. -/
  makeDirectories : String → m (Except FileFault Unit)
  write : String → String → m (Except FileFault Unit)

end Dialogue
