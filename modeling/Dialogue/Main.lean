import Dialogue.Command.Run

/-!
# The program

Connects the command line with files on disk and the two output channels. This host opens files by their
path and cannot list what a directory holds, so documents are named one by one.

This is `main`. The log and how the environment sets it up are not modelled.
-/
namespace Dialogue

/-- The system's number for a directory that is taken for a file. Some calls negate it. -/
def isDirectoryCode (code : UInt32) : Bool := code == 21 || code + 21 == 0

/-- What a failed access means. -/
def faultOf : IO.Error → FileFault
  | .noFileOrDirectory _ _ _ => .notFound
  | .inappropriateType _ code _ => if isDirectoryCode code then .isDirectory else .notDirectory
  | .alreadyExists _ _ _ => .alreadyExists
  | e => .other (toString e)

/-- Runs an access to the disk. -/
def accessing {α : Type} (action : IO α) : IO (Except FileFault α) := do
  try
    return .ok (← action)
  catch e =>
    return .error (faultOf e)

def readText (path : String) : IO (Except FileFault String) := do
  match ← accessing (IO.FS.readBinFile path) with
  | .error fault => return .error fault
  | .ok bytes =>
    match String.fromUTF8? bytes with
    | some text => return .ok text
    | none => return .error .notText

def kindOf (path : String) : IO PathKind := do
  match ← accessing (IO.FS.readBinFile path) with
  | .ok _ => return .file
  | .error .isDirectory => return .directory
  | .error .notFound | .error .notDirectory => return .missing
  | .error _ => return .file

/-- The files on disk. -/
def disk : Host IO where
  kind := kindOf
  read := readText
  walk _ := return .error (.other "a directory cannot be listed here")
  makeDirectories path := do
    if path.isEmpty then return .ok () else accessing (IO.FS.createDirAll path)
  write path text := accessing (IO.FS.writeFile path text)

end Dialogue

def main (args : List String) : IO UInt32 := do
  let stderr ← IO.getStderr
  let outcome ← Dialogue.Command.run Dialogue.disk (← stderr.isTty) args
  IO.print outcome.stdout
  stderr.putStr outcome.stderr
  return outcome.exit.number.toUInt32
