import Dialogue.Diagnostic.Problem
import Dialogue.ExitCode
import Dialogue.Files.Host
import Dialogue.Json.Decode

/-!
# What can go wrong around a compilation

The compiler itself never fails: it reports findings. Failures arise where files are read and written and
where configuration is loaded.

This is `RclError` with `to_diagnostic` and `exit_code`.
-/
namespace Dialogue.Project

open Json (DecodeError)

/-- Why a configuration is refused: it is no YAML, or what stands at a path of keys is not as it should
be. -/
inductive ConfigFault where
  | malformed
  | invalid (path : List String) (error : DecodeError)

def ConfigFault.message : ConfigFault → String
  | .malformed => "the text is not well formed"
  | .invalid [] error => error.message
  | .invalid path error => Text.join "." path ++ ": " ++ error.message

inductive Error where
  | notFound (path : String)
  | read (path : String) (fault : FileFault)
  | decode (path : String) (error : DecodeError)
  | walk (path : String) (fault : FileFault)
  | config (path : String) (fault : ConfigFault)
  | write (path : String) (fault : FileFault)

namespace Error

/-- The failure to read a path. -/
def ofRead (path : String) : FileFault → Error
  | .notFound => .notFound path
  | fault => .read path fault

def message : Error → String
  | .notFound path => "file not found: " ++ path
  | .read path _ => "could not read " ++ path
  | .decode path _ => path ++ " is not a valid source document"
  | .walk path _ => "failed to walk " ++ path
  | .config path _ => "invalid configuration in " ++ path
  | .write path _ => "could not write " ++ path

/-- What lies behind the failure. -/
def cause? : Error → Option String
  | .notFound _ => none
  | .read _ fault | .walk _ fault | .write _ fault => some fault.message
  | .decode _ error => some error.message
  | .config _ fault => some fault.message

/-- The failure with its cause, on one line. -/
def fullMessage (e : Error) : String :=
  match e.cause? with
  | some cause => e.message ++ ": " ++ cause
  | none => e.message

/-- Failures on the way in are findings; those on the way out only decide how the run ends. -/
def problem? : Error → Option Problem
  | .notFound path => some (.fileNotFound path)
  | .read path fault => some (.fileReadError path fault.message)
  | .decode path error => some (.fileReadError path error.message)
  | .walk path fault => some (.fileReadError path fault.message)
  | .config path fault => some (.fileReadError path fault.message)
  | .write _ _ => none

def diagnostic? (e : Error) : Option Diagnostic := e.problem?.map fun p => p.diagnostic none

def exitCode : Error → ExitCode
  | .write _ _ => .output
  | _ => .io

end Error

end Dialogue.Project
