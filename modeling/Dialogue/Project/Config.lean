import Dialogue.Files.Path
import Dialogue.Options
import Dialogue.Project.Error
import Dialogue.Yaml.Reader

/-!
# Project configuration

A project may have a file with options for the compiler and its output. A file with nothing in it, and
whatever it does not mention, means the standard options.

These are `from_yaml`, `load` and `discover`. What is wrong with a file that is no YAML at all is told in
one sentence; its many wordings are not modelled.
-/
namespace Dialogue.Project

open Json (DecodeError Found)

/-- The name of the configuration file of a project. -/
def configName : String := "rclc.yaml"

/-- What a value is, for whoever wanted something else. -/
def foundIn : Yaml → Found
  | .sequence _ => .sequence
  | .mapping _ => .map
  | .scalar false text => .text text
  | .scalar true text =>
    if Yaml.isNull text then .unit
    else
      match Yaml.flag? text, Yaml.integer? text with
      | some b, _ => .boolean b
      | none, some n => .integer n
      | none, none => .text text

def wanted (expected : String) (y : Yaml) : DecodeError := .wrongType (foundIn y) expected

def flagOf : Yaml → Except DecodeError Bool
  | .scalar true text =>
    match Yaml.flag? text with
    | some b => .ok b
    | none => .error (wanted "a boolean" (.scalar true text))
  | y => .error (wanted "a boolean" y)

def naturalOf : Yaml → Except DecodeError Nat
  | .scalar true text =>
    match Yaml.natural? text with
    | some n => .ok n
    | none => .error (wanted "usize" (.scalar true text))
  | y => .error (wanted "usize" y)

/-- A scalar of any style is a text. -/
def textOf (expected : String) : Yaml → Except DecodeError String
  | .scalar _ text => .ok text
  | y => .error (wanted expected y)

/-- A plain null stands for nothing. -/
def optionalOf {α : Type} (read : Yaml → Except DecodeError α) : Yaml → Except DecodeError (Option α)
  | .scalar true text => if Yaml.isNull text then .ok none else some <$> read (.scalar true text)
  | y => some <$> read y

def formatOf (y : Yaml) : Except DecodeError OutputFormat := do
  let name ← textOf "a YAML tag starting with '!'" y
  match OutputFormat.ofName? name with
  | some format => .ok format
  | none => .error (.unknownVariant name (OutputFormat.all.map Prod.fst))

/-- A known key of a mapping and what its value does to the options. -/
structure Setting (α : Type) where
  key : String
  apply : α → Yaml → Except ConfigFault α

/-- A key with a value of its own. -/
def setting {α β : Type} (path : List String) (key : String) (read : Yaml → Except DecodeError β)
    (set : α → β → α) : Setting α :=
  ⟨key, fun options y =>
    match read y with
    | .ok value => .ok (set options value)
    | .error e => .error (.invalid (path ++ [key]) e)⟩

/-- Goes through the entries of a mapping in order. Keys that are not known are passed over, and a known
key is given once. -/
def applyEntries {α : Type} (path : List String) (settings : List (Setting α)) (seen : List String)
    (options : α) : List (Yaml × Yaml) → Except ConfigFault α
  | [] => .ok options
  | (key, value) :: rest =>
    match textOf "field identifier" key with
    | .error e => .error (.invalid path e)
    | .ok name =>
      match settings.find? (fun s => s.key == name) with
      | none => applyEntries path settings seen options rest
      | some s =>
        if seen.contains name then .error (.invalid path (.duplicateField name))
        else
          match s.apply options value with
          | .error fault => .error fault
          | .ok options => applyEntries path settings (name :: seen) options rest

/-- A mapping of settings. One that is not written at all changes nothing. -/
def applyMapping {α : Type} (path : List String) (expected : String) (settings : List (Setting α))
    (options : α) : Yaml → Except ConfigFault α
  | .mapping entries => applyEntries path settings [] options entries
  | .scalar true "" => .ok options
  | y => .error (.invalid path (wanted expected y))

def compilerSettings : List (Setting CompilerOptions) :=
  [setting ["compiler"] "namingConventions" flagOf fun o b => { o with namingConventions := b },
    setting ["compiler"] "scanDepth" naturalOf fun o n => { o with scanDepth := n }]

def outputSettings : List (Setting OutputOptions) :=
  [setting ["output"] "format" formatOf fun o f => { o with format := f },
    setting ["output"] "pretty" flagOf fun o b => { o with pretty := b },
    setting ["output"] "outDir" (optionalOf (textOf "path string")) fun o d =>
      { o with directory := d }]

def projectSettings : List (Setting ProjectOptions) :=
  [⟨"compiler", fun o y => do
      .ok { o with
        compiler := ← applyMapping ["compiler"] "struct CompilerOptions" compilerSettings .standard y }⟩,
    ⟨"output", fun o y => do
      .ok { o with
        output := ← applyMapping ["output"] "struct OutputOptions" outputSettings .standard y }⟩]

/-- The options that a text sets. -/
def optionsOf (text : String) : Except ConfigFault ProjectOptions :=
  if Text.allBlank text then .ok .standard
  else
    match Yaml.parse? text with
    | none => .error .malformed
    | some y => applyMapping [] "struct ProjectConfig" projectSettings .standard y

/-- The options in the text of a file. -/
def parseConfig (text path : String) : Except Error ProjectOptions :=
  match optionsOf text with
  | .ok options => .ok options
  | .error fault => .error (.config path fault)

variable {m : Type → Type} [Monad m]

/-- The options in a file. -/
def loadConfig (host : Host m) (path : String) : ExceptT Error m ProjectOptions := do
  match ← host.read path with
  | .error fault => throw (.ofRead path fault)
  | .ok text =>
    match parseConfig text path with
    | .ok options => return options
    | .error e => throw e

/-- The options of a directory: those of its configuration file, if it has one. -/
def discoverConfig (host : Host m) (directory : String) : ExceptT Error m ProjectOptions := do
  let path := Path.join directory configName
  match ← host.kind path with
  | .file => loadConfig host path
  | _ => return .standard

end Dialogue.Project
