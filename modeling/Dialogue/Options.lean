import Dialogue.Json.Decode
import Dialogue.Message.Extraction

/-!
# Options

What a project may set for the compiler and for the files that it writes. Whatever is not given has a
default.

These are `CompilerOptions`, `OutputOptions` and `ProjectConfig` with `effective_scan_depth`, `wants_json`
and `wants_js`.
-/
namespace Dialogue

open Json (Decoder)

structure CompilerOptions where
  namingConventions : Bool
  scanDepth : Nat
  deriving DecidableEq, Repr

inductive OutputFormat where
  | json | js | both
  deriving DecidableEq, Repr

structure OutputOptions where
  format : OutputFormat
  pretty : Bool
  directory : Option String
  deriving DecidableEq, Repr

structure ProjectOptions where
  compiler : CompilerOptions
  output : OutputOptions
  deriving DecidableEq, Repr

def CompilerOptions.standard : CompilerOptions := ⟨false, Message.maxScanDepth⟩

def OutputOptions.standard : OutputOptions := ⟨.json, false, none⟩

def ProjectOptions.standard : ProjectOptions := ⟨.standard, .standard⟩

/-- The scan never goes deeper than its own limit. -/
def CompilerOptions.effectiveScanDepth (o : CompilerOptions) : Nat :=
  min o.scanDepth Message.maxScanDepth

def OutputFormat.wantsJson (f : OutputFormat) : Bool := f == .json || f == .both

def OutputFormat.wantsJs (f : OutputFormat) : Bool := f == .js || f == .both

/-! ## JSON form -/

namespace CompilerOptions

def toJson (o : CompilerOptions) : Json :=
  .obj [("namingConventions", .bool o.namingConventions), ("scanDepth", .nat o.scanDepth)]

def decoder : Decoder CompilerOptions :=
  .record "struct CompilerOptions"
    (CompilerOptions.mk <$> .withDefault "namingConventions" .flag standard.namingConventions <*>
      .withDefault "scanDepth" .size standard.scanDepth)

end CompilerOptions

namespace OutputFormat

def all : List (String × OutputFormat) := [("json", .json), ("js", .js), ("both", .both)]

def name : OutputFormat → String
  | .json => "json"
  | .js => "js"
  | .both => "both"

def ofName? (name : String) : Option OutputFormat := Table.lookup name all

def decoder : Decoder OutputFormat := .oneOf all

end OutputFormat

namespace OutputOptions

def toJson (o : OutputOptions) : Json :=
  .obj [("format", .str o.format.name), ("pretty", .bool o.pretty),
    ("outDir", (o.directory.map .str).getD .null)]

def decoder : Decoder OutputOptions :=
  .record "struct OutputOptions"
    (OutputOptions.mk <$> .withDefault "format" OutputFormat.decoder standard.format <*>
      .withDefault "pretty" .flag standard.pretty <*>
      .maybe "outDir" (.textAs "path string"))

end OutputOptions

namespace ProjectOptions

def toJson (o : ProjectOptions) : Json :=
  .obj [("compiler", o.compiler.toJson), ("output", o.output.toJson)]

def decoder : Decoder ProjectOptions :=
  .record "struct ProjectConfig"
    (ProjectOptions.mk <$> .withDefault "compiler" CompilerOptions.decoder standard.compiler <*>
      .withDefault "output" OutputOptions.decoder standard.output)

end ProjectOptions

end Dialogue
