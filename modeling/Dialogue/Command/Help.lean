import Dialogue.Command.Arguments

/-!
# Help

What the program prints about itself.

A line that is refused is answered with the help of the program; the sentence that says what was wrong
with it is not modelled.
-/
namespace Dialogue.Command

def programName : String := "rclc"

def versionText : String := programName ++ " 0.1.0\n"

/-- What the program is for. -/
def programAbout : String :=
  "Compile parsed RCL agent definitions into runtime-ready agents, messages and flows."

def about : Topic → String
  | .program => programAbout
  | .compile => "Validate, extract and compile, then write the compiled agent"
  | .validate => "Report diagnostics without writing output"
  | .messages => "Print the message catalog, even for documents with errors"
  | .help => "Print this message or the help of the given subcommand(s)"

def usage : Topic → String
  | .program => "[OPTIONS] <COMMAND>"
  | .compile => "compile [OPTIONS] <PATH>"
  | .validate => "validate [OPTIONS] <PATH>"
  | .messages => "messages [OPTIONS] <PATH>"
  | .help => "help [COMMAND]..."

/-- What the subcommands do. -/
def commandLines : List String :=
  ["Commands:",
    "  compile   " ++ about .compile,
    "  validate  " ++ about .validate,
    "  messages  " ++ about .messages,
    "  help      " ++ about .help]

def configLine : String :=
  "      --config <CONFIG>  Project configuration file. Defaults to `rclc.yaml` next to the input"

def noColorLine : String := "      --no-color         Disable colored output"

def prettyLine : String := "      --pretty           Pretty-print JSON output"

def namingLine : String := "      --naming           Also check naming conventions"

def helpLine : String := "  -h, --help             Print help"

/-- The argument and the options of a topic. -/
def details : Topic → List String
  | .program =>
    commandLines ++
      ["", "Options:", configLine, noColorLine, helpLine, "  -V, --version          Print version"]
  | .compile =>
    ["Arguments:", "  <PATH>  A `.ast.json` document or a directory of them", "", "Options:",
      configLine, "  -o, --output <OUTPUT>  Output directory. Defaults to the source's directory",
      "  -f, --format <FORMAT>  Output format [possible values: json, js, both]", noColorLine,
      prettyLine, namingLine, helpLine]
  | .validate =>
    ["Arguments:", "  <PATH>  ", "", "Options:", configLine, namingLine,
      "      --json             Print diagnostics as JSON on stdout", noColorLine, helpLine]
  | .messages =>
    ["Arguments:", "  <PATH>  ", "", "Options:", configLine, prettyLine, noColorLine, helpLine]
  | .help => ["Arguments:", "  [COMMAND]...  Print help for the subcommand(s)"]

/-- The help on a topic. -/
def helpText (topic : Topic) : String :=
  String.join
    (([about topic, "", "Usage: " ++ programName ++ " " ++ usage topic, ""] ++ details topic).map
      (· ++ "\n"))

end Dialogue.Command
