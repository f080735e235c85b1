import Dialogue.Diagnostic.Problem
import Dialogue.Document.Section
import Dialogue.Flow.Compile
import Dialogue.Text.Pattern

/-!
# Naming conventions

Agents, flows and states are written in Pascal case, messages in camel or snake case. These findings are
warnings and remarks, never errors, so this pass cannot fail a compilation.

This is `check_naming_conventions`.
-/
namespace Dialogue.Check

open Text (Pattern)

/-- The names that stand for sections. -/
def reservedAgentNames : List String := ["Config", "Defaults", "Messages"]

def isUpper (c : Char) : Bool := 'A' ≤ c && c ≤ 'Z'

def isLower (c : Char) : Bool := 'a' ≤ c && c ≤ 'z'

def isDigit (c : Char) : Bool := '0' ≤ c && c ≤ '9'

/-- ASCII letters and digits. -/
def isWordChar (c : Char) : Bool := isUpper c || isLower c || isDigit c

/-- A capital, then letters and digits. -/
def pascalWord : Pattern := .seq (.one isUpper) (.star (.one isWordChar))

/-- Words with a single space between them. -/
def pascalCase : Pattern := .seq pascalWord (.star (.seq (.char ' ') pascalWord))

def camelCase : Pattern := .seq (.one isLower) (.star (.one isWordChar))

def isSnakeChar (c : Char) : Bool := isLower c || isDigit c

def snakeCase : Pattern :=
  .seq (.seq (.one isLower) (.star (.one isSnakeChar)))
    (.star (.seq (.char '_') (.plus (.one isSnakeChar))))

def isMessageName (name : String) : Bool := camelCase.isMatch name || snakeCase.isMatch name

/-- The finding on the name of a section, if it has one that is not as it should be. -/
def nameFinding (s : Section) (kind convention : String) (severity : Severity)
    (accepts : String → Bool) : List Finding :=
  match s.name? with
  | none => []
  | some name =>
    if accepts name then [] else [⟨.namingConvention kind name convention severity, s.range⟩]

def agentNaming (agent : Section) : List Finding :=
  match agent.name? with
  | none => []
  | some name =>
    if reservedAgentNames.contains name then [⟨.reservedAgentName name, agent.range⟩]
    else nameFinding agent "agent" "PascalCase" .warning pascalCase.isMatch

def flowNaming (flow : Section) : List Finding :=
  nameFinding flow "flow" "PascalCase" .warning pascalCase.isMatch ++
    (Flow.stateSections flow).flatMap fun state =>
      nameFinding state "state" "PascalCase" .info pascalCase.isMatch

def messagesNaming (messages : Section) : List Finding :=
  messages.children.flatMap fun message =>
    nameFinding message "message" "camelCase or snake_case" .info isMessageName

/-- Every name of a document that departs from the conventions. -/
def naming (doc : Document) : List Finding :=
  doc.agents.flatMap agentNaming ++ (doc.gather "flow").flatMap flowNaming ++
    (doc.gather "messages").flatMap messagesNaming

end Dialogue.Check
