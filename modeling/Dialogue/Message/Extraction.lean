import Dialogue.Document.Wire
import Dialogue.Message.Build

/-!
# The message catalog

Messages are taken from the document independently of the checks. Each candidate section is looked at by
itself: one that is malformed costs one error and nothing else. When a document declares no message
where messages belong, the whole document is scanned down to a given depth.

This is `extract_messages` with `primary_candidates`, `scan` and `extract_node`, and `message_content`.
What is logged about skipped messages is not modelled.
-/
namespace Dialogue.Message

open Json (Decoder)

/-- The deepest level that the scan of a document looks at. -/
def maxScanDepth : Nat := 20

structure Extracted where
  id : String
  content : Content
  order : Nat
  location : Option Range

structure Extraction where
  messages : List Extracted
  errors : List String

/-- What one section yields. A section may yield content and errors at once. -/
structure Outcome where
  content : Option Content
  errors : List String

def lineLabel (s : Section) : String :=
  match s.line? with
  | some line => "line " ++ toString line
  | none => "line unknown"

def failureText (s : Section) (reason : String) : String :=
  "Failed to extract message at " ++ lineLabel s ++ ": " ++ reason

def conflictText (s : Section) (c : Conflict) : String :=
  "Conflicting value in message at " ++ lineLabel s ++ ": " ++ c.message

/-- The outcome of one section. Content with nothing to show is no message. -/
def extractNode (s : Section) : Outcome :=
  match build s with
  | .ok (content, conflicts) =>
    ⟨if content.isRecognized then some content else none, conflicts.map (conflictText s)⟩
  | .error e => ⟨none, [failureText s e.message]⟩

/-- The messages that a top-level section declares: itself, or what its `messages` sections hold. -/
def candidatesOf (s : Section) : List Section :=
  let containers :=
    if s.is "messages" then [s] else if s.is "agent" then s.childrenOf "messages" else []
  (if s.isMessage then [s] else []) ++
    containers.flatMap fun m => m.children.filter Section.isMessage

/-- The messages that stand where messages belong. -/
def primaryCandidates (doc : Document) : List Section := doc.sections.flatMap candidatesOf

mutual

/-- The outermost messages at or below a section, at most `budget` levels down. -/
def scan (budget : Nat) : Section → List Section
  | ⟨kind, identifier, parameters, body, range⟩ =>
    if Section.messageKinds.contains kind then [⟨kind, identifier, parameters, body, range⟩]
    else
      match budget with
      | 0 => []
      | budget + 1 => scanBody budget body

def scanBody (budget : Nat) : List Node → List Section
  | [] => []
  | .child s :: rest => scan budget s ++ scanBody budget rest
  | _ :: rest => scanBody budget rest

end

/-- The sections that are looked at; the scan only runs when nothing stands where it belongs. -/
def candidates (doc : Document) (scanDepth : Nat) : List Section :=
  match primaryCandidates doc with
  | [] => doc.sections.flatMap (scan (min scanDepth maxScanDepth))
  | found => found

/-- Adds what one section yields. A message without a name is called by its number. -/
def Extraction.add (e : Extraction) (s : Section) : Extraction :=
  let outcome := extractNode s
  let order := e.messages.length
  let message :=
    outcome.content.map fun content =>
      (⟨s.name?.getD ("message_" ++ toString order), content, order, s.range⟩ : Extracted)
  ⟨e.messages ++ message.toList, e.errors ++ outcome.errors⟩

/-- Every message that can be recognized, and what went wrong with the others. -/
def extract (doc : Document) (scanDepth : Nat) : Extraction :=
  (candidates doc scanDepth).foldl Extraction.add ⟨[], []⟩

/-! ## JSON form -/

namespace Extracted

def toJson (m : Extracted) : Json :=
  .obj ([("id", .str m.id), ("content", m.content.toJson), ("order", .nat m.order)] ++
    Json.entry? "location" (m.location.map Range.toJson))

def decoder : Decoder Extracted :=
  .record "struct ExtractedMessage"
    (Extracted.mk <$> .required "id" .text <*> .required "content" Content.decoder <*>
      .required "order" .size <*> .maybe "location" Range.decoder)

end Extracted

namespace Extraction

def toJson (e : Extraction) : Json :=
  .obj [("messages", .arr (e.messages.map Extracted.toJson)), ("errors", .arr (e.errors.map .str))]

end Extraction

end Dialogue.Message
