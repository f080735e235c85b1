import Dialogue.Document.Section
import Dialogue.Message.Attribute

/-!
# The content of a message section

A section may give its content in shorthand (`text Welcome "Hello"`), by named parameters and by
attributes. The first value of a field stays; a later value that differs from it is a conflict, which is
recorded and changes nothing. A malformed value fails the whole section.

This is `build_content` with `apply_attribute`, `set_once` and `finish`, and `build_carousel`. The buffer
that conflicts are put into is handed on there and returned here.
-/
namespace Dialogue.Message

/-- A value that was given although the field had another one. -/
inductive Conflict where
  | alreadySet (field : String)
  | suggestionsTwice
  deriving DecidableEq, Repr

def Conflict.message : Conflict → String
  | .alreadySet field => field ++ " already set; keeping the first value"
  | .suggestionsTwice => "suggestions defined twice; keeping the first"

/-- A message in the making. Description and media belong to a card that may come later. -/
structure Draft where
  content : Content
  description : Option String
  media : Option Media
  conflicts : List Conflict

def Draft.empty : Draft := ⟨Content.empty, none, none, []⟩

/-- Writes to a field that is set at most once, and says whether that is a conflict. -/
def setOnce {α : Type} [DecidableEq α] (slot : Option α) (value : α) (field : String) :
    Option α × List Conflict :=
  match slot with
  | none => (some value, [])
  | some existing => (some existing, if existing = value then [] else [.alreadySet field])

namespace Draft

def addText (d : Draft) (text : String) : Draft :=
  let (slot, new) := setOnce d.content.text text "text"
  { d with content := { d.content with text := slot }, conflicts := d.conflicts ++ new }

def addRichCard (d : Draft) (card : RichCard) : Draft :=
  let (slot, new) := setOnce d.content.richCard card "richCard"
  { d with content := { d.content with richCard := slot }, conflicts := d.conflicts ++ new }

def addUploadedFile (d : Draft) (file : UploadedFile) : Draft :=
  let (slot, new) := setOnce d.content.uploadedFile file "uploadedRbmFile"
  { d with content := { d.content with uploadedFile := slot }, conflicts := d.conflicts ++ new }

def addContentInfo (d : Draft) (info : ContentInfo) : Draft :=
  let (slot, new) := setOnce d.content.contentInfo info "contentInfo"
  { d with content := { d.content with contentInfo := slot }, conflicts := d.conflicts ++ new }

def addDescription (d : Draft) (description : String) : Draft :=
  let (slot, new) := setOnce d.description description "description"
  { d with description := slot, conflicts := d.conflicts ++ new }

def addMedia (d : Draft) (media : Media) : Draft :=
  let (slot, new) := setOnce d.media media "media"
  { d with media := slot, conflicts := d.conflicts ++ new }

/-- An empty list of suggestions counts as none. -/
def addSuggestions (d : Draft) (suggestions : List Suggestion) : Draft :=
  if d.content.suggestions.isEmpty then
    { d with content := { d.content with suggestions := suggestions } }
  else if d.content.suggestions = suggestions then d
  else { d with conflicts := d.conflicts ++ [.suggestionsTwice] }

/-- The effect of one named parameter or attribute. Names that are not fields are passed over. -/
def addNamed (d : Draft) (entry : String × Value) : Except ContentError Draft :=
  match entry.1 with
  | "text" => d.addText <$> textOf entry.2
  | "richCard" => d.addRichCard <$> richCardOf entry.2
  | "suggestions" => d.addSuggestions <$> suggestionsOf entry.2
  | "uploadedRbmFile" => d.addUploadedFile <$> uploadedFileOf entry.2
  | "contentInfo" => d.addContentInfo <$> contentInfoOf entry.2
  | "description" => d.addDescription <$> descriptionOf entry.2
  | "media" => d.addMedia <$> mediaOf entry.2
  | _ => .ok d

/-- Puts description and media into a card of its own that has none. -/
def refine (d : Draft) (card : StandaloneCard) : StandaloneCard × List Conflict :=
  let (description, first) :=
    match d.description with
    | some value => setOnce card.content.description value "description"
    | none => (card.content.description, [])
  let (media, second) :=
    match d.media with
    | some value => setOnce card.content.media value "media"
    | none => (card.content.media, [])
  ({ card with content := { card.content with description := description, media := media } },
    first ++ second)

/-- The finished content and all conflicts. -/
def finish (d : Draft) : Content × List Conflict :=
  match d.content.richCard with
  | some (.standalone card) =>
    let (card, new) := d.refine card
    ({ d.content with richCard := some (.standalone card) }, d.conflicts ++ new)
  | _ => (d.content, d.conflicts)

end Draft

/-- The value of a string that stands by itself in a body. -/
def bareString? : Node → Option Value
  | .value (.string value range) => some (.string value range)
  | _ => none

/-- The value that a section gives in shorthand: its first positional parameter or, for a text, the
first string in its body. -/
def shorthand? (s : Section) : Option Value :=
  match s.positional? with
  | some v => some v
  | none => if s.is "text" || s.is "message" then s.body.findSome? bareString? else none

/-- What the shorthand says. A carousel has none. -/
def openDraft (s : Section) : Except ContentError Draft :=
  match shorthand? s with
  | none => .ok .empty
  | some v =>
    match s.kind with
    | "richCard" =>
      (fun card => { Draft.empty with content := { Content.empty with richCard := some card } }) <$>
        richCardOf v
    | "carousel" => .ok .empty
    | _ =>
      (fun text => { Draft.empty with content := { Content.empty with text := some text } }) <$>
        textOf v

/-- The named parameters, then the attributes. -/
def namedValues (s : Section) : List (String × Value) :=
  s.named ++ s.attributes.map fun a => (a.key, a.value)

/-- Shorthand and named values together. -/
def draft (s : Section) : Except ContentError Draft := do
  (namedValues s).foldlM Draft.addNamed (← openDraft s)

/-- The content of a section that is not a carousel. -/
def plainContent (s : Section) : Except ContentError (Content × List Conflict) :=
  Draft.finish <$> draft s

/-- The card that an entry of a carousel makes. Suggestions of the entry belong to the card. -/
def cardOf (content : Content) : CardContent :=
  let card :=
    match content.richCard with
    | some (.standalone card) => card.content
    | _ => CardContent.empty
  if card.suggestions.isEmpty then { card with suggestions := content.suggestions } else card

/-- The cards of a carousel, numbered from `index` on, with their conflicts. -/
def cardsFrom (index : Nat) : List Section → Except ContentError (List CardContent × List Conflict)
  | [] => .ok ([], [])
  | s :: rest =>
    match plainContent s with
    | .error e => .error (.card index e)
    | .ok (content, new) => do
      let (cards, later) ← cardsFrom (index + 1) rest
      .ok (cardOf content :: cards, new ++ later)

/-- The width that a carousel asks for. -/
def carouselWidth (s : Section) : Except ContentError CardWidth :=
  match s.attribute? "cardWidth" with
  | some a => cardWidthOf a.value
  | none => .ok .medium

/-- The cards of a carousel section. There has to be one. -/
def carousel (s : Section) : Except ContentError (RichCard × List Conflict) := do
  let width ← carouselWidth s
  let (cards, conflicts) ← cardsFrom 1 (s.childrenOf "richCard")
  if cards.isEmpty then .error .emptyCarousel
  else .ok (.carousel ⟨width, cards⟩, conflicts)

/-- The content of a message section and the conflicts met on the way. -/
def build (s : Section) : Except ContentError (Content × List Conflict) :=
  if s.is "carousel" then do
    let d ← draft s
    let (card, new) ← carousel s
    .ok (({ d with conflicts := d.conflicts ++ new }).addRichCard card).finish
  else plainContent s

/-- The content of a message section. -/
def content (s : Section) : Except ContentError Content := Prod.fst <$> build s

end Dialogue.Message
