import Dialogue.Document.Value
import Dialogue.Message.Content

/-!
# Message attributes

Each attribute of a message takes the value it is given to a part of the content, or says in a short
sentence why it cannot. The checks and the extraction of messages share these functions, so they agree
on what is malformed.

These are `decode_text`, `decode_description`, `decode_rich_card`, `decode_card_content`, `decode_media`,
`decode_card_width`, `decode_uploaded_file`, `decode_content_info` and `decode_suggestions`.
-/
namespace Dialogue.Message

open Json (Decoder DecodeError)

/-- Why the content of a message cannot be built. -/
inductive ContentError where
  | notString (what kind : String)
  | notStringOrDictionary (what kind : String)
  | widthKind (kind : String)
  | widthName (name : String)
  | notList (kind : String)
  | suggestionKind (index : Nat) (kind : String)
  | suggestion (index : Nat) (error : ContentError)
  | invalid (what : String) (error : DecodeError)
  | card (index : Nat) (error : ContentError)
  | emptyCarousel

def ContentError.message : ContentError → String
  | .notString what kind => what ++ " must be a string, found " ++ kind
  | .notStringOrDictionary what kind => what ++ " must be a string or dictionary, found " ++ kind
  | .widthKind kind => "cardWidth must be SMALL or MEDIUM, found " ++ kind
  | .widthName name => "cardWidth must be SMALL or MEDIUM, found '" ++ name ++ "'"
  | .notList kind => "suggestions must be a list, found " ++ kind
  | .suggestionKind index kind =>
    "suggestion " ++ toString index ++ " must be a string or dictionary, found " ++ kind
  | .suggestion index error => "suggestion " ++ toString index ++ ": " ++ error.message
  | .invalid what error => "invalid " ++ what ++ ": " ++ error.message
  | .card index error => "card " ++ toString index ++ ": " ++ error.message
  | .emptyCarousel => "carousel has no richCard entries"

/-- Decodes the literal of a value. -/
def ofLiteral {α : Type} (d : Decoder α) (what : String) (v : Value) : Except ContentError α :=
  match d.run v.literal with
  | .ok a => .ok a
  | .error e => .error (.invalid what e)

def stringOf (what : String) (v : Value) : Except ContentError String :=
  match v.core with
  | .string value _ => .ok value
  | other => .error (.notString what other.kind)

/-- Where a file is: a string or a type-tagged literal. A dictionary says more than that. -/
def locator? (what : String) (v : Value) : Option (Except ContentError String) :=
  match v.core with
  | .string value _ => some (.ok value)
  | .typeTag _ value _ _ => some (.ok value)
  | .dictionary _ _ => none
  | other => some (.error (.notStringOrDictionary what other.kind))

def textOf (v : Value) : Except ContentError String := stringOf "text" v

def descriptionOf (v : Value) : Except ContentError String := stringOf "description" v

def cardContentOf (v : Value) : Except ContentError CardContent :=
  ofLiteral CardContent.decoder "card content" v

/-- A title, a dictionary that names the kind of card, or the content of a card of its own. -/
def richCardOf (v : Value) : Except ContentError RichCard :=
  match v.core with
  | .string value _ =>
    .ok (.standalone (.upright { CardContent.empty with title := some value }))
  | .dictionary entries range =>
    let keys := entries.map Prod.fst
    if keys.contains "standaloneCard" || keys.contains "carouselCard" then
      RichCard.fillPostbacks <$> ofLiteral RichCard.decoder "richCard" (.dictionary entries range)
    else
      (fun content => .standalone (.upright content.fillPostbacks)) <$>
        cardContentOf (.dictionary entries range)
  | other => .error (.notStringOrDictionary "richCard" other.kind)

def mediaOf (v : Value) : Except ContentError Media :=
  match locator? "media" v with
  | some url => (fun url => ⟨.medium, none, some ⟨url, none, none, none⟩⟩) <$> url
  | none => ofLiteral Media.decoder "media" v

/-- ASCII letters in upper case; all other characters as they are. -/
def upperAscii (s : String) : String :=
  String.ofList (s.toList.map fun c => if 'a' ≤ c && c ≤ 'z' then Char.ofNat (c.toNat - 32) else c)

def cardWidthOf (v : Value) : Except ContentError CardWidth :=
  let named (value : String) : Except ContentError CardWidth :=
    let name := upperAscii (Value.atomName value)
    if name = "SMALL" then .ok .small
    else if name = "MEDIUM" then .ok .medium
    else .error (.widthName name)
  match v.core with
  | .string value _ => named value
  | .atom value _ => named value
  | .identifier value _ => named value
  | other => .error (.widthKind other.kind)

def uploadedFileOf (v : Value) : Except ContentError UploadedFile :=
  match locator? "uploadedRbmFile" v with
  | some name => (fun name => ⟨name, none, none⟩) <$> name
  | none => ofLiteral UploadedFile.decoder "uploadedRbmFile" v

def contentInfoOf (v : Value) : Except ContentError ContentInfo :=
  match locator? "contentInfo" v with
  | some url => (fun url => ⟨url, none, none, none⟩) <$> url
  | none => ofLiteral ContentInfo.decoder "contentInfo" v

/-- One suggestion: a bare string is a reply. `index` counts from one. -/
def suggestionOf (index : Nat) (v : Value) : Except ContentError Suggestion :=
  match v.core with
  | .string value _ => .ok (.reply ⟨value, ""⟩)
  | .dictionary entries range =>
    match ofLiteral Suggestion.decoder "suggestion" (.dictionary entries range) with
    | .ok s => .ok s
    | .error e => .error (.suggestion index e)
  | other => .error (.suggestionKind index other.kind)

/-- The suggestions of the items, numbered from `index` on. -/
def suggestionsFrom (index : Nat) : List Value → Except ContentError (List Suggestion)
  | [] => .ok []
  | item :: rest => do
    let s ← suggestionOf index item
    let rest ← suggestionsFrom (index + 1) rest
    .ok (s :: rest)

/-- A list of suggestions, or a single one. Those without a payload get one. -/
def suggestionsOf (v : Value) : Except ContentError (List Suggestion) := do
  let items ←
    match v.core with
    | .list items _ => .ok items
    | .string value range => .ok [.string value range]
    | .dictionary entries range => .ok [.dictionary entries range]
    | other => .error (.notList other.kind)
  (·.map Suggestion.fillPostback) <$> suggestionsFrom 1 items

end Dialogue.Message
