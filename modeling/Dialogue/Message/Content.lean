import Dialogue.Json.Decode
import Dialogue.Json.Printer

/-!
# Message content

What a message shows: a text, a card or a carousel of cards, a file, and suggestions that the user may
tap. All of it has a fixed JSON form in which what is absent is left out.

These are `NormalizedContent` and its parts, `is_recognized`, `derive_postback`, `fill_postbacks` and
`fill_card_postbacks`.
-/
namespace Dialogue

open Json (Decoder)

/-- The longest payload that a suggestion may send back. -/
def maxPostbackLength : Nat := 2048

structure DialAction where
  phoneNumber : String
  deriving DecidableEq, Repr

structure OpenUrlAction where
  url : String
  deriving DecidableEq, Repr

structure SuggestedReply where
  text : String
  postbackData : String
  deriving DecidableEq, Repr

structure SuggestedAction where
  text : String
  postbackData : String
  fallbackUrl : Option String
  dialAction : Option DialAction
  openUrlAction : Option OpenUrlAction
  deriving DecidableEq, Repr

inductive Suggestion where
  | reply (r : SuggestedReply)
  | action (a : SuggestedAction)
  deriving DecidableEq, Repr

structure ContentInfo where
  fileUrl : String
  thumbnailUrl : Option String
  forceRefresh : Option Bool
  altText : Option String
  deriving DecidableEq, Repr

structure UploadedFile where
  fileName : String
  thumbnailUrl : Option String
  thumbnailName : Option String
  deriving DecidableEq, Repr

inductive MediaHeight where
  | short | medium | tall
  deriving DecidableEq, Repr

structure Media where
  height : MediaHeight
  file : Option UploadedFile
  contentInfo : Option ContentInfo
  deriving DecidableEq, Repr

structure CardContent where
  title : Option String
  description : Option String
  media : Option Media
  suggestions : List Suggestion
  deriving DecidableEq, Repr

inductive CardOrientation where
  | vertical | horizontal
  deriving DecidableEq, Repr

inductive ImageAlignment where
  | left | right
  deriving DecidableEq, Repr

inductive CardWidth where
  | small | medium
  deriving DecidableEq, Repr

structure StandaloneCard where
  orientation : CardOrientation
  alignment : Option ImageAlignment
  content : CardContent
  deriving DecidableEq, Repr

structure CarouselCard where
  width : CardWidth
  cards : List CardContent
  deriving DecidableEq, Repr

inductive RichCard where
  | standalone (card : StandaloneCard)
  | carousel (card : CarouselCard)
  deriving DecidableEq, Repr

structure Content where
  text : Option String
  richCard : Option RichCard
  uploadedFile : Option UploadedFile
  contentInfo : Option ContentInfo
  suggestions : List Suggestion
  deriving DecidableEq, Repr

def CardContent.empty : CardContent := ⟨none, none, none, []⟩

/-- A card on its own stands upright. -/
def StandaloneCard.upright (content : CardContent) : StandaloneCard := ⟨.vertical, none, content⟩

namespace Content

def empty : Content := ⟨none, none, none, none, []⟩

/-- Whether there is anything to show. Suggestions alone are not a message. -/
def isRecognized (c : Content) : Bool :=
  c.text.isSome || c.richCard.isSome || c.uploadedFile.isSome || c.contentInfo.isSome

end Content

/-! ## Payloads -/

/-- The payload of a suggestion that brought none: what it is and what it says, cut to length. -/
def derivePostback (action text : String) : String :=
  String.ofList
    ((Json.obj [("action", .str action), ("text", .str text)]).chars.take maxPostbackLength)

/-- Gives a suggestion without a payload the derived one. -/
def Suggestion.fillPostback : Suggestion → Suggestion
  | .reply r =>
    if r.postbackData.isEmpty then .reply { r with postbackData := derivePostback "reply" r.text }
    else .reply r
  | .action a =>
    if a.postbackData.isEmpty then .action { a with postbackData := derivePostback "action" a.text }
    else .action a

def CardContent.fillPostbacks (c : CardContent) : CardContent :=
  { c with suggestions := c.suggestions.map Suggestion.fillPostback }

def RichCard.fillPostbacks : RichCard → RichCard
  | .standalone card => .standalone { card with content := card.content.fillPostbacks }
  | .carousel card => .carousel { card with cards := card.cards.map CardContent.fillPostbacks }

/-! ## JSON form -/

/-- An entry with a text that may be absent. -/
def Json.textEntry (key : String) (s : Option String) : List (String × Json) :=
  Json.entry? key (s.map .str)

namespace DialAction

def toJson (a : DialAction) : Json := .obj [("phoneNumber", .str a.phoneNumber)]

def decoder : Decoder DialAction :=
  .record "struct DialAction" (DialAction.mk <$> .required "phoneNumber" .text)

end DialAction

namespace OpenUrlAction

def toJson (a : OpenUrlAction) : Json := .obj [("url", .str a.url)]

def decoder : Decoder OpenUrlAction :=
  .record "struct OpenUrlAction" (OpenUrlAction.mk <$> .required "url" .text)

end OpenUrlAction

namespace SuggestedReply

def toJson (r : SuggestedReply) : Json :=
  .obj [("text", .str r.text), ("postbackData", .str r.postbackData)]

def decoder : Decoder SuggestedReply :=
  .record "struct SuggestedReply"
    (SuggestedReply.mk <$> .required "text" .text <*> .withDefault "postbackData" .text "")

end SuggestedReply

namespace SuggestedAction

def toJson (a : SuggestedAction) : Json :=
  .obj ([("text", .str a.text), ("postbackData", .str a.postbackData)] ++
    Json.textEntry "fallbackUrl" a.fallbackUrl ++
    Json.entry? "dialAction" (a.dialAction.map DialAction.toJson) ++
    Json.entry? "openUrlAction" (a.openUrlAction.map OpenUrlAction.toJson))

def decoder : Decoder SuggestedAction :=
  .record "struct SuggestedAction"
    (SuggestedAction.mk <$> .required "text" .text <*> .withDefault "postbackData" .text "" <*>
      .maybe "fallbackUrl" .text <*> .maybe "dialAction" DialAction.decoder <*>
      .maybe "openUrlAction" OpenUrlAction.decoder)

end SuggestedAction

namespace Suggestion

def toJson : Suggestion → Json
  | .reply r => .obj [("reply", r.toJson)]
  | .action a => .obj [("action", a.toJson)]

def decoder : Decoder Suggestion :=
  .keyed [("reply", .map .reply SuggestedReply.decoder),
    ("action", .map .action SuggestedAction.decoder)]

end Suggestion

namespace ContentInfo

def toJson (c : ContentInfo) : Json :=
  .obj (("fileUrl", .str c.fileUrl) :: Json.textEntry "thumbnailUrl" c.thumbnailUrl ++
    Json.entry? "forceRefresh" (c.forceRefresh.map .bool) ++ Json.textEntry "altText" c.altText)

def decoder : Decoder ContentInfo :=
  .record "struct ContentInfo"
    (ContentInfo.mk <$> .required "fileUrl" .text <*> .maybe "thumbnailUrl" .text <*>
      .maybe "forceRefresh" .flag <*> .maybe "altText" .text)

end ContentInfo

namespace UploadedFile

def toJson (f : UploadedFile) : Json :=
  .obj (("fileName", .str f.fileName) :: Json.textEntry "thumbnailUrl" f.thumbnailUrl ++
    Json.textEntry "thumbnailName" f.thumbnailName)

def decoder : Decoder UploadedFile :=
  .record "struct UploadedRbmFile"
    (UploadedFile.mk <$> .required "fileName" .text <*> .maybe "thumbnailUrl" .text <*>
      .maybe "thumbnailName" .text)

end UploadedFile

namespace MediaHeight

def toJson : MediaHeight → Json
  | .short => .str "SHORT"
  | .medium => .str "MEDIUM"
  | .tall => .str "TALL"

def decoder : Decoder MediaHeight := .oneOf [("SHORT", .short), ("MEDIUM", .medium), ("TALL", .tall)]

end MediaHeight

namespace Media

def toJson (m : Media) : Json :=
  .obj (("height", m.height.toJson) :: Json.entry? "file" (m.file.map UploadedFile.toJson) ++
    Json.entry? "contentInfo" (m.contentInfo.map ContentInfo.toJson))

def decoder : Decoder Media :=
  .record "struct Media"
    (Media.mk <$> .withDefault "height" MediaHeight.decoder .medium <*>
      .maybe "file" UploadedFile.decoder <*> .maybe "contentInfo" ContentInfo.decoder)

end Media

namespace CardContent

def toJson (c : CardContent) : Json :=
  .obj (Json.textEntry "title" c.title ++ Json.textEntry "description" c.description ++
    Json.entry? "media" (c.media.map Media.toJson) ++
    Json.entryList "suggestions" (c.suggestions.map Suggestion.toJson))

def decoder : Decoder CardContent :=
  .record "struct CardContent"
    (CardContent.mk <$> .maybe "title" .text <*> .maybe "description" .text <*>
      .maybe "media" Media.decoder <*> .withDefault "suggestions" (.list Suggestion.decoder) [])

end CardContent

namespace CardOrientation

def toJson : CardOrientation → Json
  | .vertical => .str "VERTICAL"
  | .horizontal => .str "HORIZONTAL"

def decoder : Decoder CardOrientation := .oneOf [("VERTICAL", .vertical), ("HORIZONTAL", .horizontal)]

end CardOrientation

namespace ImageAlignment

def toJson : ImageAlignment → Json
  | .left => .str "LEFT"
  | .right => .str "RIGHT"

def decoder : Decoder ImageAlignment := .oneOf [("LEFT", .left), ("RIGHT", .right)]

end ImageAlignment

namespace CardWidth

def toJson : CardWidth → Json
  | .small => .str "SMALL"
  | .medium => .str "MEDIUM"

def decoder : Decoder CardWidth := .oneOf [("SMALL", .small), ("MEDIUM", .medium)]

end CardWidth

namespace StandaloneCard

def toJson (c : StandaloneCard) : Json :=
  .obj (("cardOrientation", c.orientation.toJson) ::
    Json.entry? "thumbnailImageAlignment" (c.alignment.map ImageAlignment.toJson) ++
    [("cardContent", c.content.toJson)])

def decoder : Decoder StandaloneCard :=
  .record "struct StandaloneCard"
    (StandaloneCard.mk <$> .withDefault "cardOrientation" CardOrientation.decoder .vertical <*>
      .maybe "thumbnailImageAlignment" ImageAlignment.decoder <*>
      .withDefault "cardContent" CardContent.decoder CardContent.empty)

end StandaloneCard

namespace CarouselCard

def toJson (c : CarouselCard) : Json :=
  .obj [("cardWidth", c.width.toJson), ("cardContents", .arr (c.cards.map CardContent.toJson))]

def decoder : Decoder CarouselCard :=
  .record "struct CarouselCard"
    (CarouselCard.mk <$> .withDefault "cardWidth" CardWidth.decoder .medium <*>
      .required "cardContents" (.list CardContent.decoder))

end CarouselCard

namespace RichCard

def toJson : RichCard → Json
  | .standalone card => .obj [("standaloneCard", card.toJson)]
  | .carousel card => .obj [("carouselCard", card.toJson)]

def decoder : Decoder RichCard :=
  .keyed [("standaloneCard", .map .standalone StandaloneCard.decoder),
    ("carouselCard", .map .carousel CarouselCard.decoder)]

end RichCard

namespace Content

def toJson (c : Content) : Json :=
  .obj (Json.textEntry "text" c.text ++ Json.entry? "richCard" (c.richCard.map RichCard.toJson) ++
    Json.entry? "uploadedRbmFile" (c.uploadedFile.map UploadedFile.toJson) ++
    Json.entry? "contentInfo" (c.contentInfo.map ContentInfo.toJson) ++
    Json.entryList "suggestions" (c.suggestions.map Suggestion.toJson))

def decoder : Decoder Content :=
  .record "struct NormalizedContent"
    (Content.mk <$> .maybe "text" .text <*> .maybe "richCard" RichCard.decoder <*>
      .maybe "uploadedRbmFile" UploadedFile.decoder <*> .maybe "contentInfo" ContentInfo.decoder <*>
      .withDefault "suggestions" (.list Suggestion.decoder) [])

end Content

end Dialogue
