import Dialogue.Message.Content
import Dialogue.Proofs.Json.Decode

/-!
# The JSON form of messages

The form of every card, suggestion and file is decoded to what was written, whatever of it is left out.
Each proof follows the decoder field by field.
-/
namespace Dialogue

open Json (Decoder Fields)
open Json.Fields (encodes_field encodes_maybe encodes_items)
open Json.Decoder (accepts_record accepts_text accepts_flag accepts_oneOf accepts_keyed accepts_list)

theorem Json.encodes_textEntry (name : String) (value : Option String) :
    (Fields.maybe name .text).Encodes (Json.textEntry name value) value :=
  encodes_maybe value accepts_text nofun

/-! ## Suggestions -/

theorem DialAction.accepts (a : DialAction) : decoder.Accepts a.toJson a :=
  accepts_record ((encodes_field none (accepts_text a.phoneNumber)).map DialAction.mk) (by decide)

theorem OpenUrlAction.accepts (a : OpenUrlAction) : decoder.Accepts a.toJson a :=
  accepts_record ((encodes_field none (accepts_text a.url)).map OpenUrlAction.mk) (by decide)

theorem SuggestedReply.accepts (r : SuggestedReply) : decoder.Accepts r.toJson r :=
  accepts_record
    ((encodes_field none (accepts_text r.text)).map SuggestedReply.mk
      |>.seq (encodes_field (some "") (accepts_text r.postbackData)))
    (by decide)

theorem SuggestedAction.accepts (a : SuggestedAction) : decoder.Accepts a.toJson a :=
  accepts_record
    ((encodes_field none (accepts_text a.text)).map SuggestedAction.mk
      |>.seq (encodes_field (some "") (accepts_text a.postbackData))
      |>.seq (Json.encodes_textEntry _ a.fallbackUrl)
      |>.seq (encodes_maybe a.dialAction DialAction.accepts nofun)
      |>.seq (encodes_maybe a.openUrlAction OpenUrlAction.accepts nofun))
    (by decide)

theorem Suggestion.accepts : ∀ s : Suggestion, decoder.Accepts s.toJson s
  | .reply r => accepts_keyed rfl (r.accepts.map Suggestion.reply)
  | .action a => accepts_keyed rfl (a.accepts.map Suggestion.action)

/-! ## Files and media -/

theorem ContentInfo.accepts (c : ContentInfo) : decoder.Accepts c.toJson c :=
  accepts_record
    ((encodes_field none (accepts_text c.fileUrl)).map ContentInfo.mk
      |>.seq (Json.encodes_textEntry _ c.thumbnailUrl)
      |>.seq (encodes_maybe c.forceRefresh accepts_flag nofun)
      |>.seq (Json.encodes_textEntry _ c.altText))
    (by decide)

theorem UploadedFile.accepts (f : UploadedFile) : decoder.Accepts f.toJson f :=
  accepts_record
    ((encodes_field none (accepts_text f.fileName)).map UploadedFile.mk
      |>.seq (Json.encodes_textEntry _ f.thumbnailUrl)
      |>.seq (Json.encodes_textEntry _ f.thumbnailName))
    (by decide)

theorem MediaHeight.accepts (h : MediaHeight) : decoder.Accepts h.toJson h := by
  cases h <;> exact accepts_oneOf (by decide)

theorem Media.accepts (m : Media) : decoder.Accepts m.toJson m :=
  accepts_record
    ((encodes_field (some MediaHeight.medium) m.height.accepts).map Media.mk
      |>.seq (encodes_maybe m.file UploadedFile.accepts nofun)
      |>.seq (encodes_maybe m.contentInfo ContentInfo.accepts nofun))
    (by decide)

/-! ## Cards -/

theorem CardContent.accepts (c : CardContent) : decoder.Accepts c.toJson c :=
  accepts_record
    ((Json.encodes_textEntry _ c.title).map CardContent.mk
      |>.seq (Json.encodes_textEntry _ c.description)
      |>.seq (encodes_maybe c.media Media.accepts nofun)
      |>.seq (encodes_items c.suggestions fun s _ => s.accepts))
    (by decide)

theorem CardOrientation.accepts (o : CardOrientation) : decoder.Accepts o.toJson o := by
  cases o <;> exact accepts_oneOf (by decide)

theorem ImageAlignment.accepts (a : ImageAlignment) : decoder.Accepts a.toJson a := by
  cases a <;> exact accepts_oneOf (by decide)

theorem CardWidth.accepts (w : CardWidth) : decoder.Accepts w.toJson w := by
  cases w <;> exact accepts_oneOf (by decide)

theorem StandaloneCard.accepts (c : StandaloneCard) : decoder.Accepts c.toJson c :=
  accepts_record
    ((encodes_field (some CardOrientation.vertical) c.orientation.accepts).map StandaloneCard.mk
      |>.seq (encodes_maybe c.alignment ImageAlignment.accepts fun a => by cases a <;> nofun)
      |>.seq (encodes_field (some CardContent.empty) c.content.accepts))
    (by decide)

theorem CarouselCard.accepts (c : CarouselCard) : decoder.Accepts c.toJson c :=
  accepts_record
    ((encodes_field (some CardWidth.medium) c.width.accepts).map CarouselCard.mk
      |>.seq (encodes_field none (accepts_list c.cards fun card _ => card.accepts)))
    (by decide)

theorem RichCard.accepts : ∀ card : RichCard, decoder.Accepts card.toJson card
  | .standalone card => accepts_keyed rfl (card.accepts.map RichCard.standalone)
  | .carousel card => accepts_keyed rfl (card.accepts.map RichCard.carousel)

theorem Content.accepts (c : Content) : decoder.Accepts c.toJson c :=
  accepts_record
    ((Json.encodes_textEntry _ c.text).map Content.mk
      |>.seq (encodes_maybe c.richCard RichCard.accepts fun card => by cases card <;> nofun)
      |>.seq (encodes_maybe c.uploadedFile UploadedFile.accepts nofun)
      |>.seq (encodes_maybe c.contentInfo ContentInfo.accepts nofun)
      |>.seq (encodes_items c.suggestions fun s _ => s.accepts))
    (by decide)

end Dialogue
