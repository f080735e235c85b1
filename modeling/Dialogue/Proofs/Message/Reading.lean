import Dialogue.Message.Build
import Dialogue.Proofs.Document.Values

/-!
# What the readers of a message look at

The content of a message is read from literals and from the cores of values, and of a core no more than its kind,
its text, its items and its keys is looked at. A change of values that keeps these is not noticed by any reader, so
it changes neither the content of a message nor the error that is found in it.
-/
namespace Dialogue

namespace Value

/-- Two cores that no reader tells apart, if their literals are the same. The items of a list are changed by `f`. -/
inductive Alike (f : Value → Value) : Value → Value → Prop
  | string (value : String) (range range' : Option Range) :
    Alike f (.string value range) (.string value range')
  | number (value value' : Float) (range range' : Option Range) :
    Alike f (.number value range) (.number value' range')
  | boolean (value value' : Bool) (range range' : Option Range) :
    Alike f (.boolean value range) (.boolean value' range')
  | null (range range' : Option Range) : Alike f (.null range) (.null range')
  | atom {value value' : String} (range range' : Option Range) (named : atomName value' = atomName value) :
    Alike f (.atom value range) (.atom value' range')
  | identifier (value : String) (range range' : Option Range) :
    Alike f (.identifier value range) (.identifier value range')
  | reference (name name' : String) (range range' : Option Range) :
    Alike f (.reference name range) (.reference name' range')
  | list (items : List Value) (range range' : Option Range) :
    Alike f (.list items range) (.list (items.map f) range')
  | dictionary {entries entries' : List (String × Value)} (range range' : Option Range)
    (keys : entries'.map Prod.fst = entries.map Prod.fst) :
    Alike f (.dictionary entries range) (.dictionary entries' range')
  | typeTag (tag tag' value : String) (qualifier qualifier' : Option String) (range range' : Option Range) :
    Alike f (.typeTag tag value qualifier range) (.typeTag tag' value qualifier' range')

/-- A change of values that their readers do not notice. -/
structure Unnoticed (f : Value → Value) : Prop where
  literal : ∀ v, (f v).literal = v.literal
  core : ∀ v, Alike f v.core (f v).core

/-- It is enough to look at values without a context if the change passes through contexts. -/
theorem Unnoticed.of_bare {f : Value → Value} (literal : ∀ v, (f v).literal = v.literal)
    (core : ∀ v, (f v).core = f v.core) (bare : ∀ v, v.isContextualized = false → Alike f v (f v)) :
    Unnoticed f where
  literal := literal
  core v := by
    rw [core]
    exact bare v.core v.isContextualized_core

end Value

namespace Message

open Json (Decoder)
open Value (Alike Unnoticed)

variable {f : Value → Value}

/-! ## Attributes -/

theorem ofLiteral_congr {α : Type} (d : Decoder α) (what : String) {v w : Value}
    (same : w.literal = v.literal) : ofLiteral d what w = ofLiteral d what v := by
  rw [ofLiteral, ofLiteral, same]

theorem suggestionOf_dictionary {entries entries' : List (String × Value)} {range range' : Option Range}
    (same : (Value.dictionary entries' range').literal = (Value.dictionary entries range).literal)
    (index : Nat) :
    suggestionOf index (.dictionary entries' range') = suggestionOf index (.dictionary entries range) := by
  simp only [suggestionOf, Value.core, ofLiteral_congr _ _ same]

section
variable (unnoticed : Unnoticed f)
include unnoticed

theorem literal_core_congr (v : Value) : (f v).core.literal = v.core.literal := by
  rw [Value.literal_core, Value.literal_core, unnoticed.literal]

theorem stringOf_congr (what : String) (v : Value) : stringOf what (f v) = stringOf what v := by
  have alike := unnoticed.core v
  unfold stringOf
  generalize v.core = before, (f v).core = after at alike ⊢
  cases alike <;> rfl

theorem locator?_congr (what : String) (v : Value) : locator? what (f v) = locator? what v := by
  have alike := unnoticed.core v
  unfold locator?
  generalize v.core = before, (f v).core = after at alike ⊢
  cases alike <;> rfl

theorem richCardOf_congr (v : Value) : richCardOf (f v) = richCardOf v := by
  have alike := unnoticed.core v
  have same := literal_core_congr unnoticed v
  unfold richCardOf
  generalize v.core = before, (f v).core = after at alike same ⊢
  cases alike with
  | dictionary range range' keys =>
    simp only [keys, cardContentOf, ofLiteral_congr _ _ same]
  | _ => rfl

theorem cardWidthOf_congr (v : Value) : cardWidthOf (f v) = cardWidthOf v := by
  have alike := unnoticed.core v
  unfold cardWidthOf
  generalize v.core = before, (f v).core = after at alike ⊢
  cases alike with
  | atom range range' named => simp only [named]
  | _ => rfl

theorem suggestionOf_congr (index : Nat) (v : Value) : suggestionOf index (f v) = suggestionOf index v := by
  have alike := unnoticed.core v
  have same := literal_core_congr unnoticed v
  unfold suggestionOf
  generalize v.core = before, (f v).core = after at alike same ⊢
  cases alike with
  | dictionary range range' keys => exact suggestionOf_dictionary same index
  | _ => rfl

theorem suggestionsFrom_congr (index : Nat) (items : List Value) :
    suggestionsFrom index (items.map f) = suggestionsFrom index items := by
  induction items generalizing index with
  | nil => rfl
  | cons item rest ih =>
    rw [List.map_cons, suggestionsFrom, suggestionsFrom, suggestionOf_congr unnoticed, ih]

theorem suggestionsOf_congr (v : Value) : suggestionsOf (f v) = suggestionsOf v := by
  have alike := unnoticed.core v
  have same := literal_core_congr unnoticed v
  unfold suggestionsOf
  generalize v.core = before, (f v).core = after at alike same ⊢
  cases alike with
  | list items range range' =>
    exact congrArg (Functor.map fun found => found.map Suggestion.fillPostback)
      (suggestionsFrom_congr unnoticed 1 items)
  | @dictionary entries entries' range range' keys =>
    have single : suggestionsFrom 1 [.dictionary entries' range'] =
        suggestionsFrom 1 [.dictionary entries range] := by
      simp only [suggestionsFrom, suggestionOf_dictionary same]
    exact congrArg (Functor.map fun found => found.map Suggestion.fillPostback) single
  | _ => rfl

/-! ## Sections -/

theorem addNamed_congr (d : Draft) (key : String) (v : Value) : d.addNamed (key, f v) = d.addNamed (key, v) := by
  simp only [Draft.addNamed, textOf, descriptionOf, mediaOf, uploadedFileOf, contentInfoOf,
    stringOf_congr unnoticed, richCardOf_congr unnoticed, suggestionsOf_congr unnoticed,
    locator?_congr unnoticed, ofLiteral_congr _ _ (unnoticed.literal v)]

end

/-- Two sections of one kind that give the same values, but for a change of each. -/
structure GivesAlike (f : Value → Value) (s s' : Section) : Prop where
  kind : s'.kind = s.kind
  shorthand : shorthand? s' = (shorthand? s).map f
  named : s'.named = s.named.map fun entry => (entry.1, f entry.2)
  attributes : (s'.attributes.map fun a => (a.key, a.value)) = s.attributes.map fun a => (a.key, f a.value)

/-- The shorthand changes with the positional parameters and with the strings of the body. -/
theorem shorthand?_congr {s s' : Section} {g : Node → Node} (kind : s'.kind = s.kind)
    (positional : s'.positional? = s.positional?.map f) (body : s'.body = s.body.map g)
    (each : ∀ n, bareString? (g n) = (bareString? n).map f) :
    shorthand? s' = (shorthand? s).map f := by
  have bare : s'.body.findSome? bareString? = (s.body.findSome? bareString?).map f := by
    rw [body, List.findSome?_map, List.map_findSome?]
    congr 1
    funext n
    exact each n
  have sameKind (name : String) : s'.is name = s.is name := by rw [Section.is, Section.is, kind]
  unfold shorthand?
  rw [positional, sameKind, sameKind, bare]
  cases s.positional? with
  | some v => rfl
  | none =>
    change (if s.is "text" || s.is "message" then _ else none) =
      (if s.is "text" || s.is "message" then _ else none).map f
    split <;> rfl

theorem value_attribute? (s : Section) (key : String) :
    (s.attribute? key).map Attribute.value =
      ((s.attributes.map fun a => (a.key, a.value)).find? fun entry => entry.1 == key).map Prod.snd := by
  rw [Section.attribute?, List.find?_map, Option.map_map]
  rfl

section
variable (unnoticed : Unnoticed f) {s s' : Section}
include unnoticed

theorem openDraft_congr (alike : GivesAlike f s s') : openDraft s' = openDraft s := by
  unfold openDraft
  rw [alike.shorthand, alike.kind]
  cases shorthand? s with
  | none => rfl
  | some v =>
    simp only [Option.map_some, richCardOf_congr unnoticed, textOf, stringOf_congr unnoticed]

theorem draft_congr (alike : GivesAlike f s s') : draft s' = draft s := by
  have values : namedValues s' = (namedValues s).map fun entry => (entry.1, f entry.2) := by
    rw [namedValues, namedValues, alike.named, alike.attributes, List.map_append, List.map_map]
    rfl
  simp only [draft, openDraft_congr unnoticed alike, values, List.foldlM_map, addNamed_congr unnoticed]

theorem plainContent_congr (alike : GivesAlike f s s') : plainContent s' = plainContent s := by
  rw [plainContent, plainContent, draft_congr unnoticed alike]

theorem cardsFrom_congr {g : Section → Section} (each : ∀ c, GivesAlike f c (g c)) (index : Nat)
    (sections : List Section) : cardsFrom index (sections.map g) = cardsFrom index sections := by
  induction sections generalizing index with
  | nil => rfl
  | cons c rest ih =>
    rw [List.map_cons, cardsFrom, cardsFrom, plainContent_congr unnoticed (each c), ih]

theorem carouselWidth_congr (alike : GivesAlike f s s') : carouselWidth s' = carouselWidth s := by
  have found : (s'.attribute? "cardWidth").map Attribute.value =
      (s.attribute? "cardWidth").map fun a => f a.value := by
    rw [value_attribute?, alike.attributes, Section.attribute?, List.find?_map, Option.map_map]
    rfl
  unfold carouselWidth
  cases held : s.attribute? "cardWidth" with
  | none =>
    rw [held] at found
    rw [Option.map_eq_none_iff.mp found]
  | some a =>
    rw [held] at found
    obtain ⟨a', held', same⟩ := Option.map_eq_some_iff.mp found
    rw [held']
    dsimp only
    rw [same, cardWidthOf_congr unnoticed]

/-- A change of values that no reader notices has no say in what a message shows, nor in what is wrong with it. -/
theorem build_congr {g : Section → Section} (each : ∀ c, GivesAlike f c (g c))
    (alike : GivesAlike f s s') (cards : s'.childrenOf "richCard" = (s.childrenOf "richCard").map g) :
    build s' = build s := by
  have sameCarousel : carousel s' = carousel s := by
    rw [carousel, carousel, carouselWidth_congr unnoticed alike, cards, cardsFrom_congr unnoticed each]
  have sameKind : s'.is "carousel" = s.is "carousel" := by rw [Section.is, Section.is, alike.kind]
  rw [build, build, sameKind, draft_congr unnoticed alike, sameCarousel, plainContent_congr unnoticed alike]

end

end Message

end Dialogue
