import Dialogue.Proofs.Document.Values
import Dialogue.Proofs.Message.Cards

/-!
# Answerable suggestions

An author offers suggestions as bare strings, as dictionaries, inside a card or inside the cards of a carousel. What
they offer is read here off the values alone: what it is, what it says, and the payload, which may be left out. A
message shows the offers as they stand and where they stand, except that an offer without a payload gets the derived
one.
-/
namespace Dialogue

/-- What an author offers: a reply or an action, what it says, and the payload. No payload is the empty one. -/
structure Offer where
  kind : String
  text : String
  payload : String
  deriving DecidableEq, Repr

/-- An offer whose payload is left out is answered by the derived one. -/
def Offer.answered (o : Offer) : Offer :=
  if o.payload = "" then { o with payload := derivePostback o.kind o.text } else o

namespace Json

def string? : Json → Option String
  | .str s => some s
  | _ => none

/-- The offer that a tree makes: its key says what it is. -/
def offer? : Json → Option Offer
  | .obj [(kind, body)] => do
    let text ← (body.member 0 "text").bind string?
    let payload ← ((body.member 1 "postbackData").getD (.str "")).string?
    some ⟨kind, text, payload⟩
  | _ => none

/-- The offers that stand in the content of a card. There are none where no suggestions stand. -/
def CardOffers (card : Json) (offers : List Offer) : Prop :=
  ∃ items, (card.member 3 "suggestions").getD (.arr []) = .arr items ∧ items.mapM offer? = some offers

/-- The contents of the cards inside a tree, counted from 0: the tree itself, the content of a card of its own, which
may be left out, or those of a carousel. -/
inductive CardAt : Json → Nat → Json → Prop
  | plain (content : Json) : CardAt content 0 content
  | standalone (card : Json) :
    CardAt (.obj [("standaloneCard", card)]) 0 ((card.member 2 "cardContent").getD (.obj []))
  | carousel {card content : Json} {cards : List Json} {i : Nat}
    (inside : card.member 1 "cardContents" = some (.arr cards)) (listed : cards[i]? = some content) :
    CardAt (.obj [("carouselCard", card)]) i content

end Json

namespace Value

/-- The items of a list; any other value stands for itself. -/
def listed (v : Value) : List Value :=
  match v.core with
  | .list items _ => items
  | other => [other]

/-- The items of the first of the values that lists any. -/
def firstListed (values : List Value) : List Value :=
  ((values.find? fun v => !v.listed.isEmpty).map listed).getD []

/-- The offer that a value makes: a bare string is a reply. -/
def offer? (v : Value) : Option Offer :=
  match v.core with
  | .string text _ => some ⟨"reply", text, ""⟩
  | _ => v.literal.offer?

end Value

/-! ## Payloads -/

theorem derivePostback_ne_empty (action text : String) : derivePostback action text ≠ "" := by
  intro empty
  have noLetters := congrArg String.toList empty
  simp [derivePostback, maxPostbackLength, Json.chars] at noLetters

theorem length_derivePostback_le (action text : String) : (derivePostback action text).length ≤ 2048 := by
  rw [derivePostback, String.length_ofList]
  exact List.length_take_le _ _

theorem Offer.answered_payload_ne_empty (o : Offer) : o.answered.payload ≠ "" := by
  unfold answered
  split
  · exact derivePostback_ne_empty o.kind o.text
  · assumption

namespace Suggestion

/-- A suggestion as the offer that it stands for. -/
def offer : Suggestion → Offer
  | .reply r => ⟨"reply", r.text, r.postbackData⟩
  | .action a => ⟨"action", a.text, a.postbackData⟩

theorem offer_fillPostback (g : Suggestion) : g.fillPostback.offer = g.offer.answered := by
  cases g with
  | reply r =>
    by_cases empty : r.postbackData = ""
    · simp [fillPostback, offer, Offer.answered, empty]
    · simp [fillPostback, offer, Offer.answered, empty]
  | action a =>
    by_cases empty : a.postbackData = ""
    · simp [fillPostback, offer, Offer.answered, empty]
    · simp [fillPostback, offer, Offer.answered, empty]

theorem offer_fillPostbacks (list : List Suggestion) :
    (list.map fillPostback).map offer = (list.map offer).map Offer.answered := by
  simp [Function.comp_def, offer_fillPostback]

end Suggestion

/-! ## Suggestions as they are decoded -/

section
open Json Json.Decoder Json.Fields

theorem offer_of_taken {α : Type} {make : String → String → α} {origin : Origin} {body : Json} {a : α}
    (taken : (make <$> required "text" text <*> withDefault "postbackData" text "").Taken origin 0 body a)
    (kind : String) :
    ∃ wording payload, make wording payload = a ∧
      (obj [(kind, body)]).offer? = some ⟨kind, wording, payload⟩ := by
  obtain ⟨given, payload, first, second, rfl⟩ := taken.seq
  obtain ⟨wording, own, rfl⟩ := first.map
  refine ⟨wording, payload, rfl, ?_⟩
  have found : body.member 0 "text" = some (.str wording) := by
    rcases own.field with ⟨_, absent⟩ | ⟨part, found, decoded⟩
    · cases absent
    · rw [found, text_ok decoded]
  have held : (body.member 1 "postbackData").getD (.str "") = .str payload := by
    rcases (second ((sequential_field _ _ _).map _)).field with ⟨missing, absent⟩ | ⟨part, held, decoded⟩
    · cases absent
      change body.member 1 "postbackData" = none at missing
      rw [missing]
      rfl
    · change body.member 1 "postbackData" = some part at held
      rw [held, text_ok decoded]
      rfl
  simp [offer?, found, held, string?]

theorem offer_of_decoded {origin : Origin} {tree : Json} {g : Suggestion}
    (done : Suggestion.decoder origin tree = .ok g) : tree.offer? = some g.offer := by
  obtain ⟨kind, body, d, rfl, chosen, done⟩ := keyed_ok done
  have listed := Table.mem_of_lookup_eq_some chosen
  simp only [List.mem_cons, List.not_mem_nil, or_false, Prod.mk.injEq] at listed
  rcases listed with ⟨rfl, rfl⟩ | ⟨rfl, rfl⟩
  · obtain ⟨r, decoded, rfl⟩ := map_eq_ok done
    obtain ⟨wording, payload, rfl, same⟩ := offer_of_taken (record_ok decoded) "reply"
    exact same
  · obtain ⟨a, decoded, rfl⟩ := map_eq_ok done
    obtain ⟨_, openUrlAction, dialed, _, rfl⟩ := (record_ok decoded).seq
    obtain ⟨_, dialAction, linked, _, rfl⟩ := dialed.seq
    obtain ⟨_, fallbackUrl, named, _, rfl⟩ := linked.seq
    obtain ⟨wording, payload, rfl, same⟩ := offer_of_taken named "action"
    exact same

/-- A card shows the offers that stand in its content. -/
theorem offers_of_card {origin : Origin} {tree : Json} {c : CardContent}
    (done : CardContent.decoder origin tree = .ok c) :
    tree.CardOffers (c.suggestions.map Suggestion.offer) := by
  obtain ⟨_, suggestions, upToMedia, last, rfl⟩ := (record_ok done).seq
  -- Three fields stand before the suggestions, so in an array these are the item at place 3.
  have behind := last ((((sequential_field _ _ _).map _).seq (sequential_field _ _ _)).seq
    (sequential_field _ _ _))
  obtain ⟨_, media, upToDescription, _, rfl⟩ := upToMedia.seq
  obtain ⟨_, description, upToTitle, _, rfl⟩ := upToDescription.seq
  obtain ⟨title, _, rfl⟩ := upToTitle.map
  rcases behind.field with ⟨missing, absent⟩ | ⟨part, found, decoded⟩
  · cases absent
    change tree.member 3 "suggestions" = none at missing
    exact ⟨[], by rw [missing, Option.getD_none], rfl⟩
  · change tree.member 3 "suggestions" = some part at found
    obtain ⟨items, rfl, read⟩ := list_ok decoded
    exact ⟨items, by rw [found, Option.getD_some],
      mapM_some_of_mapM_ok (fun _ _ => offer_of_decoded) read⟩

/-- Where nothing is said of the content of a card, nothing is offered. -/
theorem cardOffers_empty : (obj []).CardOffers [] := ⟨[], rfl, rfl⟩

/-- The contents of the cards that a rich card shows. -/
def RichCard.cards : RichCard → List CardContent
  | .standalone card => [card.content]
  | .carousel card => card.cards

theorem RichCard.cards_standalone {card : StandaloneCard} {i : Nat} {c : CardContent}
    (shown : (RichCard.standalone card).cards[i]? = some c) : i = 0 ∧ c = card.content := by
  rw [cards, List.getElem?_singleton, Option.ite_none_right_eq_some] at shown
  exact ⟨shown.1, (Option.some_inj.mp shown.2).symm⟩

/-- Each card of a rich card shows the offers that stand in the content of that card inside the tree. -/
theorem offers_of_richCard {origin : Origin} {tree : Json} {card : RichCard}
    (done : RichCard.decoder origin tree = .ok card) {i : Nat} {c : CardContent}
    (shown : card.cards[i]? = some c) :
    ∃ part, tree.CardAt i part ∧ part.CardOffers (c.suggestions.map Suggestion.offer) := by
  obtain ⟨kind, body, d, rfl, chosen, done⟩ := keyed_ok done
  have listed := Table.mem_of_lookup_eq_some chosen
  simp only [List.mem_cons, List.not_mem_nil, or_false, Prod.mk.injEq] at listed
  rcases listed with ⟨rfl, rfl⟩ | ⟨rfl, rfl⟩
  · obtain ⟨standalone, decoded, rfl⟩ := map_eq_ok done
    obtain ⟨_, content, upToAlignment, last, rfl⟩ := (record_ok decoded).seq
    have behind := last (((sequential_field _ _ _).map _).seq (sequential_field _ _ _))
    obtain ⟨_, alignment, upToOrientation, _, rfl⟩ := upToAlignment.seq
    obtain ⟨orientation, _, rfl⟩ := upToOrientation.map
    obtain ⟨rfl, rfl⟩ := RichCard.cards_standalone shown
    refine ⟨_, .standalone body, ?_⟩
    rcases behind.field with ⟨missing, absent⟩ | ⟨part, found, decoded⟩
    · cases absent
      change body.member 2 "cardContent" = none at missing
      rw [missing, Option.getD_none]
      exact cardOffers_empty
    · change body.member 2 "cardContent" = some part at found
      rw [found, Option.getD_some]
      exact offers_of_card decoded
  · obtain ⟨carousel, decoded, rfl⟩ := map_eq_ok done
    obtain ⟨_, cards, upToWidth, last, rfl⟩ := (record_ok decoded).seq
    obtain ⟨width, _, rfl⟩ := upToWidth.map
    rcases (last ((sequential_field _ _ _).map _)).field with ⟨_, absent⟩ | ⟨part, found, decoded⟩
    · cases absent
    · obtain ⟨items, rfl, read⟩ := list_ok decoded
      obtain ⟨item, listed, decoded⟩ := getElem?_of_mapM_ok read shown
      exact ⟨item, .carousel found listed, offers_of_card decoded⟩

end

theorem RichCard.cards_fillPostbacks (card : RichCard) :
    card.fillPostbacks.cards = card.cards.map CardContent.fillPostbacks := by
  cases card <;> rfl

/-- Where a message shows suggestions: beside it, or in one of its cards, which are counted from 0. -/
inductive Spot where
  | beside | card (index : Nat)
  deriving DecidableEq, Repr

/-- The suggestions that a message shows at a spot, if it has that spot. -/
def Content.suggestionsAt (c : Content) : Spot → Option (List Suggestion)
  | .beside => some c.suggestions
  | .card i => (c.richCard.bind fun card => card.cards[i]?).map CardContent.suggestions

namespace Message

open Json (bind_eq_ok map_eq_ok find?_of_mapM_ok forall₂_of_mapM_ok getElem?_of_mapM_ok)

/-! ## Suggestions as they are given -/

theorem ofLiteral_ok {α : Type} {d : Json.Decoder α} {what : String} {v : Value} {a : α}
    (read : ofLiteral d what v = .ok a) : d .value v.literal = .ok a := by
  unfold ofLiteral at read
  split at read
  · next decoded =>
    cases read
    exact decoded
  · cases read

theorem suggestionOf_offer {index : Nat} {v : Value} {g : Suggestion}
    (read : suggestionOf index v = .ok g) : v.offer? = some g.offer := by
  unfold suggestionOf at read
  split at read
  · next text range isString =>
    cases read
    rw [Value.offer?, isString]
    rfl
  · next entries range isDictionary =>
    split at read
    · next g' decoded =>
      cases read
      rw [Value.offer?, isDictionary, ← Value.literal_core, isDictionary]
      exact offer_of_decoded (ofLiteral_ok decoded)
    · cases read
  · cases read

theorem suggestionsFrom_offers {index : Nat} {items : List Value} {list : List Suggestion}
    (read : suggestionsFrom index items = .ok list) :
    items.mapM Value.offer? = some (list.map Suggestion.offer) := by
  induction items generalizing index list with
  | nil =>
    cases read
    rfl
  | cons item rest ih =>
    obtain ⟨g, first, read⟩ := bind_eq_ok read
    obtain ⟨others, later, read⟩ := bind_eq_ok read
    cases read
    rw [List.mapM_cons, suggestionOf_offer first, ih later]
    rfl

theorem suggestionsOf_ok {v : Value} {list : List Suggestion} (read : suggestionsOf v = .ok list) :
    ∃ given, suggestionsFrom 1 v.listed = .ok given ∧ given.map Suggestion.fillPostback = list := by
  unfold suggestionsOf at read
  unfold Value.listed
  split at read
  · next isList =>
    rw [isList]
    exact map_eq_ok read
  · next isString =>
    rw [isString]
    exact map_eq_ok read
  · next isDictionary =>
    rw [isDictionary]
    exact map_eq_ok read
  · cases read

theorem suggestionsOf_offers {v : Value} {list : List Suggestion} (read : suggestionsOf v = .ok list) :
    ∃ offers, v.listed.mapM Value.offer? = some offers ∧
      list.map Suggestion.offer = offers.map Offer.answered := by
  obtain ⟨given, each, rfl⟩ := suggestionsOf_ok read
  exact ⟨_, suggestionsFrom_offers each, Suggestion.offer_fillPostbacks given⟩

theorem richCardOf_offers {v : Value} {card : RichCard} (read : richCardOf v = .ok card)
    {i : Nat} {c : CardContent} (shown : card.cards[i]? = some c) :
    ∃ part offers, v.literal.CardAt i part ∧ part.CardOffers offers ∧
      c.suggestions.map Suggestion.offer = offers.map Offer.answered := by
  rw [← Value.literal_core]
  unfold richCardOf at read
  split at read
  · next title range isString =>
    cases read
    obtain ⟨rfl, rfl⟩ := RichCard.cards_standalone shown
    rw [isString]
    exact ⟨_, [], .plain _, ⟨[], rfl, rfl⟩, rfl⟩
  · next entries range isDictionary =>
    rw [isDictionary]
    dsimp only at read
    split at read
    · obtain ⟨raw, decoded, rfl⟩ := map_eq_ok read
      rw [RichCard.cards_fillPostbacks, List.getElem?_map] at shown
      obtain ⟨c, inside, rfl⟩ := Option.map_eq_some_iff.mp shown
      obtain ⟨part, held, offers⟩ := offers_of_richCard (ofLiteral_ok decoded) inside
      exact ⟨part, _, held, offers, Suggestion.offer_fillPostbacks c.suggestions⟩
    · obtain ⟨raw, decoded, rfl⟩ := map_eq_ok read
      obtain ⟨rfl, rfl⟩ := RichCard.cards_standalone shown
      exact ⟨_, _, .plain _, offers_of_card (ofLiteral_ok decoded),
        Suggestion.offer_fillPostbacks raw.suggestions⟩
  · cases read

/-- The lists of offers that a section makes, each at its spot: the first suggestions beside the message that offer
anything, those in the cards of the first card that is given, and in a carousel that is given none those of its
entries, which offer them beside their message or in its card. -/
inductive Offered : Section → Spot → List Offer → Prop
  | own {s : Section} {offers : List Offer}
    (made : (Value.firstListed (supplied s "suggestions")).mapM Value.offer? = some offers) :
    Offered s .beside offers
  | card {s : Section} {v : Value} {i : Nat} {part : Json} {offers : List Offer}
    (given : (supplied s "richCard").head? = some v) (inside : v.literal.CardAt i part)
    (made : part.CardOffers offers) : Offered s (.card i) offers
  | entry {s c : Section} {i : Nat} {offers : List Offer} (isCarousel : s.is "carousel" = true)
    (bare : supplied s "richCard" = []) (inside : (s.childrenOf "richCard")[i]? = some c)
    (made : Offered c .beside offers) : Offered s (.card i) offers
  | entryCard {s c : Section} {i : Nat} {offers : List Offer} (isCarousel : s.is "carousel" = true)
    (bare : supplied s "richCard" = []) (inside : (s.childrenOf "richCard")[i]? = some c)
    (made : Offered c (.card 0) offers) : Offered s (.card i) offers

/-- The list holds the answered offers that the section makes at the spot, in order. -/
def Answers (s : Section) (spot : Spot) (list : List Suggestion) : Prop :=
  ∃ offers, Offered s spot offers ∧ list.map Suggestion.offer = offers.map Offer.answered

/-- Suggestions are shown exactly where a value offers any. -/
theorem isEmpty_suggestionsOf {v : Value} {list : List Suggestion} (read : suggestionsOf v = .ok list) :
    v.listed.isEmpty = list.isEmpty := by
  obtain ⟨given, each, rfl⟩ := suggestionsOf_ok read
  cases listed : v.listed with
  | nil =>
    rw [listed] at each
    cases each
    rfl
  | cons item rest =>
    rw [listed] at each
    obtain ⟨g, _, each⟩ := bind_eq_ok each
    obtain ⟨others, _, each⟩ := bind_eq_ok each
    cases each
    rfl

theorem answers_suggestions {s : Section} {d : Draft} (drafted : draft s = .ok d) :
    Answers s .beside d.content.suggestions := by
  obtain ⟨lists, read, shown, _⟩ := suggestions_draft drafted
  have first := find?_of_mapM_ok (fun v l read => congrArg (!·) (isEmpty_suggestionsOf read)) read
  rw [shown, firstShown]
  cases given : (supplied s "suggestions").find? fun v => !v.listed.isEmpty with
  | none =>
    rw [given] at first
    rw [← Except.ok.inj first]
    refine ⟨[], .own ?_, rfl⟩
    rw [Value.firstListed, given]
    rfl
  | some v =>
    rw [given] at first
    obtain ⟨list, readOne, found⟩ := map_eq_ok first
    rw [← found]
    obtain ⟨offers, made, same⟩ := suggestionsOf_offers readOne
    refine ⟨offers, .own ?_, same⟩
    rw [Value.firstListed, given]
    exact made

theorem answers_card {s : Section} {d : Draft} (drafted : draft s = .ok d) {card : RichCard}
    (held : d.content.richCard = some card) {i : Nat} {c : CardContent}
    (shown : card.cards[i]? = some c) : Answers s (.card i) c.suggestions := by
  obtain ⟨values, read, first, _⟩ := slot_draft .richCard drafted
  change d.content.richCard = values.head? at first
  have isFirst : values[0]? = some card := by rw [← List.head?_eq_getElem?, ← first, held]
  obtain ⟨v, given, readOne⟩ := getElem?_of_mapM_ok read isFirst
  obtain ⟨part, offers, inside, made, same⟩ := richCardOf_offers readOne shown
  exact ⟨offers, .card (List.head?_eq_getElem?.trans given) inside made, same⟩

theorem supplied_eq_nil_of_card {s : Section} {d : Draft} (drafted : draft s = .ok d)
    (bare : d.content.richCard = none) : supplied s "richCard" = [] := by
  obtain ⟨values, read, first, _⟩ := slot_draft .richCard drafted
  change d.content.richCard = values.head? at first
  have nothing : values = [] := List.head?_eq_none_iff.mp (first.symm.trans bare)
  exact List.forall₂_nil_right_iff.mp (nothing ▸ forall₂_of_mapM_ok read)

theorem suggestions_filledIn (description : Option String) (media : Option Media) (card : RichCard) :
    (filledIn description media card).cards.map CardContent.suggestions =
      card.cards.map CardContent.suggestions := by
  cases card <;> rfl

/-- What a card is filled in with leaves the suggestions of all cards as they are. -/
theorem suggestionsAt_filledIn {content : Content} {given : Option RichCard} {description : Option String}
    {media : Option Media} (same : content.richCard = given.map (filledIn description media)) {i : Nat}
    {list : List Suggestion} (shown : content.suggestionsAt (.card i) = some list) :
    ∃ card c, given = some card ∧ card.cards[i]? = some c ∧ c.suggestions = list := by
  rw [Content.suggestionsAt, same] at shown
  cases given with
  | none => cases shown
  | some card =>
    have kept := congrArg (·[i]?) (suggestions_filledIn description media card)
    simp only [List.getElem?_map] at kept
    obtain ⟨c, found, isList⟩ := Option.map_eq_some_iff.mp (kept.symm.trans shown)
    exact ⟨card, c, rfl, found, isList⟩

theorem answers_plain {s : Section} (single : s.is "carousel" = false) {content : Content}
    {conflicts : List Conflict} (built : build s = .ok (content, conflicts)) {spot : Spot}
    {list : List Suggestion} (shown : content.suggestionsAt spot = some list) : Answers s spot list := by
  obtain ⟨d, drafted, finished⟩ := build_of_plain single built
  obtain rfl : d.finish.1 = content := congrArg Prod.fst finished
  rw [finish_content] at shown
  cases spot with
  | beside =>
    cases shown
    exact answers_suggestions drafted
  | card i =>
    obtain ⟨card, c, held, found, rfl⟩ := suggestionsAt_filledIn rfl shown
    exact answers_card drafted held found

/-- An entry's card shows what the entry shows beside its message or, as a message of its own, in its card. -/
theorem cardOf_suggestionsAt (c : Content) :
    c.suggestionsAt .beside = some (cardOf c).suggestions ∨
      c.suggestionsAt (.card 0) = some (cardOf c).suggestions := by
  rw [cardOf_suggestions]
  split
  · exact Or.inl rfl
  · next shown =>
    obtain ⟨text, richCard, file, info, suggestions⟩ := c
    cases richCard with
    | none => exact absurd rfl shown
    | some card =>
      cases card with
      | standalone card => exact Or.inr rfl
      | carousel card => exact absurd rfl shown

theorem answers_carousel {s : Section} (isCarousel : s.is "carousel" = true) {content : Content}
    {conflicts : List Conflict} (built : build s = .ok (content, conflicts)) {spot : Spot}
    {list : List Suggestion} (shown : content.suggestionsAt spot = some list) : Answers s spot list := by
  obtain ⟨d, width, entries, drafted, reads, rfl, _⟩ := build_of_carousel isCarousel built
  cases spot with
  | beside =>
    cases shown
    exact answers_suggestions drafted
  | card i =>
    obtain ⟨card, c, held, found, rfl⟩ := suggestionsAt_filledIn rfl shown
    -- A card that the carousel is given outright comes before the one that its entries make.
    rcases Option.or_eq_some_iff.mp held with own | ⟨bare, assembled⟩
    · exact answers_card drafted own found
    · cases assembled
      have bare := supplied_eq_nil_of_card drafted bare
      change (entries.map fun entry => cardOf entry.1)[i]? = some c at found
      rw [List.getElem?_map] at found
      obtain ⟨entry, listed, rfl⟩ := Option.map_eq_some_iff.mp found
      obtain ⟨child, standing, built⟩ := getElem?_of_mapM_ok reads listed
      have single := not_carousel_of_card (List.mem_filter.mp (List.mem_of_getElem? standing)).2
      rcases cardOf_suggestionsAt entry.1 with beside | inside
      · obtain ⟨offers, made, same⟩ := answers_plain single built beside
        exact ⟨offers, .entry isCarousel bare standing made, same⟩
      · obtain ⟨offers, made, same⟩ := answers_plain single built inside
        exact ⟨offers, .entryCard isCarousel bare standing made, same⟩

/-- Every suggestion that a message shows can be answered. The list at each spot is a list that the author offers
there, item by item and none left out: a payload that is given stays, and one that is left out or empty is the derived
one, which is never too long. -/
theorem suggestions_answerable {s : Section} {content : Content} {conflicts : List Conflict}
    (built : build s = .ok (content, conflicts)) :
    ∀ spot list, content.suggestionsAt spot = some list →
      (∃ offers, Offered s spot offers ∧
        list.map Suggestion.offer = offers.map fun o =>
          if o.payload = "" then ⟨o.kind, o.text, derivePostback o.kind o.text⟩ else o) ∧
      ∀ g ∈ list, g.offer.payload ≠ "" ∧
        (derivePostback g.offer.kind g.offer.text).length ≤ 2048 := by
  intro spot list shown
  have answers : Answers s spot list := by
    by_cases isCarousel : s.is "carousel" = true
    · exact answers_carousel isCarousel built shown
    · exact answers_plain (Bool.not_eq_true _ ▸ isCarousel) built shown
  refine ⟨answers, fun g member => ⟨?_, length_derivePostback_le _ _⟩⟩
  obtain ⟨offers, _, same⟩ := answers
  have answered : g.offer ∈ offers.map Offer.answered := same ▸ List.mem_map_of_mem member
  obtain ⟨o, _, same⟩ := List.mem_map.mp answered
  exact same ▸ o.answered_payload_ne_empty

/-- A carousel that is given a bare reply and one with a payload. Its first entry has an action beside its message,
its second a card as a dictionary with a reply in it. -/
def order : Section :=
  let said := fun text => ("text", Value.string text none)
  let yes := Value.dictionary [said "Yes", ("postbackData", .string "yes" none)] none
  let call := Value.dictionary [("action", .dictionary [said "Call"] none)] none
  let more := Value.dictionary [("reply", .dictionary [said "More"] none)] none
  let latte := (Section.ofKind "richCard").withParameter none (.string "Latte" none)
    |>.withAttribute "suggestions" call
  let mocha := (Section.ofKind "richCard").withAttribute "richCard"
    (.dictionary [("title", .string "Mocha" none), ("suggestions", .list [more] none)] none)
  (Section.ofKind "carousel").withAttribute "suggestions"
      (.list [.string "Help" none, .dictionary [("reply", yes)] none] none)
    |>.withNode (.child latte) |>.withNode (.child mocha)

theorem suggestions_answerable_order :
    ∃ content conflicts, build order = .ok (content, conflicts) ∧
      content.suggestionsAt .beside =
        some [.reply ⟨"Help", derivePostback "reply" "Help"⟩, .reply ⟨"Yes", "yes"⟩] ∧
      content.suggestionsAt (.card 0) =
        some [.action ⟨"Call", derivePostback "action" "Call", none, none, none⟩] ∧
      content.suggestionsAt (.card 1) = some [.reply ⟨"More", derivePostback "reply" "More"⟩] ∧
      ∀ spot list, content.suggestionsAt spot = some list →
        (∃ offers, Offered order spot offers ∧
          list.map Suggestion.offer = offers.map fun o =>
            if o.payload = "" then ⟨o.kind, o.text, derivePostback o.kind o.text⟩ else o) ∧
        ∀ g ∈ list, g.offer.payload ≠ "" ∧
          (derivePostback g.offer.kind g.offer.text).length ≤ 2048 := by
  have built : build order = .ok (⟨none, some (.carousel ⟨.medium,
      [⟨some "Latte", none, none, [.action ⟨"Call", derivePostback "action" "Call", none, none, none⟩]⟩,
        ⟨some "Mocha", none, none, [.reply ⟨"More", derivePostback "reply" "More"⟩]⟩]⟩),
      none, none, [.reply ⟨"Help", derivePostback "reply" "Help"⟩, .reply ⟨"Yes", "yes"⟩]⟩, []) := rfl
  exact ⟨_, _, built, rfl, rfl, rfl, suggestions_answerable built⟩

end Message

end Dialogue
