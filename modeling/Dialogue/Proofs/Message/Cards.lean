import Dialogue.Proofs.Message.Given

/-!
# Cards and what refines them

A card section may give a description, media and suggestions beside its card. Of a message of its own the
description and the media go into its card, if it has one that stands by itself; of an entry of a carousel the
suggestions do as well. Here it is said exactly which of these values end up in the card and which are lost without a
conflict.
-/
namespace Dialogue.Message

open Json (bind_eq_ok map_eq_ok)

/-! ## Conflicts about a field -/

theorem told_pos_iff (field : String) (conflicts : List Conflict) :
    0 < told field conflicts ↔ Conflict.alreadySet field ∈ conflicts := List.count_pos_iff

/-- Each value given for a field is the one that is kept, or a conflict names the field. -/
def Accounted {α : Type} (field : String) (values : List α) (kept : Option α)
    (conflicts : List Conflict) : Prop :=
  ∀ a ∈ values, kept = some a ∨ Conflict.alreadySet field ∈ conflicts

theorem eq_first_of_differing {α : Type} [DecidableEq α] {values : List α}
    (same : differing values = 0) : ∀ a ∈ values, values.head? = some a := by
  intro a member
  cases values with
  | nil => cases member
  | cons first later =>
    rcases List.mem_cons.mp member with rfl | behind
    · rfl
    · have equal := List.countP_eq_zero.mp same a behind
      simp only [ne_eq, decide_not, Bool.not_eq_true, Bool.not_eq_false', decide_eq_true_eq] at equal
      rw [equal, List.head?_cons]

/-- A card of its own takes the first value if it has none, and else says that it differs. -/
theorem accounted_of_own {α : Type} [DecidableEq α] {field : String} {values : List α} {own : Option α}
    {conflicts : List Conflict}
    (count : told field conflicts = differing values + differing (own.toList ++ values.head?.toList)) :
    Accounted field values (own.or values.head?) conflicts := by
  intro a member
  by_cases silent : told field conflicts = 0
  · left
    have first := eq_first_of_differing (by omega : differing values = 0) a member
    have agree : differing (own.toList ++ values.head?.toList) = 0 := by omega
    cases own with
    | none => simpa using first
    | some existing =>
      rw [first] at agree
      have equal := eq_first_of_differing agree a (by simp)
      simpa using equal
  · exact Or.inr ((told_pos_iff field conflicts).mp (Nat.pos_of_ne_zero silent))

/-- Without a card nothing is kept. -/
theorem accounted_none_iff {α : Type} (field : String) (values : List α) (conflicts : List Conflict) :
    Accounted field values none conflicts ↔ values = [] ∨ Conflict.alreadySet field ∈ conflicts := by
  constructor
  · intro accounted
    cases values with
    | nil => exact Or.inl rfl
    | cons first later =>
      exact Or.inr ((accounted first List.mem_cons_self).resolve_left nofun)
  · rintro (rfl | recorded) a member
    · cases member
    · exact Or.inr recorded

/-! ## The card of a section -/

/-- The card of its own, with what was filled in. -/
theorem ownCard?_finish (d : Draft) :
    ownCard? d.finish.1 = (ownCard? d.content).map fun card =>
      { card with
        description := card.description.or d.description
        media := card.media.or d.media } := by
  rw [finish_content]
  obtain ⟨⟨text, richCard, file, info, suggestions⟩, description, media, conflicts⟩ := d
  cases richCard with
  | none => rfl
  | some card => cases card <;> rfl

/-- The card that a section makes as an entry of a carousel. -/
theorem cardOf_eq (c : Content) :
    cardOf c =
      let card := (ownCard? c).getD CardContent.empty
      if card.suggestions.isEmpty then { card with suggestions := c.suggestions } else card := by
  obtain ⟨text, richCard, file, info, suggestions⟩ := c
  cases richCard with
  | none => rfl
  | some card => cases card <;> rfl

theorem cardOf_description (c : Content) :
    (cardOf c).description = (ownCard? c).bind CardContent.description := by
  rw [cardOf_eq]
  cases ownCard? c with
  | none => rfl
  | some card =>
    dsimp only [Option.getD_some, Option.bind_some]
    split <;> rfl

theorem cardOf_media (c : Content) : (cardOf c).media = (ownCard? c).bind CardContent.media := by
  rw [cardOf_eq]
  cases ownCard? c with
  | none => rfl
  | some card =>
    dsimp only [Option.getD_some, Option.bind_some]
    split <;> rfl

/-- The suggestions that the card of a section brings itself. -/
def ownSuggestions (c : Content) : List Suggestion :=
  ((ownCard? c).map CardContent.suggestions).getD []

theorem cardOf_suggestions (c : Content) :
    (cardOf c).suggestions = if ownSuggestions c = [] then c.suggestions else ownSuggestions c := by
  rw [cardOf_eq, ownSuggestions]
  cases ownCard? c with
  | none => rfl
  | some card =>
    cases shown : card.suggestions <;> simp [shown]

/-! ## What is kept and what is lost -/

/-- The values for a field of a card are accounted for exactly if there is a card to put them into, none is given, or
a conflict names the field. `before` is the card as it was given, `after` the finished one. -/
theorem accounted_iff {α : Type} [DecidableEq α] {field : String} {values : List α}
    {conflicts : List Conflict} (get : CardContent → Option α) {before after : Option CardContent}
    (present : after.isSome = before.isSome)
    (filled : after.bind get = before.bind fun card => (get card).or values.head?)
    (count : told field conflicts =
      differing values + differing ((before.bind get).toList ++ values.head?.toList)) :
    Accounted field values (after.bind get) conflicts ↔
      after.isSome = true ∨ values = [] ∨ Conflict.alreadySet field ∈ conflicts := by
  rw [filled, present]
  cases before with
  | none => simpa using accounted_none_iff field values conflicts
  | some card => simpa using accounted_of_own count

theorem draft_conflicts_subset (d : Draft) : d.conflicts ⊆ d.finish.2 := by
  unfold Draft.finish
  split
  · exact List.subset_append_left _ _
  · exact List.Subset.refl _

/-- What becomes of the description, the media and the suggestions that a card section gives beside its card. The
card is the one that the section makes as an entry of a carousel; for description and media it is the one it makes
as a message of its own. -/
structure Refined (s : Section) (content : Content) (conflicts : List Conflict) : Prop where
  same : ∀ card, ownCard? content = some card →
    card.description = (cardOf content).description ∧ card.media = (cardOf content).media
  description : ∃ values, (supplied s "description").mapM descriptionOf = .ok values ∧
    (Accounted "description" values (cardOf content).description conflicts ↔
      (ownCard? content).isSome = true ∨ values = [] ∨ Conflict.alreadySet "description" ∈ conflicts)
  media : ∃ values, (supplied s "media").mapM mediaOf = .ok values ∧
    (Accounted "media" values (cardOf content).media conflicts ↔
      (ownCard? content).isSome = true ∨ values = [] ∨ Conflict.alreadySet "media" ∈ conflicts)
  suggestions : ∃ lists, (supplied s "suggestions").mapM suggestionsOf = .ok lists ∧
    ((∀ l ∈ lists, l ⊆ (cardOf content).suggestions ∨ Conflict.suggestionsTwice ∈ conflicts) ↔
      ownSuggestions content = [] ∨ Conflict.suggestionsTwice ∈ conflicts ∨
        ∀ l ∈ lists, l ⊆ ownSuggestions content)

theorem refined_of_draft {s : Section} {d : Draft} (drafted : draft s = .ok d) :
    Refined s d.finish.1 d.finish.2 := by
  have own := ownCard?_finish d
  have present : (ownCard? d.finish.1).isSome = (ownCard? d.content).isSome := by
    rw [own, Option.isSome_map]
  refine ⟨?_, ?_, ?_, ?_⟩
  · intro card found
    rw [cardOf_description, cardOf_media, found]
    exact ⟨rfl, rfl⟩
  · obtain ⟨values, reads, held, recorded⟩ := slot_draft .description drafted
    change d.description = _ at held
    change told "description" d.conflicts = _ at recorded
    refine ⟨values, reads, ?_⟩
    rw [cardOf_description]
    refine accounted_iff CardContent.description present ?_ ?_
    · rw [own, ← held]
      cases ownCard? d.content <;> rfl
    · rw [told_finish, if_pos rfl, if_neg (by decide), recorded, held]
      rfl
  · obtain ⟨values, reads, held, recorded⟩ := slot_draft .media drafted
    change d.media = _ at held
    change told "media" d.conflicts = _ at recorded
    refine ⟨values, reads, ?_⟩
    rw [cardOf_media]
    refine accounted_iff CardContent.media present ?_ ?_
    · rw [own, ← held]
      cases ownCard? d.content <;> rfl
    · rw [told_finish, if_neg (by decide), if_pos rfl, recorded, held]
      rfl
  · obtain ⟨lists, reads, _, complete⟩ := suggestions_draft drafted
    refine ⟨lists, reads, ?_⟩
    have shown : d.finish.1.suggestions = d.content.suggestions := by rw [finish_content]
    rw [cardOf_suggestions, shown]
    by_cases bare : ownSuggestions d.finish.1 = []
    · rw [if_pos bare]
      refine iff_of_true (fun l member => ?_) (Or.inl bare)
      rcases complete with recorded | all
      · exact Or.inr (draft_conflicts_subset d recorded)
      · left
        rcases all l member with rfl | rfl
        · exact List.nil_subset _
        · exact List.Subset.refl _
    · rw [if_neg bare]
      by_cases recorded : Conflict.suggestionsTwice ∈ d.finish.2
      · exact iff_of_true (fun _ _ => Or.inr recorded) (Or.inr (Or.inl recorded))
      · simp only [bare, recorded, or_false, false_or]

/-! ## Carousels -/

theorem build_eq_plain {s : Section} (single : s.is "carousel" = false) :
    build s = plainContent s := by
  rw [build, single]
  rfl

theorem not_carousel_of_card {s : Section} (isCard : s.is "richCard" = true) :
    s.is "carousel" = false := by
  have kind : s.kind = "richCard" := by simpa [Section.is] using isCard
  simp [Section.is, kind]

/-- The cards of a carousel are what its entries make by themselves. -/
theorem cardsFrom_ok {index : Nat} {sections : List Section}
    (cardSections : ∀ s ∈ sections, s.is "carousel" = false) {cards : List CardContent}
    {conflicts : List Conflict} (done : cardsFrom index sections = .ok (cards, conflicts)) :
    ∃ entries, sections.mapM build = .ok entries ∧ cards = entries.map (fun entry => cardOf entry.1) ∧
      conflicts = entries.flatMap Prod.snd := by
  induction sections generalizing index cards conflicts with
  | nil =>
    cases done
    exact ⟨[], rfl, rfl, rfl⟩
  | cons s rest ih =>
    obtain ⟨here, later⟩ := List.forall_mem_cons.mp cardSections
    rw [cardsFrom] at done
    split at done
    · cases done
    · next content new built =>
      obtain ⟨⟨others, behind⟩, done', finished⟩ := bind_eq_ok done
      obtain ⟨entries, reads, rfl, rfl⟩ := ih later done'
      cases finished
      refine ⟨(content, new) :: entries, ?_, rfl, rfl⟩
      rw [List.mapM_cons, build_eq_plain here, built, reads]
      rfl

theorem carousel_ok {s : Section} {card : RichCard} {conflicts : List Conflict}
    (done : carousel s = .ok (card, conflicts)) :
    ∃ width entries, (s.childrenOf "richCard").mapM build = .ok entries ∧
      card = .carousel ⟨width, entries.map fun entry => cardOf entry.1⟩ ∧
      conflicts = entries.flatMap Prod.snd := by
  obtain ⟨width, _, done⟩ := bind_eq_ok done
  obtain ⟨⟨cards, behind⟩, made, done⟩ := bind_eq_ok done
  have cardSections : ∀ c ∈ s.childrenOf "richCard", c.is "carousel" = false :=
    fun c member => not_carousel_of_card (List.mem_filter.mp member).2
  obtain ⟨entries, reads, rfl, rfl⟩ := cardsFrom_ok cardSections made
  dsimp only at done
  split at done
  · cases done
  · cases done
    exact ⟨width, entries, reads, rfl, rfl⟩

theorem setOnce_fst {α : Type} [DecidableEq α] (slot : Option α) (a : α) (field : String) :
    (setOnce slot a field).1 = slot.or (some a) := by
  cases slot <;> rfl

/-- The content of a carousel: its draft, in which the card of its entries comes after all others. -/
theorem build_of_carousel {s : Section} (isCarousel : s.is "carousel" = true) {content : Content}
    {conflicts : List Conflict} (done : build s = .ok (content, conflicts)) :
    ∃ d width entries, draft s = .ok d ∧ (s.childrenOf "richCard").mapM build = .ok entries ∧
      content = { d.content with
        richCard := (d.content.richCard.or
          (some (.carousel ⟨width, entries.map fun entry => cardOf entry.1⟩))).map
            (filledIn d.description d.media) } ∧
      entries.flatMap Prod.snd ⊆ conflicts := by
  rw [build, isCarousel, if_pos rfl] at done
  obtain ⟨d, drafted, done⟩ := bind_eq_ok done
  obtain ⟨⟨card, new⟩, made, done⟩ := bind_eq_ok done
  obtain ⟨width, entries, reads, rfl, rfl⟩ := carousel_ok made
  have finished := Except.ok.inj done
  refine ⟨d, width, entries, drafted, reads, ?_, ?_⟩
  · have contents : _ = content := congrArg Prod.fst finished
    rw [finish_content] at contents
    rw [← contents, ← setOnce_fst]
    rfl
  · intro conflict member
    have recorded := congrArg Prod.snd finished
    dsimp only at recorded
    rw [← recorded]
    refine draft_conflicts_subset _ ?_
    refine List.mem_append_left _ ?_
    exact List.mem_append_right _ member

/-- What a card section gives beside its card is in the card or told, with two exceptions. A description and media
are lost in silence exactly if there is no card that stands by itself to put them into, and the suggestions of an entry
of a carousel exactly if the card brings others. The cards of a carousel are those that its entries make. -/
theorem card_refinements_exact (s : Section) {content : Content} {conflicts : List Conflict}
    (built : build s = .ok (content, conflicts)) :
    (s.is "richCard" = true → Refined s content conflicts) ∧
    (s.is "carousel" = true →
      ∃ width entries cards description media,
        (s.childrenOf "richCard").mapM build = .ok entries ∧
        (supplied s "richCard").mapM richCardOf = .ok cards ∧
        content.richCard =
          (cards ++ [RichCard.carousel ⟨width, entries.map fun entry => cardOf entry.1⟩]).head?.map
            (filledIn description media) ∧
        ∀ entry ∈ entries, entry.2 ⊆ conflicts) := by
  constructor
  · intro isCard
    obtain ⟨d, drafted, finished⟩ := build_of_plain (not_carousel_of_card isCard) built
    obtain rfl : d.finish.1 = content := congrArg Prod.fst finished
    obtain rfl : d.finish.2 = conflicts := congrArg Prod.snd finished
    exact refined_of_draft drafted
  · intro isCarousel
    obtain ⟨d, width, entries, drafted, reads, rfl, recorded⟩ := build_of_carousel isCarousel built
    obtain ⟨cards, cardsRead, first, _⟩ := slot_draft .richCard drafted
    change d.content.richCard = _ at first
    refine ⟨width, entries, cards, d.description, d.media, reads, cardsRead, ?_, ?_⟩
    · rw [List.head?_append, first]
      rfl
    · intro entry member conflict inside
      exact recorded (List.mem_flatMap.mpr ⟨entry, member, inside⟩)

/-- A card with a description and no title. -/
def untitledCard : Section := (Section.ofKind "richCard").withAttribute "description" (.string "Hot" none)

def titledCard : Section :=
  (Section.ofKind "richCard").withParameter none (.string "Latte" none)
    |>.withAttribute "description" (.string "Hot" none)

def drinks : Section :=
  (Section.ofKind "carousel").withNode (.child untitledCard) |>.withNode (.child titledCard)

theorem card_refinements_exact_titled :
    titledCard.is "richCard" = true ∧ drinks.is "carousel" = true ∧
    (∃ content conflicts, build titledCard = .ok (content, conflicts) ∧
      Accounted "description" ["Hot"] (cardOf content).description conflicts) ∧
    ∃ content conflicts width entries, build drinks = .ok (content, conflicts) ∧
      (drinks.childrenOf "richCard").mapM build = .ok entries ∧
      content.richCard = some (.carousel ⟨width, entries.map fun entry => cardOf entry.1⟩) := by
  have built : build titledCard =
      .ok (⟨none, some (filledIn (some "Hot") none (titled "Latte")), none, none, []⟩, []) := rfl
  have assembled : build drinks = .ok (⟨none, some (.carousel ⟨.medium,
      [CardContent.empty, ⟨some "Latte", some "Hot", none, []⟩]⟩), none, none, []⟩, []) := rfl
  obtain ⟨values, reads, accounted⟩ := ((card_refinements_exact titledCard built).1 rfl).description
  obtain rfl : ["Hot"] = values := Except.ok.inj reads
  obtain ⟨width, entries, cards, _, _, made, cardsRead, shown, _⟩ :=
    (card_refinements_exact drinks assembled).2 rfl
  obtain rfl : [] = cards := Except.ok.inj cardsRead
  exact ⟨rfl, rfl, ⟨_, _, built, accounted.mpr (Or.inl rfl)⟩, _, _, width, entries, assembled, made, shown⟩

/-- The description of a card without a title is in no card, and nothing is told. -/
theorem untitled_card_loses_description :
    (supplied untitledCard "description").mapM descriptionOf = .ok ["Hot"] ∧
    build ((Section.ofKind "carousel").withNode (.child untitledCard)) =
      .ok (⟨none, some (.carousel ⟨.medium, [CardContent.empty]⟩), none, none, []⟩, []) ∧
    ¬Accounted "description" ["Hot"] CardContent.empty.description [] := by
  refine ⟨rfl, rfl, fun accounted => ?_⟩
  rcases accounted "Hot" List.mem_cons_self with kept | recorded
  · cases kept
  · cases recorded

end Dialogue.Message
