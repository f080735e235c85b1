import Dialogue.Document.Builder
import Dialogue.Message.Build
import Dialogue.Proofs.Json.Yield

/-!
# What a section gives

A message section gives values for the fields of its content: in shorthand, by named parameters, by attributes.
Shorthand is the first of its named values. Here the draft of a section is read off these values, field by field:
a field holds the first value that was given for it, and each later value that differs is told once.
-/
namespace Dialogue.Message

open Json (bind_eq_ok map_eq_ok)

/-! ## Values in the order in which they count -/

/-- The shorthand as the named value that it stands for. A carousel has none. -/
def shorthandEntries (s : Section) : List (String × Value) :=
  if s.is "carousel" then []
  else (shorthand? s).toList.map fun v => (if s.is "richCard" then "richCard" else "text", v)

/-- All that a section gives: shorthand, named parameters, attributes. -/
def given (s : Section) : List (String × Value) := shorthandEntries s ++ namedValues s

/-- The values that stand under one name. -/
def valuesFor (field : String) (entries : List (String × Value)) : List Value :=
  (entries.filter fun entry => entry.1 == field).map Prod.snd

/-- The values that a section gives for a field. -/
def supplied (s : Section) (field : String) : List Value := valuesFor field (given s)

theorem valuesFor_cons_of_eq {field : String} {entry : String × Value} (same : entry.1 = field)
    (rest : List (String × Value)) :
    valuesFor field (entry :: rest) = entry.2 :: valuesFor field rest := by
  simp [valuesFor, same]

theorem valuesFor_cons_of_ne {field : String} {entry : String × Value} (other : entry.1 ≠ field)
    (rest : List (String × Value)) : valuesFor field (entry :: rest) = valuesFor field rest := by
  simp [valuesFor, other]

theorem openDraft_eq (s : Section) :
    openDraft s = (shorthandEntries s).foldlM Draft.addNamed Draft.empty := by
  unfold openDraft shorthandEntries Section.is
  cases shorthand? s with
  | none => cases s.kind == "carousel" <;> rfl
  | some v =>
    dsimp only
    split
    · next isCard =>
      rw [isCard]
      change _ = (Draft.empty.addNamed ("richCard", v) >>= pure)
      rw [bind_pure]
      rfl
    · next isCarousel =>
      rw [isCarousel]
      rfl
    · next notCard notCarousel =>
      have first : (s.kind == "carousel") = false := by simpa using notCarousel
      have second : (s.kind == "richCard") = false := by simpa using notCard
      rw [first, second]
      change _ = (Draft.empty.addNamed ("text", v) >>= pure)
      rw [bind_pure]
      rfl

/-- The draft of a section is what all its values make of an empty one. -/
theorem draft_eq (s : Section) : draft s = (given s).foldlM Draft.addNamed Draft.empty := by
  rw [draft, openDraft_eq, given, List.foldlM_append]

/-! ## Fields that are set at most once -/

/-- The fields of a draft that hold one value. -/
inductive Slot where
  | text | richCard | uploadedFile | contentInfo | description | media
  deriving DecidableEq

namespace Slot

@[reducible] def Held : Slot → Type
  | .text | .description => String
  | .richCard => RichCard
  | .uploadedFile => UploadedFile
  | .contentInfo => ContentInfo
  | .media => Media

instance : (slot : Slot) → DecidableEq slot.Held
  | .text | .description => inferInstanceAs (DecidableEq String)
  | .richCard => inferInstanceAs (DecidableEq RichCard)
  | .uploadedFile => inferInstanceAs (DecidableEq UploadedFile)
  | .contentInfo => inferInstanceAs (DecidableEq ContentInfo)
  | .media => inferInstanceAs (DecidableEq Media)

/-- The name under which values for the field are given. -/
def name : Slot → String
  | .text => "text"
  | .richCard => "richCard"
  | .uploadedFile => "uploadedRbmFile"
  | .contentInfo => "contentInfo"
  | .description => "description"
  | .media => "media"

def read : (slot : Slot) → Value → Except ContentError slot.Held
  | .text => textOf
  | .richCard => richCardOf
  | .uploadedFile => uploadedFileOf
  | .contentInfo => contentInfoOf
  | .description => descriptionOf
  | .media => mediaOf

def held : (slot : Slot) → Draft → Option slot.Held
  | .text, d => d.content.text
  | .richCard, d => d.content.richCard
  | .uploadedFile, d => d.content.uploadedFile
  | .contentInfo, d => d.content.contentInfo
  | .description, d => d.description
  | .media, d => d.media

def add : (slot : Slot) → Draft → slot.Held → Draft
  | .text => Draft.addText
  | .richCard => Draft.addRichCard
  | .uploadedFile => Draft.addUploadedFile
  | .contentInfo => Draft.addContentInfo
  | .description => Draft.addDescription
  | .media => Draft.addMedia

theorem name_injective {first second : Slot} (same : first.name = second.name) : first = second := by
  revert same
  cases first <;> cases second <;> decide

theorem name_ne_suggestions (slot : Slot) : slot.name ≠ "suggestions" := by
  cases slot <;> decide

theorem held_empty (slot : Slot) : slot.held Draft.empty = none := by cases slot <;> rfl

theorem held_add (slot : Slot) (d : Draft) (a : slot.Held) :
    slot.held (slot.add d a) = (setOnce (slot.held d) a slot.name).1 := by
  cases slot <;> rfl

theorem conflicts_add (slot : Slot) (d : Draft) (a : slot.Held) :
    (slot.add d a).conflicts = d.conflicts ++ (setOnce (slot.held d) a slot.name).2 := by
  cases slot <;> rfl

theorem held_add_of_ne {slot other : Slot} (apart : other ≠ slot) (d : Draft) (a : other.Held) :
    slot.held (other.add d a) = slot.held d := by
  cases slot <;> cases other
  all_goals try contradiction
  all_goals rfl

theorem held_addSuggestions (slot : Slot) (d : Draft) (l : List Suggestion) :
    slot.held (d.addSuggestions l) = slot.held d := by
  unfold Draft.addSuggestions
  split
  · cases slot <;> rfl
  · split
    · rfl
    · cases slot <;> rfl

theorem suggestions_add (slot : Slot) (d : Draft) (a : slot.Held) :
    (slot.add d a).content.suggestions = d.content.suggestions := by
  cases slot <;> rfl

end Slot

/-- What one named value does to a draft. -/
inductive Adds (d : Draft) (entry : String × Value) : Draft → Prop
  | value (slot : Slot) {a : slot.Held} (named : entry.1 = slot.name)
    (read : slot.read entry.2 = .ok a) : Adds d entry (slot.add d a)
  | suggestions {l : List Suggestion} (named : entry.1 = "suggestions")
    (read : suggestionsOf entry.2 = .ok l) : Adds d entry (d.addSuggestions l)
  | nothing (foreign : ∀ slot : Slot, entry.1 ≠ slot.name) (other : entry.1 ≠ "suggestions") :
    Adds d entry d

theorem adds_of_addNamed {d after : Draft} {entry : String × Value}
    (done : d.addNamed entry = .ok after) : Adds d entry after := by
  unfold Draft.addNamed at done
  split at done
  · next named =>
    obtain ⟨a, read, rfl⟩ := map_eq_ok done
    exact .value .text named read
  · next named =>
    obtain ⟨a, read, rfl⟩ := map_eq_ok done
    exact .value .richCard named read
  · next named =>
    obtain ⟨a, read, rfl⟩ := map_eq_ok done
    exact .suggestions named read
  · next named =>
    obtain ⟨a, read, rfl⟩ := map_eq_ok done
    exact .value .uploadedFile named read
  · next named =>
    obtain ⟨a, read, rfl⟩ := map_eq_ok done
    exact .value .contentInfo named read
  · next named =>
    obtain ⟨a, read, rfl⟩ := map_eq_ok done
    exact .value .description named read
  · next named =>
    obtain ⟨a, read, rfl⟩ := map_eq_ok done
    exact .value .media named read
  · next notText notCard notSuggestions notFile notInfo notDescription notMedia =>
    cases done
    refine .nothing (fun slot => ?_) notSuggestions
    cases slot with
    | text => exact notText
    | richCard => exact notCard
    | uploadedFile => exact notFile
    | contentInfo => exact notInfo
    | description => exact notDescription
    | media => exact notMedia

/-! ## The first value stays -/

/-- How often a conflict was recorded about a field. -/
def told (field : String) (conflicts : List Conflict) : Nat := conflicts.count (.alreadySet field)

theorem told_append (field : String) (first second : List Conflict) :
    told field (first ++ second) = told field first + told field second := List.count_append

/-- The number of values that differ from the first. -/
def differing {α : Type} [DecidableEq α] : List α → Nat
  | [] => 0
  | first :: later => later.countP fun a => a ≠ first

theorem told_setOnce_of_ne {α : Type} [DecidableEq α] {field other : String} (apart : other ≠ field)
    (slot : Option α) (a : α) : told field (setOnce slot a other).2 = 0 := by
  unfold setOnce
  split
  · rfl
  · split
    · rfl
    · simp [told, apart]

/-- A value that is written to a field counts as a conflict if it differs from the one that is there. -/
theorem told_setOnce {α : Type} [DecidableEq α] (field : String) (slot : Option α) (a : α) :
    told field (setOnce slot a field).2 = differing (slot.toList ++ [a]) := by
  cases slot with
  | none => rfl
  | some existing =>
    by_cases same : existing = a
    · simp [setOnce, told, differing, same]
    · simp [setOnce, told, differing, same, Ne.symm same]

theorem told_addSuggestions (field : String) (d : Draft) (l : List Suggestion) :
    told field (d.addSuggestions l).conflicts = told field d.conflicts := by
  unfold Draft.addSuggestions
  split
  · rfl
  · split
    · rfl
    · simp [told]

/-- A value for another field leaves a field and its conflicts alone. -/
theorem Adds.apart {d after : Draft} {entry : String × Value} (adds : Adds d entry after) {slot : Slot}
    (other : entry.1 ≠ slot.name) :
    slot.held after = slot.held d ∧ told slot.name after.conflicts = told slot.name d.conflicts := by
  cases adds with
  | value source named read =>
    rw [named] at other
    refine ⟨Slot.held_add_of_ne (fun same => other (congrArg Slot.name same)) d _, ?_⟩
    rw [Slot.conflicts_add, told_append, told_setOnce_of_ne other]
    rfl
  | suggestions named read =>
    exact ⟨slot.held_addSuggestions d _, told_addSuggestions slot.name d _⟩
  | nothing foreign other => exact ⟨rfl, rfl⟩

/-- A value for a field is read and written to it. -/
theorem Adds.own {d after : Draft} {entry : String × Value} (adds : Adds d entry after) {slot : Slot}
    (named : entry.1 = slot.name) :
    ∃ a, slot.read entry.2 = .ok a ∧ after = slot.add d a := by
  cases adds with
  | value source own read =>
    obtain rfl : source = slot := Slot.name_injective (own.symm.trans named)
    exact ⟨_, read, rfl⟩
  | suggestions own read => exact absurd (named.symm.trans own) slot.name_ne_suggestions
  | nothing foreign other => exact absurd named (foreign slot)

theorem differing_insert {α : Type} [DecidableEq α] (slot : Option α) (a : α) (field : String)
    (later : List α) :
    differing (slot.toList ++ [a]) + differing ((setOnce slot a field).1.toList ++ later) =
      differing (slot.toList ++ a :: later) := by
  cases slot with
  | none => simp [setOnce, differing]
  | some existing =>
    simp only [setOnce, differing, Option.toList_some, List.cons_append, List.nil_append,
      List.countP_cons, List.countP_nil]
    omega

/-- A run over named values: a field that was empty holds the first value read for it, and there is one conflict
for each later value that differs from it. -/
theorem slot_run (slot : Slot) {entries : List (String × Value)} {d after : Draft}
    (done : entries.foldlM Draft.addNamed d = .ok after) :
    ∃ values, (valuesFor slot.name entries).mapM slot.read = .ok values ∧
      slot.held after = (slot.held d).or values.head? ∧
      told slot.name after.conflicts =
        told slot.name d.conflicts + differing ((slot.held d).toList ++ values) := by
  induction entries generalizing d with
  | nil =>
    cases done
    refine ⟨[], rfl, by simp, ?_⟩
    cases slot.held after <;> rfl
  | cons entry rest ih =>
    rw [List.foldlM_cons] at done
    obtain ⟨next, added, done⟩ := bind_eq_ok done
    obtain ⟨values, reads, held, conflicts⟩ := ih done
    have adds := adds_of_addNamed added
    by_cases named : entry.1 = slot.name
    · obtain ⟨a, read, rfl⟩ := adds.own named
      refine ⟨a :: values, ?_, ?_, ?_⟩
      · rw [valuesFor_cons_of_eq named, List.mapM_cons, read, reads]
        rfl
      · rw [held, Slot.held_add]
        cases slot.held d <;> rfl
      · rw [conflicts, Slot.conflicts_add, Slot.held_add, told_append, told_setOnce, Nat.add_assoc,
          differing_insert]
    · obtain ⟨sameHeld, sameTold⟩ := adds.apart named
      rw [sameHeld, sameTold] at conflicts
      rw [sameHeld] at held
      exact ⟨values, by rw [valuesFor_cons_of_ne named, reads], held, conflicts⟩

/-- The draft of a section, field by field. -/
theorem slot_draft (slot : Slot) {s : Section} {d : Draft} (done : draft s = .ok d) :
    ∃ values, (supplied s slot.name).mapM slot.read = .ok values ∧ slot.held d = values.head? ∧
      told slot.name d.conflicts = differing values := by
  rw [draft_eq] at done
  obtain ⟨values, reads, held, conflicts⟩ := slot_run slot done
  rw [slot.held_empty] at held conflicts
  exact ⟨values, reads, by simpa using held, by simpa [told, Draft.empty] using conflicts⟩

/-! ## The first suggestions stay -/

/-- The first list that is not empty. -/
def firstShown (lists : List (List Suggestion)) : List Suggestion :=
  (lists.find? fun l => !l.isEmpty).getD []

theorem firstShown_nil_cons (lists : List (List Suggestion)) :
    firstShown ([] :: lists) = firstShown lists := rfl

theorem firstShown_cons {l : List Suggestion} (shown : l ≠ []) (lists : List (List Suggestion)) :
    firstShown (l :: lists) = l := by
  simp [firstShown, shown]

/-- What is given once, conflicts included, is not taken back. -/
theorem Adds.conflicts_stay {d after : Draft} {entry : String × Value} (adds : Adds d entry after) :
    d.conflicts <+: after.conflicts := by
  cases adds with
  | value slot named read => exact ⟨_, (slot.conflicts_add d _).symm⟩
  | suggestions named read =>
    unfold Draft.addSuggestions
    split
    · exact List.prefix_rfl
    · split
      · exact List.prefix_rfl
      · exact List.prefix_append _ _
  | nothing foreign other => exact List.prefix_rfl

theorem conflicts_stay_run {entries : List (String × Value)} {d after : Draft}
    (done : entries.foldlM Draft.addNamed d = .ok after) : d.conflicts <+: after.conflicts := by
  induction entries generalizing d with
  | nil =>
    cases done
    exact List.prefix_rfl
  | cons entry rest ih =>
    rw [List.foldlM_cons] at done
    obtain ⟨next, added, done⟩ := bind_eq_ok done
    exact (adds_of_addNamed added).conflicts_stay.trans (ih done)

theorem Adds.suggestions_apart {d after : Draft} {entry : String × Value} (adds : Adds d entry after)
    (other : entry.1 ≠ "suggestions") :
    after.content.suggestions = d.content.suggestions := by
  cases adds with
  | value slot named read => exact slot.suggestions_add d _
  | suggestions named read => exact absurd named other
  | nothing foreign other => rfl

theorem Adds.suggestions_own {d after : Draft} {entry : String × Value} (adds : Adds d entry after)
    (named : entry.1 = "suggestions") :
    ∃ l, suggestionsOf entry.2 = .ok l ∧ after = d.addSuggestions l := by
  cases adds with
  | value slot own read => exact absurd (own.symm.trans named) slot.name_ne_suggestions
  | suggestions own read => exact ⟨_, read, rfl⟩
  | nothing foreign other => exact absurd named other

/-- A run over named values keeps the first list of suggestions that is not empty. Unless a conflict says so, no other
list was given. -/
theorem suggestions_run {entries : List (String × Value)} {d after : Draft}
    (done : entries.foldlM Draft.addNamed d = .ok after) :
    ∃ lists, (valuesFor "suggestions" entries).mapM suggestionsOf = .ok lists ∧
      after.content.suggestions = firstShown (d.content.suggestions :: lists) ∧
      (Conflict.suggestionsTwice ∈ after.conflicts ∨
        ∀ l ∈ d.content.suggestions :: lists, l = [] ∨ l = after.content.suggestions) := by
  induction entries generalizing d with
  | nil =>
    cases done
    refine ⟨[], rfl, ?_, Or.inr (by simp)⟩
    by_cases shown : after.content.suggestions = []
    · rw [shown]
      rfl
    · rw [firstShown_cons shown]
  | cons entry rest ih =>
    rw [List.foldlM_cons] at done
    obtain ⟨next, added, done⟩ := bind_eq_ok done
    obtain ⟨lists, reads, kept, complete⟩ := ih done
    have adds := adds_of_addNamed added
    by_cases named : entry.1 = "suggestions"
    · obtain ⟨l, read, rfl⟩ := adds.suggestions_own named
      refine ⟨l :: lists, ?_, ?_⟩
      · rw [valuesFor_cons_of_eq named, List.mapM_cons, read, reads]
        rfl
      · by_cases empty : d.content.suggestions = []
        · have taken : (d.addSuggestions l).content.suggestions = l := by
            simp [Draft.addSuggestions, empty]
          rw [taken] at kept complete
          refine ⟨by rw [kept, empty, firstShown_nil_cons], complete.imp_right fun all => ?_⟩
          exact List.forall_mem_cons.mpr ⟨Or.inl empty, all⟩
        · have stays : (d.addSuggestions l).content.suggestions = d.content.suggestions := by
            unfold Draft.addSuggestions
            split
            · next found => exact absurd (List.isEmpty_iff.mp found) empty
            · split <;> rfl
          rw [stays] at kept complete
          rw [firstShown_cons empty] at kept ⊢
          refine ⟨kept, ?_⟩
          by_cases same : d.content.suggestions = l
          · refine complete.imp_right fun all => ?_
            obtain ⟨first, later⟩ := List.forall_mem_cons.mp all
            exact List.forall_mem_cons.mpr ⟨first, List.forall_mem_cons.mpr ⟨same ▸ first, later⟩⟩
          · have recorded : Conflict.suggestionsTwice ∈ (d.addSuggestions l).conflicts := by
              simp [Draft.addSuggestions, empty, same]
            exact Or.inl ((conflicts_stay_run done).subset recorded)
    · have stays := adds.suggestions_apart named
      rw [stays] at kept complete
      exact ⟨lists, by rw [valuesFor_cons_of_ne named, reads], kept, complete⟩

/-- The suggestions of a draft. -/
theorem suggestions_draft {s : Section} {d : Draft} (done : draft s = .ok d) :
    ∃ lists, (supplied s "suggestions").mapM suggestionsOf = .ok lists ∧
      d.content.suggestions = firstShown lists ∧
      (Conflict.suggestionsTwice ∈ d.conflicts ∨ ∀ l ∈ lists, l = [] ∨ l = d.content.suggestions) := by
  rw [draft_eq] at done
  obtain ⟨lists, reads, kept, complete⟩ := suggestions_run done
  exact ⟨lists, reads, kept, complete.imp_right fun all l member =>
    all l (List.mem_cons_of_mem _ member)⟩

/-! ## The last refinement -/

/-- The card with a description and media where it has none of its own. A carousel takes neither. -/
def filledIn (description : Option String) (media : Option Media) : RichCard → RichCard
  | .standalone card =>
    .standalone { card with
      content := { card.content with
        description := card.content.description.or description
        media := card.content.media.or media } }
  | .carousel card => .carousel card

/-- What a card of its own is refined to, and the conflicts about what it had already. -/
theorem refine_eq (d : Draft) (card : StandaloneCard) :
    (RichCard.standalone (d.refine card).1, (d.refine card).2) =
      (filledIn d.description d.media (.standalone card),
        (d.description.toList.flatMap fun v => (setOnce card.content.description v "description").2) ++
          d.media.toList.flatMap fun v => (setOnce card.content.media v "media").2) := by
  obtain ⟨content, description, media, conflicts⟩ := d
  obtain ⟨orientation, alignment, title, own, ownMedia, suggestions⟩ := card
  cases description <;> cases media <;> cases own <;> cases ownMedia <;>
    simp [Draft.refine, filledIn, setOnce]

/-- The content of a card that stands by itself. -/
def ownCard? (c : Content) : Option CardContent :=
  match c.richCard with
  | some (.standalone card) => some card.content
  | _ => none

theorem finish_content (d : Draft) :
    d.finish.1 =
      { d.content with richCard := d.content.richCard.map (filledIn d.description d.media) } := by
  obtain ⟨⟨text, richCard, file, info, suggestions⟩, description, media, conflicts⟩ := d
  cases richCard with
  | none => rfl
  | some card =>
    cases card with
    | carousel cards => rfl
    | standalone card =>
      have refined := congrArg Prod.fst (refine_eq ⟨⟨text, some (.standalone card), file, info,
        suggestions⟩, description, media, conflicts⟩ card)
      exact congrArg (fun found => Content.mk text (some found) file info suggestions) refined

theorem told_flatMap_setOnce {α : Type} [DecidableEq α] (field : String) (slot offered : Option α) :
    told field (offered.toList.flatMap fun v => (setOnce slot v field).2) =
      differing (slot.toList ++ offered.toList) := by
  cases offered with
  | none => cases slot <;> rfl
  | some a => simpa using told_setOnce field slot a

theorem told_flatMap_setOnce_of_ne {α : Type} [DecidableEq α] {field other : String}
    (apart : other ≠ field) (slot offered : Option α) :
    told field (offered.toList.flatMap fun v => (setOnce slot v other).2) = 0 := by
  cases offered with
  | none => rfl
  | some a => simpa using told_setOnce_of_ne apart slot a

theorem differing_of_alone {α : Type} [DecidableEq α] (offered : Option α) :
    differing offered.toList = 0 := by
  cases offered <;> rfl

/-- The conflicts of a finished draft: those of the draft, and one for each refinement that differs from what a
card of its own says. -/
theorem told_finish (field : String) (d : Draft) :
    told field d.finish.2 = told field d.conflicts +
      (if field = "description" then
        differing (((ownCard? d.content).bind CardContent.description).toList ++ d.description.toList)
      else 0) +
      (if field = "media" then
        differing (((ownCard? d.content).bind CardContent.media).toList ++ d.media.toList)
      else 0) := by
  obtain ⟨⟨text, richCard, file, info, suggestions⟩, description, media, conflicts⟩ := d
  cases richCard with
  | none => simp [Draft.finish, ownCard?, differing_of_alone]
  | some card =>
    cases card with
    | carousel cards => simp [Draft.finish, ownCard?, differing_of_alone]
    | standalone card =>
      have refined := congrArg Prod.snd (refine_eq ⟨⟨text, some (.standalone card), file, info,
        suggestions⟩, description, media, conflicts⟩ card)
      dsimp only at refined
      simp only [Draft.finish, refined, told_append, ownCard?, Option.bind_some]
      by_cases isDescription : field = "description"
      · subst isDescription
        simp [told_flatMap_setOnce, told_flatMap_setOnce_of_ne]
      · by_cases isMedia : field = "media"
        · subst isMedia
          simp [told_flatMap_setOnce, told_flatMap_setOnce_of_ne]
        · simp [isDescription, isMedia, told_flatMap_setOnce_of_ne, Ne.symm isDescription,
            Ne.symm isMedia]

/-! ## Conflicts as they are told -/

theorem message_eq_iff (c : Conflict) (field : String) :
    c.message = field ++ " already set; keeping the first value" ↔ c = .alreadySet field := by
  constructor
  · intro same
    cases c with
    | alreadySet other =>
      have chars := congrArg String.toList same
      simp only [Conflict.message, String.toList_append] at chars
      exact congrArg Conflict.alreadySet (String.toList_inj.mp (List.append_cancel_right chars))
    | suggestionsTwice =>
      -- The two texts end in different letters.
      have ends := congrArg (fun text => text.toList.getLast?) same
      have last : " already set; keeping the first value".toList.getLast? = some 'e' := by decide
      simp only [Conflict.message, String.toList_append, List.getLast?_append, last,
        Option.some_or] at ends
      exact absurd ends (by decide)
  · rintro rfl
    rfl

theorem count_messages (field : String) (conflicts : List Conflict) :
    (conflicts.map Conflict.message).count (field ++ " already set; keeping the first value") =
      told field conflicts := by
  induction conflicts with
  | nil => rfl
  | cons c rest ih =>
    have here := message_eq_iff c field
    rw [told] at ih ⊢
    rw [List.map_cons, List.count_cons, List.count_cons, ih]
    simp only [beq_iff_eq, here]

/-- A field is the first of its values, and each later value that differs from it is told once. -/
structure KeepsFirst {α : Type} [DecidableEq α] (field : String) (values : List α) (kept : Option α)
    (conflicts : List Conflict) : Prop where
  kept : kept = values.head?
  told : (conflicts.map Conflict.message).count (field ++ " already set; keeping the first value") =
    differing values

/-- The content of a section that is no carousel is its finished draft. -/
theorem build_of_plain {s : Section} (single : s.is "carousel" = false) {built : Content × List Conflict}
    (done : build s = .ok built) : ∃ d, draft s = .ok d ∧ d.finish = built := by
  rw [build, single] at done
  exact map_eq_ok done

theorem keepsFirst_of_slot (slot : Slot) (lasting : slot.name ≠ "description" ∧ slot.name ≠ "media")
    {s : Section} {d : Draft} (done : draft s = .ok d) :
    ∃ values, (supplied s slot.name).mapM slot.read = .ok values ∧
      KeepsFirst slot.name values (slot.held d) d.finish.2 := by
  obtain ⟨values, reads, held, conflicts⟩ := slot_draft slot done
  refine ⟨values, reads, held, ?_⟩
  rw [count_messages, told_finish, if_neg lasting.1, if_neg lasting.2, conflicts]
  rfl

/-- No value of a message is overwritten in silence: each field is the first value that the section gives for it, in
shorthand, by a named parameter or by an attribute, and every later value that differs is told once. Of a card, only a
description and media that it lacks are filled in. -/
theorem first_values_kept (s : Section) (single : s.is "carousel" = false) {content : Content}
    {conflicts : List Conflict} (built : build s = .ok (content, conflicts)) :
    (∃ texts, (supplied s "text").mapM textOf = .ok texts ∧
      KeepsFirst "text" texts content.text conflicts) ∧
    (∃ files, (supplied s "uploadedRbmFile").mapM uploadedFileOf = .ok files ∧
      KeepsFirst "uploadedRbmFile" files content.uploadedFile conflicts) ∧
    (∃ infos, (supplied s "contentInfo").mapM contentInfoOf = .ok infos ∧
      KeepsFirst "contentInfo" infos content.contentInfo conflicts) ∧
    ∃ cards descriptions media, (supplied s "richCard").mapM richCardOf = .ok cards ∧
      (supplied s "description").mapM descriptionOf = .ok descriptions ∧
      (supplied s "media").mapM mediaOf = .ok media ∧
      ∃ card, KeepsFirst "richCard" cards card conflicts ∧
        content.richCard = card.map (filledIn descriptions.head? media.head?) := by
  obtain ⟨d, drafted, finished⟩ := build_of_plain single built
  obtain rfl : d.finish.1 = content := congrArg Prod.fst finished
  obtain rfl : d.finish.2 = conflicts := congrArg Prod.snd finished
  rw [finish_content]
  obtain ⟨descriptions, descriptionsRead, description, _⟩ := slot_draft .description drafted
  obtain ⟨media, mediaRead, medium, _⟩ := slot_draft .media drafted
  obtain ⟨cards, cardsRead, card⟩ := keepsFirst_of_slot .richCard (by decide) drafted
  refine ⟨keepsFirst_of_slot .text (by decide) drafted,
    keepsFirst_of_slot .uploadedFile (by decide) drafted,
    keepsFirst_of_slot .contentInfo (by decide) drafted,
    cards, descriptions, media, cardsRead, descriptionsRead, mediaRead, d.content.richCard, card, ?_⟩
  rw [← description, ← medium]
  rfl

/-- A card with a title only. -/
def titled (title : String) : RichCard :=
  .standalone (.upright { CardContent.empty with title := some title })

/-- A file by its address only. -/
def linked (url : String) : ContentInfo := ⟨url, none, none, none⟩

/-- A card that says most things more than once. -/
def insistentCard : Section :=
  let link := fun url => Value.dictionary [("fileUrl", .string url none)] none
  (Section.ofKind "richCard").withParameter none (.string "Menu" none)
    |>.withParameter (some "text") (.string "Hello" none)
    |>.withParameter (some "contentInfo") (link "https://a.b/menu.pdf")
    |>.withAttribute "text" (.string "Howdy" none)
    |>.withAttribute "richCard" (.string "Lunch" none)
    |>.withAttribute "contentInfo" (link "https://a.b/lunch.pdf")
    |>.withAttribute "text" (.string "Hello" none)
    |>.withAttribute "description" (.string "Fresh every day" none)

theorem first_values_kept_insistent :
    insistentCard.is "carousel" = false ∧ ∃ content conflicts,
      build insistentCard = .ok (content, conflicts) ∧
      KeepsFirst "text" ["Hello", "Howdy", "Hello"] content.text conflicts ∧
      KeepsFirst "contentInfo" [linked "https://a.b/menu.pdf", linked "https://a.b/lunch.pdf"]
        content.contentInfo conflicts ∧
      ∃ card, KeepsFirst "richCard" [titled "Menu", titled "Lunch"] card conflicts ∧
        content.richCard = card.map (filledIn (some "Fresh every day") none) := by
  have built : build insistentCard = .ok
      (⟨some "Hello", some (filledIn (some "Fresh every day") none (titled "Menu")), none,
        some (linked "https://a.b/menu.pdf"), []⟩,
        [.alreadySet "text", .alreadySet "richCard", .alreadySet "contentInfo"]) := rfl
  obtain ⟨⟨texts, textsRead, text⟩, _, ⟨infos, infosRead, info⟩, cards, descriptions, media, cardsRead,
    descriptionsRead, mediaRead, card⟩ := first_values_kept insistentCard rfl built
  obtain rfl : ["Hello", "Howdy", "Hello"] = texts := Except.ok.inj textsRead
  obtain rfl : [linked "https://a.b/menu.pdf", linked "https://a.b/lunch.pdf"] = infos :=
    Except.ok.inj infosRead
  obtain rfl : [titled "Menu", titled "Lunch"] = cards := Except.ok.inj cardsRead
  obtain rfl : ["Fresh every day"] = descriptions := Except.ok.inj descriptionsRead
  obtain rfl : [] = media := Except.ok.inj mediaRead
  exact ⟨rfl, _, _, built, text, info, card⟩

end Dialogue.Message
