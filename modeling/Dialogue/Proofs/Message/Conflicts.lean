import Dialogue.Message.Build

/-!
# Conflicts and the buffer they are put into

The content of a section can also be built with a buffer of conflicts that is handed from step to step: to each
named value, to each card of a carousel, to the last refinement. Whatever the buffer holds at the start, the
content is the same, or the failure is; only the new conflicts are put behind the old ones.
-/
namespace Dialogue.Message

/-- What was built, with its conflicts behind those of a buffer. -/
def behind {α : Type} (buffer : List Conflict) (built : α × List Conflict) : α × List Conflict :=
  (built.1, buffer ++ built.2)

/-- The draft with its conflicts behind those of a buffer. -/
def Draft.behind (buffer : List Conflict) (d : Draft) : Draft :=
  { d with conflicts := buffer ++ d.conflicts }

/-! ## Building with a buffer -/

/-- Shorthand and named values, with the conflicts of a buffer in front. -/
def draftInto (buffer : List Conflict) (s : Section) : Except ContentError Draft := do
  (namedValues s).foldlM Draft.addNamed ((← openDraft s).behind buffer)

def plainContentInto (buffer : List Conflict) (s : Section) :
    Except ContentError (Content × List Conflict) :=
  Draft.finish <$> draftInto buffer s

/-- The cards of a carousel; each leaves the buffer to the next. -/
def cardsInto (buffer : List Conflict) (index : Nat) :
    List Section → Except ContentError (List CardContent × List Conflict)
  | [] => .ok ([], buffer)
  | s :: rest =>
    match plainContentInto buffer s with
    | .error e => .error (.card index e)
    | .ok (content, buffer) => do
      let (cards, buffer) ← cardsInto buffer (index + 1) rest
      .ok (cardOf content :: cards, buffer)

def carouselInto (buffer : List Conflict) (s : Section) :
    Except ContentError (RichCard × List Conflict) := do
  let width ← carouselWidth s
  let (cards, buffer) ← cardsInto buffer 1 (s.childrenOf "richCard")
  if cards.isEmpty then .error .emptyCarousel
  else .ok (.carousel ⟨width, cards⟩, buffer)

/-- The content of a message section and the buffer after it, which a carousel shares with its cards. -/
def buildInto (buffer : List Conflict) (s : Section) :
    Except ContentError (Content × List Conflict) :=
  if s.is "carousel" then do
    let d ← draftInto buffer s
    let (card, buffer) ← carouselInto d.conflicts s
    .ok (({ d with conflicts := buffer }).addRichCard card).finish
  else plainContentInto buffer s

/-! ## The steps leave the buffer alone -/

section
variable (buffer : List Conflict) (d : Draft)

theorem addRichCard_behind (card : RichCard) :
    (d.behind buffer).addRichCard card = (d.addRichCard card).behind buffer := by
  simp [Draft.addRichCard, Draft.behind]

theorem addSuggestions_behind (suggestions : List Suggestion) :
    (d.behind buffer).addSuggestions suggestions = (d.addSuggestions suggestions).behind buffer := by
  by_cases empty : d.content.suggestions = []
  · simp [Draft.addSuggestions, Draft.behind, empty]
  · by_cases same : d.content.suggestions = suggestions
    · subst same
      simp [Draft.addSuggestions, Draft.behind, empty]
    · simp [Draft.addSuggestions, Draft.behind, empty, same]

theorem map_behind {α : Type} {add : Draft → α → Draft} (value : Except ContentError α)
    (step : ∀ a, add (d.behind buffer) a = (add d a).behind buffer) :
    add (d.behind buffer) <$> value = Draft.behind buffer <$> (add d <$> value) := by
  cases value with
  | error e => rfl
  | ok a => exact congrArg Except.ok (step a)

theorem addNamed_behind (entry : String × Value) :
    (d.behind buffer).addNamed entry = Draft.behind buffer <$> d.addNamed entry := by
  unfold Draft.addNamed
  split
  · exact map_behind buffer d _ fun text => by simp [Draft.addText, Draft.behind]
  · exact map_behind buffer d _ (addRichCard_behind buffer d)
  · exact map_behind buffer d _ (addSuggestions_behind buffer d)
  · exact map_behind buffer d _ fun file => by simp [Draft.addUploadedFile, Draft.behind]
  · exact map_behind buffer d _ fun info => by simp [Draft.addContentInfo, Draft.behind]
  · exact map_behind buffer d _ fun description => by simp [Draft.addDescription, Draft.behind]
  · exact map_behind buffer d _ fun media => by simp [Draft.addMedia, Draft.behind]
  · rfl

/-- All named values together: each step leaves the buffer in front. -/
theorem addAllNamed_behind (entries : List (String × Value)) :
    entries.foldlM Draft.addNamed (d.behind buffer) =
      Draft.behind buffer <$> entries.foldlM Draft.addNamed d := by
  induction entries generalizing d with
  | nil => rfl
  | cons entry rest ih =>
    rw [List.foldlM_cons, List.foldlM_cons, addNamed_behind]
    cases d.addNamed entry with
    | error e => rfl
    | ok next => exact ih next

/-- The refinement of a card reads fields only. -/
theorem finish_behind : (d.behind buffer).finish = behind buffer d.finish := by
  unfold Draft.finish
  cases given : d.content.richCard with
  | none => simp [Draft.behind, behind, given]
  | some card =>
    cases card with
    | carousel cards => simp [Draft.behind, behind, given]
    | standalone card => simp [Draft.behind, behind, given, Draft.refine]

end

/-! ## The buffer decides nothing -/

variable (buffer : List Conflict)

theorem draftInto_eq (s : Section) : draftInto buffer s = Draft.behind buffer <$> draft s := by
  unfold draftInto draft
  cases openDraft s with
  | error e => rfl
  | ok d => exact addAllNamed_behind buffer d (namedValues s)

theorem plainContentInto_eq (s : Section) :
    plainContentInto buffer s = behind buffer <$> plainContent s := by
  unfold plainContentInto plainContent
  rw [draftInto_eq]
  cases draft s with
  | error e => rfl
  | ok d => exact congrArg Except.ok (finish_behind buffer d)

theorem cardsInto_eq (index : Nat) (sections : List Section) :
    cardsInto buffer index sections = behind buffer <$> cardsFrom index sections := by
  induction sections generalizing buffer index with
  | nil => exact congrArg (fun all => Except.ok ([], all)) (List.append_nil buffer).symm
  | cons s rest ih =>
    rw [cardsInto, cardsFrom, plainContentInto_eq]
    cases plainContent s with
    | error e => rfl
    | ok built =>
      change (cardsInto (buffer ++ built.2) (index + 1) rest >>= _) = _
      rw [ih]
      cases cardsFrom (index + 1) rest with
      | error e => rfl
      | ok later =>
        exact congrArg (fun all => Except.ok (cardOf built.1 :: later.1, all))
          (List.append_assoc buffer built.2 later.2)

theorem carouselInto_eq (s : Section) :
    carouselInto buffer s = behind buffer <$> carousel s := by
  unfold carouselInto carousel
  cases carouselWidth s with
  | error e => rfl
  | ok width =>
    change (cardsInto buffer 1 (s.childrenOf "richCard") >>= _) = _
    rw [cardsInto_eq]
    cases cardsFrom 1 (s.childrenOf "richCard") with
    | error e => rfl
    | ok cards =>
      change (if cards.1.isEmpty = true then _ else _) =
        behind buffer <$> (if cards.1.isEmpty = true then _ else _)
      split <;> rfl

/-- Building a section with a buffer fails as without one, or gives the same content and puts the same
conflicts behind those of the buffer. -/
theorem buildInto_eq (s : Section) : buildInto buffer s = behind buffer <$> build s := by
  unfold buildInto build
  split
  · rw [draftInto_eq]
    cases draft s with
    | error e => rfl
    | ok d =>
      change (carouselInto (buffer ++ d.conflicts) s >>= _) = behind buffer <$> (carousel s >>= _)
      rw [carouselInto_eq]
      cases carousel s with
      | error e => rfl
      | ok built =>
        have moved : Draft.behind buffer { d with conflicts := d.conflicts ++ built.2 } =
            { d with conflicts := buffer ++ d.conflicts ++ built.2 } := by
          simp [Draft.behind]
        change Except.ok ({ d with conflicts := buffer ++ d.conflicts ++ built.2 }.addRichCard
          built.1).finish = Except.ok (behind buffer _)
        rw [← moved, addRichCard_behind, finish_behind]
  · exact plainContentInto_eq buffer s

end Dialogue.Message
