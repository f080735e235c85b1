import Dialogue.Proofs.Message.Reading

/-!
# Contexts in messages

A value may be given together with a context (`"Hello" with tone: "warm"`), and so may the items of a list and the
entries of a dictionary. Contexts are meant for whoever runs the agent: the content of a message is the same without
them, and so is the error if there is one.
-/
namespace Dialogue

namespace Value

mutual

/-- The value without its context and without the contexts of all values inside it. -/
def withoutContexts : Value → Value
  | .list items range => .list (itemsWithoutContexts items) range
  | .dictionary entries range => .dictionary (entriesWithoutContexts entries) range
  | .contextualized value _ _ => value.withoutContexts
  | value => value

def itemsWithoutContexts : List Value → List Value
  | [] => []
  | item :: rest => item.withoutContexts :: itemsWithoutContexts rest

def entriesWithoutContexts : List (String × Value) → List (String × Value)
  | [] => []
  | (key, value) :: rest => (key, value.withoutContexts) :: entriesWithoutContexts rest

end

theorem itemsWithoutContexts_eq (items : List Value) :
    itemsWithoutContexts items = items.map withoutContexts := by
  induction items with
  | nil => rfl
  | cons item rest ih => rw [itemsWithoutContexts, ih, List.map_cons]

theorem entriesWithoutContexts_eq (entries : List (String × Value)) :
    entriesWithoutContexts entries = entries.map fun entry => (entry.1, entry.2.withoutContexts) := by
  induction entries with
  | nil => rfl
  | cons entry rest ih => rw [entriesWithoutContexts, ih, List.map_cons]

theorem literal_withoutContexts (v : Value) : v.withoutContexts.literal = v.literal := by
  induction v using inner_induction with
  | step v inside =>
    cases v with
    | contextualized value context range => exact inside value List.mem_cons_self
    | list items range =>
      rw [withoutContexts, itemsWithoutContexts_eq]
      exact literal_list_congr inside _ _
    | dictionary entries range =>
      rw [withoutContexts, entriesWithoutContexts_eq]
      exact literal_dictionary_congr inside _ _
    | _ => rfl

theorem core_withoutContexts (v : Value) : v.withoutContexts.core = v.core.withoutContexts := by
  induction v using inner_induction with
  | step v inside =>
    cases v with
    | contextualized value context range => exact inside value List.mem_cons_self
    | _ => rfl

/-- No context is left, however deep. -/
theorem everywhere_withoutContexts (v : Value) :
    v.withoutContexts.Everywhere fun part => !part.isContextualized := by
  induction v using inner_induction with
  | step v inside =>
    cases v with
    | contextualized value context range => exact inside value List.mem_cons_self
    | list items range =>
      rw [withoutContexts, itemsWithoutContexts_eq]
      refine (everywhere_iff _ _).mpr ⟨rfl, fun w member => ?_⟩
      obtain ⟨item, listed, rfl⟩ := List.mem_map.mp member
      exact inside item listed
    | dictionary entries range =>
      rw [withoutContexts, entriesWithoutContexts_eq]
      refine (everywhere_iff _ _).mpr ⟨rfl, fun w member => ?_⟩
      rw [inner, List.map_map] at member
      obtain ⟨entry, listed, rfl⟩ := List.mem_map.mp member
      exact inside entry.2 (List.mem_map_of_mem listed)
    | _ => exact (everywhere_iff _ _).mpr ⟨rfl, fun w member => absurd member List.not_mem_nil⟩

theorem unnoticed_withoutContexts : Unnoticed withoutContexts := by
  refine .of_bare literal_withoutContexts core_withoutContexts fun v bare => ?_
  cases v with
  | contextualized value context range => cases bare
  | atom value range => exact .atom _ _ rfl
  | list items range =>
    rw [withoutContexts, itemsWithoutContexts_eq]
    exact .list items _ _
  | dictionary entries range =>
    rw [withoutContexts, entriesWithoutContexts_eq]
    refine .dictionary _ _ ?_
    rw [List.map_map]
    rfl
  | _ => constructor

end Value

/-! ## Sections -/

def Labelled.withoutContexts (p : Parameter) : Parameter := { p with value := p.value.withoutContexts }

def Attribute.withoutContexts (a : Attribute) : Attribute := { a with value := a.value.withoutContexts }

/-- Clears an attribute. Sections inside are left to `inside`, and all other nodes stay as they are: a string that
stands by itself in a body is a text only if it has no context. -/
def Node.clear (inside : Section → Section) : Node → Node
  | .child s => .child (inside s)
  | .attribute a => .attribute a.withoutContexts
  | node => node

namespace Section

/-- Clears the parameters and the attributes of a section. -/
def clear (inside : Section → Section) (s : Section) : Section :=
  ⟨s.kind, s.identifier, s.parameters.map Labelled.withoutContexts, s.body.map (Node.clear inside), s.range⟩

def clearCard (s : Section) : Section := if s.is "richCard" then s.clear id else s

/-- A message section without contexts in the values that it gives itself or in its cards. -/
def withoutContexts (s : Section) : Section := s.clear clearCard

/-- The values of the parameters and of the attributes. -/
def givenValues (s : Section) : List Value :=
  s.parameters.map Labelled.value ++ s.attributes.map Attribute.value

/-- The values that a message is built from: its own and those of its cards. -/
def messageValues (s : Section) : List Value :=
  s.givenValues ++ (s.childrenOf "richCard").flatMap givenValues

section
variable (inside : Section → Section) (s : Section)

theorem attributes_clear : (s.clear inside).attributes = s.attributes.map Attribute.withoutContexts := by
  rw [attributes, attributes, clear, List.filterMap_map, List.map_filterMap]
  congr 1
  funext node
  cases node <;> rfl

theorem children_clear : (s.clear inside).children = s.children.map inside := by
  rw [children, children, clear, List.filterMap_map, List.map_filterMap]
  congr 1
  funext node
  cases node <;> rfl

theorem positional?_clear : (s.clear inside).positional? = s.positional?.map Value.withoutContexts := by
  simp [positional?, clear, List.find?_map, Function.comp_def, Labelled.withoutContexts]

theorem named_clear :
    (s.clear inside).named = s.named.map fun entry => (entry.1, entry.2.withoutContexts) := by
  simp [named, clear, List.filterMap_map, List.map_filterMap, Function.comp_def, Labelled.withoutContexts]

theorem givenValues_clear : (s.clear inside).givenValues = s.givenValues.map Value.withoutContexts := by
  rw [givenValues, givenValues, attributes_clear, List.map_append, List.map_map, List.map_map, clear,
    List.map_map, List.map_map]
  rfl

end

theorem is_clearCard (s : Section) (kind : String) : s.clearCard.is kind = s.is kind := by
  unfold clearCard
  split <;> rfl

theorem cards_withoutContexts (s : Section) :
    s.withoutContexts.childrenOf "richCard" = (s.childrenOf "richCard").map (clear id) := by
  rw [childrenOf, childrenOf, withoutContexts, children_clear, List.filter_map]
  simp only [Function.comp_def, is_clearCard]
  refine List.map_congr_left fun card member => ?_
  exact if_pos (List.mem_filter.mp member).2

theorem messageValues_withoutContexts (s : Section) :
    s.withoutContexts.messageValues = s.messageValues.map Value.withoutContexts := by
  rw [messageValues, messageValues, cards_withoutContexts, withoutContexts, givenValues_clear,
    List.map_append, List.flatMap_map, List.map_flatMap]
  simp only [givenValues_clear]

end Section

namespace Message

theorem bareString?_clear (inside : Section → Section) (n : Node) :
    bareString? (n.clear inside) = (bareString? n).map Value.withoutContexts := by
  cases n with
  | value v => cases v <;> rfl
  | _ => rfl

theorem givesAlike_clear (inside : Section → Section) (s : Section) :
    GivesAlike Value.withoutContexts s (s.clear inside) where
  kind := rfl
  shorthand := shorthand?_congr rfl (Section.positional?_clear inside s) rfl (bareString?_clear inside)
  named := Section.named_clear inside s
  attributes := by
    rw [Section.attributes_clear, List.map_map]
    rfl

/-- Contexts have no say in what a message shows, nor in what is wrong with it: a section all of whose values, and
those of its cards, are without contexts has the content of the section and fails with the same error. -/
theorem content_without_contexts (s : Section) :
    content s.withoutContexts = content s ∧ build s.withoutContexts = build s ∧
      s.withoutContexts.messageValues = s.messageValues.map Value.withoutContexts ∧
      ∀ v ∈ s.withoutContexts.messageValues, v.Everywhere fun part => !part.isContextualized := by
  have same : build s.withoutContexts = build s :=
    build_congr Value.unnoticed_withoutContexts (givesAlike_clear id) (givesAlike_clear Section.clearCard s)
      s.cards_withoutContexts
  refine ⟨by rw [content, content, same], same, s.messageValues_withoutContexts, fun v member => ?_⟩
  rw [s.messageValues_withoutContexts] at member
  obtain ⟨given, _, rfl⟩ := List.mem_map.mp member
  exact given.everywhere_withoutContexts

end Message

end Dialogue
