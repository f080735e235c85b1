import Dialogue.Document.Section

/-!
# The values of a document

Values stand in parameters, attributes, rules and bodies, and in lists, dictionaries and contexts of other
values. Here they are listed, from the outside in and in the order in which they are written.
-/
namespace Dialogue

namespace Value

/-- The values that stand directly inside a value. -/
def inner : Value → List Value
  | .list items _ => items
  | .dictionary entries _ => entries.map Prod.snd
  | .contextualized value context _ => value :: context.map Labelled.value
  | _ => []

mutual

/-- The value and all values inside it. -/
def parts : Value → List Value
  | .list items range => .list items range :: itemsParts items
  | .dictionary entries range => .dictionary entries range :: entriesParts entries
  | .contextualized value context range =>
    .contextualized value context range :: (value.parts ++ contextParts context)
  | value => [value]

def itemsParts : List Value → List Value
  | [] => []
  | item :: rest => item.parts ++ itemsParts rest

def entriesParts : List (String × Value) → List Value
  | [] => []
  | (_, value) :: rest => value.parts ++ entriesParts rest

def contextParts : List (Labelled Value) → List Value
  | [] => []
  | ⟨_, value, _⟩ :: rest => value.parts ++ contextParts rest

end

theorem itemsParts_eq (items : List Value) : itemsParts items = items.flatMap parts := by
  induction items with
  | nil => rfl
  | cons item rest ih => rw [itemsParts, ih, List.flatMap_cons]

theorem entriesParts_eq (entries : List (String × Value)) :
    entriesParts entries = (entries.map Prod.snd).flatMap parts := by
  induction entries with
  | nil => rfl
  | cons entry rest ih => rw [entriesParts, ih, List.map_cons, List.flatMap_cons]

theorem contextParts_eq (context : List (Labelled Value)) :
    contextParts context = (context.map Labelled.value).flatMap parts := by
  induction context with
  | nil => rfl
  | cons parameter rest ih => rw [contextParts, ih, List.map_cons, List.flatMap_cons]

theorem parts_eq (v : Value) : v.parts = v :: v.inner.flatMap parts := by
  cases v with
  | list items range => rw [parts, itemsParts_eq, inner]
  | dictionary entries range => rw [parts, entriesParts_eq, inner]
  | contextualized value context range => rw [parts, contextParts_eq, inner, List.flatMap_cons]
  | _ => rfl

theorem sizeOf_inner {v w : Value} (inside : w ∈ v.inner) : sizeOf w < sizeOf v := by
  cases v with
  | list items range =>
    have small : sizeOf w < sizeOf items := List.sizeOf_lt_of_mem inside
    simp only [list.sizeOf_spec]
    omega
  | dictionary entries range =>
    obtain ⟨⟨key, value⟩, member, rfl⟩ := List.mem_map.mp inside
    have small := List.sizeOf_lt_of_mem member
    simp only [Prod.mk.sizeOf_spec] at small
    simp only [dictionary.sizeOf_spec]
    omega
  | contextualized value context range =>
    simp only [contextualized.sizeOf_spec]
    rcases List.mem_cons.mp inside with rfl | around
    · omega
    · obtain ⟨⟨key, part, place⟩, member, rfl⟩ := List.mem_map.mp around
      have small := List.sizeOf_lt_of_mem member
      simp only [Labelled.mk.sizeOf_spec] at small ⊢
      omega
  | _ => simp [inner] at inside

/-- What passes from the values inside a value to the value itself holds of all values. -/
theorem inner_induction {P : Value → Prop} (step : ∀ v, (∀ w ∈ v.inner, P w) → P v) (v : Value) :
    P v :=
  step v fun w _ => inner_induction step w
termination_by sizeOf v
decreasing_by exact sizeOf_inner ‹_›

theorem literal_core (v : Value) : v.core.literal = v.literal := by
  induction v using inner_induction with
  | step v ih =>
    cases v with
    | contextualized value context range => exact ih value List.mem_cons_self
    | _ => rfl

/-- Whether a value stands in a context of its own. -/
def isContextualized : Value → Bool
  | .contextualized .. => true
  | _ => false

theorem isContextualized_core (v : Value) : v.core.isContextualized = false := by
  induction v using inner_induction with
  | step v ih =>
    cases v with
    | contextualized value context range => exact ih value List.mem_cons_self
    | _ => rfl

theorem literalItems_eq (items : List Value) : literalItems items = items.map literal := by
  induction items with
  | nil => rfl
  | cons item rest ih => rw [literalItems, ih, List.map_cons]

theorem literalEntries_eq (entries : List (String × Value)) :
    literalEntries entries = entries.map fun entry => (entry.1, entry.2.literal) := by
  induction entries with
  | nil => rfl
  | cons entry rest ih => rw [literalEntries, ih, List.map_cons]

section
variable {f : Value → Value}

theorem literal_list_congr {items : List Value} (same : ∀ item ∈ items, (f item).literal = item.literal)
    (range range' : Option Range) :
    (Value.list (items.map f) range').literal = (Value.list items range).literal := by
  have literals : (items.map f).map literal = items.map literal := by
    rw [List.map_map]
    exact List.map_congr_left same
  rw [literal, literal, literalItems_eq, literalItems_eq, literals]

theorem literal_dictionary_congr {entries : List (String × Value)}
    (same : ∀ v ∈ entries.map Prod.snd, (f v).literal = v.literal) (range range' : Option Range) :
    (Value.dictionary (entries.map fun entry => (entry.1, f entry.2)) range').literal =
      (Value.dictionary entries range).literal := by
  have literals : (entries.map fun entry => (entry.1, f entry.2)).map
      (fun entry => (entry.1, entry.2.literal)) = entries.map fun entry => (entry.1, entry.2.literal) := by
    rw [List.map_map]
    refine List.map_congr_left fun entry member => ?_
    exact congrArg (Prod.mk entry.1) (same entry.2 (List.mem_map_of_mem member))
  rw [literal, literal, literalEntries_eq, literalEntries_eq, literals]

end

/-- A property of the value and of all values inside it. -/
def Everywhere (p : Value → Bool) (v : Value) : Prop := ∀ part ∈ v.parts, p part = true

theorem everywhere_iff (p : Value → Bool) (v : Value) :
    v.Everywhere p ↔ p v = true ∧ ∀ w ∈ v.inner, w.Everywhere p := by
  simp only [Everywhere, parts_eq v, List.mem_cons, List.mem_flatMap]
  constructor
  · exact fun all => ⟨all v (Or.inl rfl), fun w member part inside => all part (Or.inr ⟨w, member, inside⟩)⟩
  · rintro ⟨here, deeper⟩ part (rfl | ⟨w, member, inside⟩)
    · exact here
    · exact deeper w member part inside

/-- A number is finite; other values always are. -/
def isFinite : Value → Bool
  | .number x _ => x.isFinite
  | _ => true

/-- A dictionary has no key twice; other values have none. -/
def isKeyed : Value → Bool
  | .dictionary entries _ => decide (entries.map Prod.fst).Nodup
  | _ => true

/-- The value itself, whatever stands inside it, can be written without loss. -/
def isFaithful (v : Value) : Bool := v.isFinite && v.isKeyed

theorem isFaithful_iff (v : Value) :
    v.isFaithful = true ↔ v.isFinite = true ∧ v.isKeyed = true := Bool.and_eq_true_iff

end Value

def MatchCase.values (c : MatchCase) : List Value := c.pattern.parts ++ c.consequence.parts

def MatchBlock.values (m : MatchBlock) : List Value :=
  m.discriminant.parts ++ m.cases.flatMap MatchCase.values

def DirectTransition.values (t : DirectTransition) : List Value :=
  t.operand.toList.flatMap Value.parts ++ t.target.parts

mutual

/-- All values in a section and in the sections inside it. -/
def Section.values : Section → List Value
  | ⟨_, _, parameters, body, _⟩ =>
    parameters.flatMap (fun p => p.value.parts) ++ Node.listValues body

def Node.values : Node → List Value
  | .child s => s.values
  | .attribute a => a.value.parts
  | .matchBlock m => m.values
  | .transition t => t.values
  | .value v => v.parts

def Node.listValues : List Node → List Value
  | [] => []
  | node :: rest => node.values ++ Node.listValues rest

end

theorem Node.listValues_eq (body : List Node) : Node.listValues body = body.flatMap Node.values := by
  induction body with
  | nil => rfl
  | cons node rest ih => rw [Node.listValues, ih, List.flatMap_cons]

theorem Node.mem_values_of_child {n : Node} {s : Section} {v : Value} (isChild : n.child? = some s)
    (listed : v ∈ s.values) : v ∈ n.values := by
  cases n with
  | child s =>
    cases isChild
    exact listed
  | _ => cases isChild

theorem Section.forall_mem_values {s : Section} {P : Value → Prop} :
    (∀ v ∈ s.values, P v) ↔
      (∀ p ∈ s.parameters, ∀ v ∈ p.value.parts, P v) ∧ ∀ n ∈ s.body, ∀ v ∈ n.values, P v := by
  obtain ⟨kind, identifier, parameters, body, range⟩ := s
  rw [Section.values, Node.listValues_eq, List.forall_mem_append, List.forall_mem_flatMap,
    List.forall_mem_flatMap]

theorem Section.sizeOf_children {s c : Section} (inside : c ∈ s.children) : sizeOf c < sizeOf s := by
  obtain ⟨kind, identifier, parameters, body, range⟩ := s
  obtain ⟨node, member, isChild⟩ := List.mem_filterMap.mp inside
  have small := List.sizeOf_lt_of_mem member
  cases node with
  | child s =>
    cases isChild
    simp only [Node.child.sizeOf_spec] at small
    simp only [Section.mk.sizeOf_spec]
    omega
  | _ => cases isChild

/-- What passes from the children of a section to the section itself holds of all sections. -/
theorem Section.children_induction {P : Section → Prop}
    (step : ∀ s, (∀ c ∈ s.children, P c) → P s) (s : Section) : P s :=
  step s fun c _ => Section.children_induction step c
termination_by sizeOf s
decreasing_by exact Section.sizeOf_children ‹_›

def Document.values (doc : Document) : List Value := doc.sections.flatMap Section.values

end Dialogue
