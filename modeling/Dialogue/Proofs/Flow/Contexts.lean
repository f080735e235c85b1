import Dialogue.Document.Builder
import Dialogue.Proofs.Document.Values
import Dialogue.Proofs.Flow.Rules

/-!
# Contexts of transitions

The target of a transition may stand in a context, and a context in another (`Next with size: 3`). What is under all
contexts says where the transition leads. The parameters that it carries are read from the outermost context inward:
a name stands where it comes up first, with the value that it has there.
-/
namespace Dialogue

namespace Value

/-! ## Layers -/

/-- One context around a value. -/
structure Layer where
  parameters : List Parameter
  range : Option Range

/-- The named parameters of a context, in their order. -/
def Layer.named (layer : Layer) : List (String × Value) :=
  layer.parameters.filterMap fun p => p.key.map fun key => (key, p.value)

/-- The value inside contexts, the outermost first. -/
def within (v : Value) (outer : List Layer) : Value :=
  outer.foldr (fun layer inside => .contextualized inside layer.parameters layer.range) v

/-- The contexts around the core of a value, the outermost first. -/
def layers : Value → List Layer
  | .contextualized value parameters range => ⟨parameters, range⟩ :: value.layers
  | _ => []

/-- A value is its core inside its layers. -/
theorem core_within_layers (v : Value) : v.core.within v.layers = v := by
  induction v using inner_induction with
  | step v ih =>
    cases v with
    | contextualized value parameters range =>
      exact congrArg (contextualized · parameters range) (ih value List.mem_cons_self)
    | _ => rfl

@[simp] theorem core_within (v : Value) (outer : List Layer) : (v.within outer).core = v.core := by
  induction outer with
  | nil => rfl
  | cons layer rest ih => exact ih

@[simp] theorem layers_within (v : Value) (outer : List Layer) :
    (v.within outer).layers = outer ++ v.layers := by
  induction outer with
  | nil => rfl
  | cons layer rest ih => exact congrArg (layer :: ·) ih

/-- Nothing is left to take off a core. -/
theorem core_core (v : Value) : v.core.core = v.core := by
  conv => rhs; rw [← v.core_within_layers, core_within]

theorem context_eq_layers (v : Value) : v.context = v.layers.flatMap Layer.parameters := by
  induction v using inner_induction with
  | step v ih =>
    cases v with
    | contextualized value parameters range =>
      exact congrArg (parameters ++ ·) (ih value List.mem_cons_self)
    | _ => rfl

/-- The literal that a name is given first, read from the outermost layer inward. -/
def firstNamed? (outer : List Layer) (name : String) : Option Json :=
  ((outer.flatMap Layer.named).find? fun entry => entry.1 = name).map fun entry => entry.2.literal

theorem firstNamed?_append (outer inner : List Layer) (name : String) :
    firstNamed? (outer ++ inner) name = (firstNamed? outer name).or (firstNamed? inner name) := by
  unfold firstNamed?
  rw [List.flatMap_append, List.find?_append, Option.map_or]

end Value

namespace Flow

open Value (Layer firstNamed?)

/-! ## What a transition takes from the layers -/

theorem contextEntries_eq_layers (v : Value) :
    contextEntries v =
      (v.layers.flatMap Layer.named).map fun entry => (entry.1, entry.2.literal) := by
  rw [contextEntries, v.context_eq_layers, List.filterMap_flatMap, List.map_flatMap]
  refine congrArg (v.layers.flatMap ·) (funext fun layer => ?_)
  rw [Layer.named, List.map_filterMap]
  simp only [Option.map_map, Function.comp_def]

theorem lookup_contextEntries (v : Value) (name : String) :
    Table.lookup name (contextEntries v) = firstNamed? v.layers name := by
  rw [contextEntries_eq_layers, Table.lookup_eq_find?, List.find?_map, Option.map_map]
  rfl

theorem targetText?_core (v : Value) : targetText? v.core = targetText? v := by
  rw [targetText?, targetText?, v.core_core]

theorem targetText?_within (v : Value) (outer : List Layer) :
    targetText? (v.within outer) = targetText? v := by
  rw [← targetText?_core, Value.core_within, targetText?_core]

theorem target_transition? (v : Value) : (transition? v).map Transition.target = targetText? v := by
  rw [transition?, Option.map_map]
  exact Option.map_id'

/-- The kinds of values that a transition may lead to. -/
theorem isTarget_iff_core (v : Value) :
    isTarget v = true ↔ ∃ name range,
      v.core = .identifier name range ∨ v.core = .atom name range ∨ v.core = .reference name range := by
  unfold isTarget targetText?
  cases v.core <;> simp

theorem context_of_transition {v : Value} {t : Transition} (led : transition? v = some t) :
    t.context = Table.ofFirst (contextEntries v) := by
  obtain ⟨target, _, rfl⟩ := Option.map_eq_some_iff.mp led
  rfl

/-- The keys of the context are the names of the layers' parameters, each where it comes up first. -/
theorem keys_of_transition {v : Value} {t : Transition} (led : transition? v = some t) :
    t.context.keys = ((v.layers.flatMap Layer.named).map Prod.fst).eraseDups := by
  rw [context_of_transition led, Table.keys_ofFirst, contextEntries_eq_layers, List.map_map]
  rfl

theorem get?_of_transition {v : Value} {t : Transition} (led : transition? v = some t) (key : String) :
    t.context.get? key = firstNamed? v.layers key := by
  rw [context_of_transition led, Table.get?_ofFirst, lookup_contextEntries]

/-- Further contexts around a value lead to the same target and lose no key. What they say of a key counts; of the
other keys, what the value says by itself does. -/
theorem transition_within {v : Value} {t : Transition} (led : transition? v = some t) (outer : List Layer) :
    ∃ wrapped, transition? (v.within outer) = some wrapped ∧ wrapped.target = t.target ∧
      (∀ key ∈ t.context.keys, key ∈ wrapped.context.keys) ∧
      ∀ key, wrapped.context.get? key = (firstNamed? outer key).or (t.context.get? key) := by
  obtain ⟨target, written, rfl⟩ := Option.map_eq_some_iff.mp led
  have again : transition? (v.within outer) =
      some ⟨target, Table.ofFirst (contextEntries (v.within outer))⟩ := by
    rw [transition?, targetText?_within, written]
    rfl
  refine ⟨_, again, rfl, fun key member => ?_, fun key => ?_⟩
  · rw [keys_of_transition led, List.mem_eraseDups] at member
    rw [keys_of_transition again, List.mem_eraseDups, Value.layers_within, List.flatMap_append,
      List.map_append]
    exact List.mem_append_right _ member
  · rw [get?_of_transition again, get?_of_transition led, Value.layers_within,
      Value.firstNamed?_append]

/-- A transition reads its value layer by layer. It is there exactly if an identifier, an atom or a variable is under
all contexts, and leads where that leads by itself. Its context has the names of the parameters in the order in which
they come up first, from the outermost layer inward, each with the literal that it is given first; parameters
without a name do not count. So further layers lose no key, and no layer overrides one around it. -/
theorem transition_reads_layers (v : Value) :
    (v.core.isContextualized = false ∧ v.core.within v.layers = v) ∧
      ((∃ t, transition? v = some t) ↔ ∃ name range,
        v.core = .identifier name range ∨ v.core = .atom name range ∨ v.core = .reference name range) ∧
      (transition? v).map Transition.target = (transition? v.core).map Transition.target ∧
      ∀ t, transition? v = some t →
        t.context.keys = ((v.layers.flatMap Layer.named).map Prod.fst).eraseDups ∧
        (∀ key, t.context.get? key = firstNamed? v.layers key) ∧
        ∀ outer, ∃ wrapped, transition? (v.within outer) = some wrapped ∧ wrapped.target = t.target ∧
          (∀ key ∈ t.context.keys, key ∈ wrapped.context.keys) ∧
          ∀ key, wrapped.context.get? key = (firstNamed? outer key).or (t.context.get? key) := by
  refine ⟨⟨v.isContextualized_core, v.core_within_layers⟩, ?_, ?_, fun t led => ?_⟩
  · rw [← isTarget_iff, isTarget_iff_core]
  · rw [target_transition?, target_transition?, targetText?_core]
  · exact ⟨keys_of_transition led, get?_of_transition led, transition_within led⟩

/-- A state in two contexts that share a key, one of which has a parameter without a name. -/
def twiceWrapped : Value :=
  (Value.identifier "Pay" none).within
    [⟨[⟨some "size", .string "large" none, none⟩, ⟨none, .string "ignored" none, none⟩], none⟩,
      ⟨[⟨some "cup", .string "blue" none, none⟩, ⟨some "size", .string "small" none, none⟩], none⟩]

example : (transition? twiceWrapped).map (fun t => (t.target, t.context.keys)) =
    some ("Pay", ["size", "cup"]) := by decide +kernel

end Flow

end Dialogue
