import Dialogue.Proofs.Compilation.Success

/-!
# Runs of compiled flows

A compiled flow is run by firing events: each takes the transition that the present state has for it, else
the state's fallback. The tables of a successful compilation are closed, that is, a transition leads to a
state of the same flow, or out of the flow where the author wrote an atom or a variable. So a run never
comes to a state that the flow does not have.
-/
namespace Dialogue

/-- All transitions of a state. -/
def StateNode.transitions (s : StateNode) : List Transition := s.on.values ++ s.always.toList

/-- The transition that an event fires: its own, else the fallback. -/
def StateNode.next? (s : StateNode) (event : String) : Option Transition :=
  (s.on.get? event).or s.always

namespace Flow

/-- Where a run stands after an event. It stays where nothing fires, and where there is no state. -/
def fire (f : Flow) (place event : String) : String :=
  match (f.states.get? place).bind fun s => s.next? event with
  | some t => t.target
  | none => place

/-- Where a run stands after events, fired one after the other. -/
def run (f : Flow) (events : List String) : String := events.foldl f.fire f.initial

/-- A rule of the state leads out of the flow: to an atom, written `:name`, or to a variable, written
`@name`. -/
def LeadsOut (state : Section) (target : String) : Prop :=
  ∃ v ∈ ruleTargets state,
    (∃ name range, v.core = .atom name range ∧ target = ":" ++ Value.atomName name) ∨
      ∃ name range, v.core = .reference name range ∧ target = "@" ++ name

/-! ## Transitions -/

theorem next?_mem {s : StateNode} {event : String} {t : Transition}
    (next : s.next? event = some t) : t ∈ s.transitions := by
  unfold StateNode.next? at next
  unfold StateNode.transitions
  cases own : s.on.get? event with
  | some found =>
    simp only [own, Option.some_or, Option.some.injEq] at next
    subst next
    have entry := (Table.get?_eq_some_iff _ _ _).mp own
    exact List.mem_append_left _ (List.mem_map.mpr ⟨_, entry, rfl⟩)
  | none =>
    simp only [own, Option.none_or] at next
    simp [next]

/-- Every transition of a compiled state is that of a rule. -/
theorem transition_of_rule {state : Section} {t : Transition}
    (member : t ∈ (compileState state).transitions) :
    ∃ v ∈ ruleTargets state, transition? v = some t := by
  unfold StateNode.transitions at member
  rcases List.mem_append.mp member with keyed | fallback
  · obtain ⟨entry, listed, rfl⟩ := List.mem_map.mp keyed
    rw [compileState_on] at listed
    obtain ⟨rule, made, offered⟩ := List.mem_filterMap.mp (Table.mem_entries_ofFirst listed)
    have led := ((rule.offer?_eq_some_iff entry.1 entry.2).mp offered).2
    exact ⟨rule.target, List.mem_append_left _ (List.mem_map.mpr ⟨rule, made, rfl⟩), led⟩
  · rw [compileState_always, Option.mem_toList] at fallback
    obtain ⟨v, made, led⟩ := List.exists_of_findSome?_eq_some fallback
    exact ⟨v, List.mem_append_right _ made, led⟩

/-- The target of a transition is the state that its value names, or an atom or a variable. -/
theorem target_cases {v : Value} {t : Transition} (led : transition? v = some t) :
    v.stateRef? = some t.target ∨
      (∃ name range, v.core = .atom name range ∧ t.target = ":" ++ Value.atomName name) ∨
      ∃ name range, v.core = .reference name range ∧ t.target = "@" ++ name := by
  obtain ⟨text, written, rfl⟩ := Option.map_eq_some_iff.mp led
  unfold targetText? at written
  unfold Value.stateRef?
  split at written
  · next found => exact Or.inl (by simpa [found] using written)
  · next name range found => exact Or.inr (Or.inl ⟨name, range, found, by simpa using written.symm⟩)
  · next name range found => exact Or.inr (Or.inr ⟨name, range, found, by simpa using written.symm⟩)
  · simp at written

/-! ## Closed tables -/

/-- A place that a run of a flow may come to. -/
def IsPlace (source : Section) (place : String) : Prop :=
  place ∈ (compile source).states.keys ∨ ∃ state ∈ stateSections source, LeadsOut state place

theorem transition_closed {source state : Section} (sound : Check.FlowSound source)
    (member : state ∈ stateSections source) {t : Transition}
    (has : t ∈ (compileState state).transitions) :
    t.target ∈ (compile source).states.keys ∨ LeadsOut state t.target := by
  obtain ⟨v, rule, led⟩ := transition_of_rule has
  rcases target_cases led with named | out
  · exact Or.inl ((mem_keys_compileStates source _).mpr (sound.declared state member v rule _ named))
  · exact Or.inr ⟨v, rule, out⟩

/-- One event leads from a place of the flow to a place of the flow. -/
theorem fire_isPlace {source : Section} (sound : Check.FlowSound source) {place : String}
    (here : IsPlace source place) (event : String) :
    IsPlace source ((compile source).fire place event) := by
  unfold fire
  split
  · next t fired =>
    obtain ⟨node, found, next⟩ := Option.bind_eq_some_iff.mp fired
    have entry := (Table.get?_eq_some_iff _ _ _).mp found
    obtain ⟨state, member, _, rfl⟩ := mem_entries_tableOf compileState entry
    rcases transition_closed sound member (next?_mem next) with declared | out
    · exact Or.inl declared
    · exact Or.inr ⟨state, member, out⟩
  · exact here

/-- Whatever events are fired, a run stands at a place of the flow. -/
theorem run_isPlace {source : Section} (sound : Check.FlowSound source) (events : List String) :
    IsPlace source ((compile source).run events) := by
  have started : IsPlace source (compile source).initial := Or.inl (initial_declared sound)
  unfold run
  generalize (compile source).initial = place at started
  induction events generalizing place with
  | nil => exact started
  | cons event rest ih => exact ih _ (fire_isPlace sound started event)

end Flow

/-- The tables of a successful compilation are closed. Every flow comes from a flow section of its name
and starts with one of its states; every transition of every state leads to a state of the flow, or out of
it by an atom or a variable that a rule of that state gives as its target; and whatever events are fired,
a run stands in a state of the flow or has left it in one of these two ways. -/
theorem compiled_flows_closed (options : CompilerOptions) (input : SourceDocument)
    (c : CompiledAgent) (success : (compile options input).data = some c) :
    ∀ name flow, (name, flow) ∈ c.flows.entries →
      ∃ source ∈ input.ast.gather "flow", source.name? = some name ∧
        flow.initial ∈ flow.states.keys ∧
        (∀ state node, (state, node) ∈ flow.states.entries →
          ∃ s ∈ Flow.stateSections source, s.name? = some state ∧
            ∀ t ∈ node.transitions, t.target ∈ flow.states.keys ∨ Flow.LeadsOut s t.target) ∧
        ∀ events, flow.run events ∈ flow.states.keys ∨
          ∃ s ∈ Flow.stateSections source, Flow.LeadsOut s (flow.run events) := by
  intro name flow member
  obtain ⟨sound, _, _, flows⟩ := compile_data success
  rw [flows, Flow.compileAll_eq_tableOf] at member
  obtain ⟨source, gathered, named, rfl⟩ := Flow.mem_entries_tableOf Flow.compile member
  have flowSound := sound.flows source gathered
  refine ⟨source, gathered, named, Flow.initial_declared flowSound, ?_,
    Flow.run_isPlace flowSound⟩
  intro state node listed
  obtain ⟨s, inside, called, rfl⟩ := Flow.mem_entries_tableOf Flow.compileState listed
  exact ⟨s, inside, called, fun t has => Flow.transition_closed flowSound inside has⟩

theorem compiled_flows_closed_order :
    ∃ c flow, (compile .standard orderInput).data = some c ∧
      c.flows.get? "Order" = some flow ∧ flow.initial ∈ flow.states.keys ∧
      ∃ source ∈ orderInput.ast.gather "flow",
        ∀ events, flow.run events ∈ flow.states.keys ∨
          ∃ s ∈ Flow.stateSections source, Flow.LeadsOut s (flow.run events) := by
  have compiled : (((compile .standard orderInput).data.bind fun c =>
      c.flows.get? "Order")).isSome = true := by decide +kernel
  obtain ⟨flow, compiled⟩ := Option.isSome_iff_exists.mp compiled
  obtain ⟨c, success, found⟩ := Option.bind_eq_some_iff.mp compiled
  have entry := (Table.get?_eq_some_iff _ _ _).mp found
  obtain ⟨source, gathered, _, initial, _, runs⟩ :=
    compiled_flows_closed .standard orderInput c success "Order" flow entry
  exact ⟨c, flow, success, found, initial, source, gathered, runs⟩

example : ((compile .standard orderInput).data.bind fun c =>
    (c.flows.get? "Order").map fun flow => flow.run ["hi", "anything", "bye", "hi"]) =
      some ":end" := by decide +kernel

end Dialogue
