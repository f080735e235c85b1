import Dialogue.Proofs.Compilation.Success

/-!
# Nothing is left out of a compiled flow

The compiler passes over what it cannot use: flows and states without a name or with a name that is taken,
rules without a nameable event or without a target. None of this happens in a successful compilation,
since each of these is an error of the document.
-/
namespace Dialogue

namespace Flow

/-- Every rule of a state has left its mark on a compiled state: a rule with an event is found under it,
and if there is a rule without an event there is a fallback. -/
structure Represents (node : StateNode) (state : Section) : Prop where
  operandKeyed : ∀ rule operand, Node.transition rule ∈ state.body → rule.operand = some operand →
    ∃ event, eventName? operand = some event ∧ event ∈ node.on.keys
  attributeKeyed : ∀ a, Node.attribute a ∈ state.body → a.key ∉ actionAttributes →
    isTarget a.value = true → a.key ∈ node.on.keys
  caseKeyed : ∀ block c, Node.matchBlock block ∈ state.body → c ∈ block.cases →
    c.isDefault = false → ∃ event, matchEventName? c.pattern = some event ∧ event ∈ node.on.keys
  plainFallback : ∀ rule, Node.transition rule ∈ state.body → rule.operand = none →
    ∃ t, node.always = some t
  bareFallback : ∀ v name, Node.value v ∈ state.body → v.stateRef? = some name →
    ∃ t, node.always = some t
  defaultFallback : ∀ block c, Node.matchBlock block ∈ state.body → c ∈ block.cases →
    c.isDefault = true → ∃ t, node.always = some t

/-- The event of a complete keyed rule is in the table. -/
theorem keyed_represented {state : Section}
    (complete : Check.RulesComplete (keyedRules state) (fallbacks state)) {rule : KeyedRule}
    (member : rule ∈ keyedRules state) :
    ∃ event, rule.event? = some event ∧ event ∈ (compileState state).on.keys := by
  obtain ⟨⟨event, t⟩, offered⟩ := complete.entries rule member
  refine ⟨event, ((rule.offer?_eq_some_iff event t).mp offered).1, ?_⟩
  rw [compileState_on, Table.mem_keys_ofFirst]
  exact List.mem_map.mpr ⟨(event, t), List.mem_filterMap.mpr ⟨rule, member, offered⟩, rfl⟩

theorem fallback_represented {state : Section}
    (complete : Check.RulesComplete (keyedRules state) (fallbacks state)) {v : Value}
    (member : v ∈ fallbacks state) : ∃ t, (compileState state).always = some t := by
  obtain ⟨t, led⟩ := complete.targets v member
  rw [compileState_always, ← Option.isSome_iff_exists, List.findSome?_isSome_iff]
  exact ⟨v, member, by simp [led]⟩

theorem compileState_represents {state : Section}
    (complete : Check.RulesComplete (keyedRules state) (fallbacks state)) :
    Represents (compileState state) state where
  operandKeyed := by
    intro rule operand member given
    have made : ⟨eventName? operand, rule.target, rule.range.or state.range⟩ ∈ keyedRules state :=
      List.mem_flatMap.mpr ⟨_, member, by simp [nodeKeyedRules, given]⟩
    exact keyed_represented complete made
  attributeKeyed := by
    intro a member plain leads
    have made : ⟨some a.key, a.value, a.range.or state.range⟩ ∈ keyedRules state :=
      List.mem_flatMap.mpr ⟨_, member, by simp [nodeKeyedRules, plain, leads]⟩
    obtain ⟨event, named, present⟩ := keyed_represented complete made
    cases named
    exact present
  caseKeyed := by
    intro block c member listed keyed
    have made : caseRule block c ∈ keyedRules state := by
      refine List.mem_flatMap.mpr ⟨_, member, List.mem_map.mpr ⟨c, ?_, rfl⟩⟩
      exact List.mem_filter.mpr ⟨listed, by simp [keyed]⟩
    exact keyed_represented complete made
  plainFallback := by
    intro rule member plain
    have made : rule.target ∈ fallbacks state :=
      List.mem_flatMap.mpr ⟨_, member, by simp [nodeFallbacks, plain]⟩
    exact fallback_represented complete made
  bareFallback := by
    intro v name member named
    have made : v ∈ fallbacks state :=
      List.mem_flatMap.mpr ⟨_, member, by simp [nodeFallbacks, named]⟩
    exact fallback_represented complete made
  defaultFallback := by
    intro block c member listed fallback
    have made : c.consequence ∈ fallbacks state := by
      refine List.mem_flatMap.mpr ⟨_, member, List.mem_map.mpr ⟨c, ?_, rfl⟩⟩
      exact List.mem_filter.mpr ⟨listed, fallback⟩
    exact fallback_represented complete made

end Flow

/-- A successful compilation leaves nothing out. The compiled flows are the flow sections of the document
under their names and in their order, the states of each are its state sections under their names and in
their order, and every rule of a state section is represented in the state. -/
theorem compiled_flows_complete (options : CompilerOptions) (input : SourceDocument)
    (c : CompiledAgent) (success : (compile options input).data = some c) :
    c.flows.keys.map some = (input.ast.gather "flow").map Section.name? ∧
      ∀ source ∈ input.ast.gather "flow", ∃ name flow,
        source.name? = some name ∧ c.flows.get? name = some flow ∧
        flow.states.keys.map some = (Flow.stateSections source).map Section.name? ∧
        ∀ s ∈ Flow.stateSections source, ∃ state node,
          s.name? = some state ∧ flow.states.get? state = some node ∧ Flow.Represents node s := by
  obtain ⟨sound, _, _, flows⟩ := compile_data success
  rw [flows, Flow.compileAll_eq_tableOf]
  refine ⟨Flow.keys_tableOf Flow.compile sound.named, ?_⟩
  intro source gathered
  have flowSound := sound.flows source gathered
  obtain ⟨name, named, found⟩ := Flow.get?_tableOf Flow.compile sound.named gathered
  refine ⟨name, Flow.compile source, named, found,
    Flow.keys_tableOf Flow.compileState flowSound.named, ?_⟩
  intro s inside
  obtain ⟨state, called, compiled⟩ := Flow.get?_tableOf Flow.compileState flowSound.named inside
  exact ⟨state, Flow.compileState s, called, compiled,
    Flow.compileState_represents (flowSound.complete s inside)⟩

theorem compiled_flows_complete_order :
    ∃ c, (compile .standard orderInput).data = some c ∧ c.flows.keys = ["Order"] ∧
      ∀ source ∈ orderInput.ast.gather "flow", ∃ name flow,
        source.name? = some name ∧ c.flows.get? name = some flow ∧
        ∀ s ∈ Flow.stateSections source, ∃ state node,
          s.name? = some state ∧ flow.states.get? state = some node ∧ Flow.Represents node s := by
  have compiled : (compile .standard orderInput).data.isSome = true := by decide +kernel
  have named : (orderInput.ast.gather "flow").map Section.name? = ["Order"].map some := by
    decide +kernel
  obtain ⟨c, success⟩ := Option.isSome_iff_exists.mp compiled
  obtain ⟨keys, flows⟩ := compiled_flows_complete .standard orderInput c success
  refine ⟨c, success, ?_, ?_⟩
  · exact (List.map_inj_right fun _ _ => Option.some.inj).mp (keys.trans named)
  · intro source gathered
    obtain ⟨name, flow, called, found, _, states⟩ := flows source gathered
    exact ⟨name, flow, called, found, states⟩

end Dialogue
