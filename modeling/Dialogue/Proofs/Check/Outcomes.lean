import Dialogue.Check.References
import Dialogue.Proofs.Flow.Rules

/-!
# Rules as the checks see them

A check looks at each rule of a state and either finds it malformed or notes the event that it claims.
When no rule is malformed, the claims are exactly those of the keyed rules and every rule is complete.
-/
namespace Dialogue.Check

/-- No rule that was looked at is malformed. -/
def WellFormed (outcomes : List RuleOutcome) : Prop :=
  ∀ f, RuleOutcome.malformed f ∉ outcomes

@[simp] theorem wellFormed_nil : WellFormed [] := by simp [WellFormed]

@[simp] theorem wellFormed_append (first second : List RuleOutcome) :
    WellFormed (first ++ second) ↔ WellFormed first ∧ WellFormed second := by
  simp [WellFormed, forall_and]

@[simp] theorem not_wellFormed_mismatch (expected : String) (v : Value) (context : String)
    (range : Option Range) : ¬WellFormed [mismatchOutcome expected v context range] := by
  simp [WellFormed, mismatchOutcome]

/-- What claims the events of a node. -/
def nodeSource (index : Nat) : Node → ClaimSource
  | .matchBlock _ => .block index
  | _ => .rule

/-- The claims that keyed rules make. -/
def claims (source : ClaimSource) (rules : List Flow.KeyedRule) : List RuleOutcome :=
  rules.filterMap fun rule => rule.event?.map fun event => .claim event source rule.range

theorem claims_append (source : ClaimSource) (first second : List Flow.KeyedRule) :
    claims source (first ++ second) = claims source first ++ claims source second :=
  List.filterMap_append

/-- Every rule says where it leads, and every keyed rule on which event. -/
structure RulesComplete (keyed : List Flow.KeyedRule) (fallbacks : List Value) : Prop where
  entries : ∀ rule ∈ keyed, ∃ entry, rule.offer? = some entry
  targets : ∀ v ∈ fallbacks, ∃ t, Flow.transition? v = some t

theorem RulesComplete.append {keyed keyed' : List Flow.KeyedRule} {fallbacks fallbacks' : List Value}
    (first : RulesComplete keyed fallbacks) (second : RulesComplete keyed' fallbacks') :
    RulesComplete (keyed ++ keyed') (fallbacks ++ fallbacks') where
  entries := List.forall_mem_append.mpr ⟨first.entries, second.entries⟩
  targets := List.forall_mem_append.mpr ⟨first.targets, second.targets⟩

/-- The name of a state is a target as it stands. -/
theorem stateRef_leads {v : Value} {name : String} (named : v.stateRef? = some name) :
    Flow.targetText? v = some name := by
  unfold Value.stateRef? at named
  unfold Flow.targetText?
  split at named
  next found => simp_all
  next => simp at named

theorem entry_of_target (rule : Flow.KeyedRule) {event : String} (named : rule.event? = some event)
    (leads : Flow.isTarget rule.target = true) : ∃ entry, rule.offer? = some entry := by
  obtain ⟨t, led⟩ := (Flow.isTarget_iff _).mp leads
  exact ⟨(event, t), (rule.offer?_eq_some_iff event t).mpr ⟨named, led⟩⟩

theorem caseOutcomes_of_wellFormed {index : Nat} {block : MatchBlock} {c : MatchCase}
    (wellFormed : WellFormed (caseOutcomes index block c)) :
    Flow.isTarget c.consequence = true ∧
      caseOutcomes index block c =
        (if c.isDefault then [] else claims (.block index) [Flow.caseRule block c]) ∧
      (c.isDefault = false → ∃ event, Flow.matchEventName? c.pattern = some event) := by
  unfold caseOutcomes at wellFormed ⊢
  by_cases leads : Flow.isTarget c.consequence = true
  · simp only [leads, if_true] at wellFormed ⊢
    cases isDefault : c.isDefault with
    | true => simp
    | false =>
      cases named : Flow.matchEventName? c.pattern with
      | none => simp [isDefault, named] at wellFormed
      | some event => simp [claims, Flow.caseRule, named]
  · simp [leads] at wellFormed

theorem blockOutcomes_of_wellFormed {index : Nat} {block : MatchBlock} {cases : List MatchCase}
    (wellFormed : WellFormed (cases.flatMap (caseOutcomes index block))) :
    cases.flatMap (caseOutcomes index block) = claims (.block index)
        ((cases.filter fun c => !c.isDefault).map (Flow.caseRule block)) ∧
      RulesComplete ((cases.filter fun c => !c.isDefault).map (Flow.caseRule block))
        ((cases.filter MatchCase.isDefault).map MatchCase.consequence) := by
  induction cases with
  | nil => exact ⟨rfl, by simp, by simp⟩
  | cons c rest ih =>
    rw [List.flatMap_cons, wellFormed_append] at wellFormed
    obtain ⟨leads, here, named⟩ := caseOutcomes_of_wellFormed wellFormed.1
    obtain ⟨later, complete⟩ := ih wellFormed.2
    obtain ⟨t, led⟩ := (Flow.isTarget_iff _).mp leads
    rw [List.flatMap_cons, here, later]
    cases isDefault : c.isDefault with
    | true =>
      have single : RulesComplete [] [c.consequence] := ⟨by simp, by simp [led]⟩
      simp only [List.filter_cons, isDefault, Bool.not_true, Bool.false_eq_true, if_false, if_true,
        List.nil_append, List.map_cons]
      exact ⟨trivial, single.append complete⟩
    | false =>
      obtain ⟨event, event_eq⟩ := named isDefault
      have entry := entry_of_target (Flow.caseRule block c) event_eq leads
      have single : RulesComplete [Flow.caseRule block c] [] := ⟨by simpa using entry, by simp⟩
      simp only [List.filter_cons, isDefault, Bool.not_false, Bool.false_eq_true, if_false, if_true,
        List.map_cons]
      exact ⟨(claims_append _ [Flow.caseRule block c] _).symm, single.append complete⟩

/-- A node without malformed rules claims the events of its keyed rules, and its rules are complete. -/
theorem nodeOutcomes_of_wellFormed {state : Section} {index : Nat} {node : Node}
    (wellFormed : WellFormed (nodeOutcomes state index node)) :
    nodeOutcomes state index node =
        claims (nodeSource index node) (Flow.nodeKeyedRules state node) ∧
      RulesComplete (Flow.nodeKeyedRules state node) (Flow.nodeFallbacks node) := by
  match node with
  | .child _ => exact ⟨rfl, by simp [Flow.nodeKeyedRules], by simp [Flow.nodeFallbacks]⟩
  | .value v =>
    refine ⟨rfl, by simp [Flow.nodeKeyedRules], ?_⟩
    cases named : v.stateRef? with
    | none => simp [Flow.nodeFallbacks, named]
    | some name => simp [Flow.nodeFallbacks, named, Flow.transition?, stateRef_leads named]
  | .attribute a =>
    simp only [nodeOutcomes, Flow.nodeKeyedRules]
    split
    next leads =>
      simp only [Bool.and_eq_true] at leads
      have entry := entry_of_target ⟨some a.key, a.value, a.range.or state.range⟩ rfl leads.2
      exact ⟨rfl, by simpa using entry, by simp [Flow.nodeFallbacks]⟩
    next => exact ⟨rfl, by simp, by simp [Flow.nodeFallbacks]⟩
  | .transition rule =>
    simp only [nodeOutcomes, ruleOutcomes] at wellFormed ⊢
    by_cases leads : Flow.isTarget rule.target = true
    · simp only [leads, if_true] at wellFormed ⊢
      cases operand : rule.operand with
      | none =>
        refine ⟨by simp [Flow.nodeKeyedRules, operand, claims], ?_⟩
        exact ⟨by simp [Flow.nodeKeyedRules, operand],
          by simpa [Flow.nodeFallbacks, operand] using (Flow.isTarget_iff _).mp leads⟩
      | some value =>
        cases named : Flow.eventName? value with
        | none => simp [operand, named] at wellFormed
        | some event =>
          have entry := entry_of_target ⟨some event, rule.target, rule.range.or state.range⟩ rfl leads
          refine ⟨by simp [Flow.nodeKeyedRules, operand, named, claims, nodeSource], ?_⟩
          exact ⟨by simpa [Flow.nodeKeyedRules, operand, named] using entry,
            by simp [Flow.nodeFallbacks, operand]⟩
    · simp [leads] at wellFormed
  | .matchBlock block => exact blockOutcomes_of_wellFormed wellFormed

theorem rulesComplete_of_wellFormed {state : Section} {index : Nat} {body : List Node}
    (wellFormed : WellFormed (bodyOutcomes state index body)) :
    RulesComplete (body.flatMap (Flow.nodeKeyedRules state)) (body.flatMap Flow.nodeFallbacks) := by
  induction body generalizing index with
  | nil => exact ⟨by simp, by simp⟩
  | cons node rest ih =>
    rw [bodyOutcomes, wellFormed_append] at wellFormed
    exact (nodeOutcomes_of_wellFormed wellFormed.1).2.append (ih wellFormed.2)

/-- Whatever else they say, the findings on events include every malformed rule. -/
theorem malformed_found {state : String} {claimed : List (String × ClaimSource)}
    {outcomes : List RuleOutcome} {f : Finding} (member : .malformed f ∈ outcomes) :
    f ∈ eventFindings state claimed outcomes := by
  induction outcomes generalizing claimed with
  | nil => simp at member
  | cons outcome rest ih =>
    cases outcome with
    | malformed g =>
      rcases List.mem_cons.mp member with equal | later
      · cases equal
        simp [eventFindings]
      · exact List.mem_cons_of_mem _ (ih later)
    | claim event source range =>
      have later : .malformed f ∈ rest := by simpa using member
      simp only [eventFindings]
      split
      · exact ih later
      · exact List.mem_append_right _ (ih later)

/-- The finding is a mismatch of types. -/
def IsMismatch (f : Finding) : Prop :=
  ∃ expected found context, f.problem = .typeMismatch expected found context

theorem isMismatch_of_mem {expected context : String} {v : Value} {range : Option Range}
    {f : Finding} (member : .malformed f ∈ [mismatchOutcome expected v context range]) :
    IsMismatch f := by
  simp only [mismatchOutcome, List.mem_singleton, RuleOutcome.malformed.injEq] at member
  exact ⟨_, _, _, congrArg Finding.problem member⟩

theorem malformed_case {index : Nat} {block : MatchBlock} {c : MatchCase} {f : Finding}
    (member : .malformed f ∈ caseOutcomes index block c) : IsMismatch f := by
  unfold caseOutcomes at member
  split at member
  · split at member
    · simp at member
    · split at member
      · simp at member
      · exact isMismatch_of_mem member
  · exact isMismatch_of_mem member

theorem malformed_rule {state : Section} {rule : DirectTransition} {f : Finding}
    (member : .malformed f ∈ ruleOutcomes state rule) : IsMismatch f := by
  unfold ruleOutcomes at member
  split at member
  · split at member
    · simp at member
    · split at member
      · simp at member
      · exact isMismatch_of_mem member
  · exact isMismatch_of_mem member

theorem malformed_node {state : Section} {index : Nat} {node : Node} {f : Finding}
    (member : .malformed f ∈ nodeOutcomes state index node) : IsMismatch f := by
  match node with
  | .child _ => simp [nodeOutcomes] at member
  | .value _ => simp [nodeOutcomes] at member
  | .transition rule => exact malformed_rule member
  | .attribute a =>
    simp only [nodeOutcomes] at member
    split at member <;> simp at member
  | .matchBlock block =>
    obtain ⟨c, _, made⟩ := List.mem_flatMap.mp member
    exact malformed_case made

/-- A malformed rule is always a mismatch of types. -/
theorem malformed_body {state : Section} {index : Nat} {body : List Node} {f : Finding}
    (member : .malformed f ∈ bodyOutcomes state index body) : IsMismatch f := by
  induction body generalizing index with
  | nil => simp [bodyOutcomes] at member
  | cons node rest ih =>
    rcases List.mem_append.mp member with here | later
    · exact malformed_node here
    · exact ih later

end Dialogue.Check
