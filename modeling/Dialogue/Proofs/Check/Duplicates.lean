import Dialogue.Document.Builder
import Dialogue.Proofs.Check.Claims

/-!
# Repeated events

Two checks look for rules of a state that claim the same event. One looks into each match block for cases
with the same pattern, the other compares the rules of the whole state and passes over repeats within one
block. Together they report exactly the repeats: a state without malformed rules is free of such warnings
if and only if its keyed rules have distinct events and no block has two default cases, and every rule
that loses its event to an earlier one is reported at its place.
-/
namespace Dialogue.Check

open Dialogue.Flow (KeyedRule)

/-! ## Distinct events -/

/-- The event that an outcome claims. -/
def claimedEvent? : RuleOutcome → Option String
  | .malformed _ => none
  | .claim event _ _ => some event

/-- Distinct claims to events that are free give no finding. -/
theorem eventFindings_eq_nil {state : String} {claimed : List (String × ClaimSource)}
    {outcomes : List RuleOutcome} (wellFormed : WellFormed outcomes)
    (distinct : (outcomes.filterMap claimedEvent?).Nodup)
    (free : ∀ event ∈ outcomes.filterMap claimedEvent?, Table.lookup event claimed = none) :
    eventFindings state claimed outcomes = [] := by
  induction outcomes generalizing claimed with
  | nil => rfl
  | cons outcome rest ih =>
    cases outcome with
    | malformed f => exact absurd (by simp) (wellFormed f)
    | claim event source range =>
      simp only [List.filterMap_cons, claimedEvent?, List.nodup_cons, List.forall_mem_cons]
        at distinct free
      simp only [eventFindings, free.1]
      refine ih (fun f member => wellFormed f (List.mem_cons_of_mem _ member)) distinct.2 ?_
      intro other member
      have different : event ≠ other := by
        rintro rfl
        exact distinct.1 member
      simp [Table.lookup, different, free.2 other member]

/-- Over a body without malformed rules the claimed events are those of the keyed rules. -/
theorem claimedEvents_body {state : Section} {index : Nat} {body : List Node}
    (wellFormed : WellFormed (bodyOutcomes state index body)) :
    (bodyOutcomes state index body).filterMap claimedEvent? =
      (body.flatMap (Flow.nodeKeyedRules state)).filterMap KeyedRule.event? := by
  have ofClaims (source : ClaimSource) (rules : List KeyedRule) :
      (claims source rules).filterMap claimedEvent? = rules.filterMap KeyedRule.event? := by
    unfold claims
    rw [List.filterMap_filterMap]
    congr 1
    funext rule
    cases rule.event? <;> rfl
  induction body generalizing index with
  | nil => rfl
  | cons node rest ih =>
    rw [bodyOutcomes, wellFormed_append] at wellFormed
    rw [bodyOutcomes, (nodeOutcomes_of_wellFormed wellFormed.1).1, List.filterMap_append, ofClaims,
      ih wellFormed.2, List.flatMap_cons, List.filterMap_append]

theorem events_eq_nil {state : Section}
    (wellFormed : WellFormed (bodyOutcomes state 0 state.body))
    (distinct : ((Flow.keyedRules state).map KeyedRule.event?).Nodup) : events state = [] := by
  refine eventFindings_eq_nil wellFormed ?_ (fun _ _ => rfl)
  rw [claimedEvents_body wellFormed]
  refine List.Pairwise.filterMap _ ?_ (List.pairwise_map.mp distinct)
  intro first second different event named other otherNamed equal
  exact different (named.trans (equal ▸ otherNamed.symm))

/-- Cases with distinct events and at most one default among them have distinct keys. -/
theorem caseKeys_distinct {block : MatchBlock}
    (distinct : (((block.cases.filter fun c => !c.isDefault).map (Flow.caseRule block)).map
      KeyedRule.event?).Nodup)
    (defaults : (block.cases.filter MatchCase.isDefault).length ≤ 1) :
    (block.cases.filterMap caseKey?).Nodup := by
  have apart : block.cases.Pairwise fun c d => ∀ key, caseKey? c = some key →
      caseKey? d ≠ some key := by
    rw [List.pairwise_iff_forall_sublist]
    intro c d pair key own same
    cases key with
    | fallback =>
      have fallbacks := pair.filter MatchCase.isDefault
      simp only [List.filter_cons, (caseKey?_eq_fallback_iff c).mp own,
        (caseKey?_eq_fallback_iff d).mp same, if_true, List.filter_nil] at fallbacks
      have two := fallbacks.length_le
      simp only [List.length_cons, List.length_nil] at two
      omega
    | pattern text =>
      obtain ⟨keyed, ownText⟩ := (caseKey?_eq_pattern_iff c text).mp own
      obtain ⟨sameKeyed, sameText⟩ := (caseKey?_eq_pattern_iff d text).mp same
      have kept := pair.filter fun c => !c.isDefault
      simp only [List.filter_cons, keyed, sameKeyed, Bool.not_false, if_true, List.filter_nil]
        at kept
      rw [List.map_map, List.Nodup, List.pairwise_map] at distinct
      apply distinct.forall_sublist kept
      simp [Flow.caseRule, Flow.matchEventName?, ownText, sameText]
  refine List.Pairwise.filterMap caseKey? ?_ apart
  intro c d different key own other otherOwn equal
  exact different key own (equal ▸ otherOwn)

theorem matchCases_eq_nil {state : Section}
    (distinct : ((Flow.keyedRules state).map KeyedRule.event?).Nodup)
    (defaults : ∀ block, Node.matchBlock block ∈ state.body →
      (block.cases.filter MatchCase.isDefault).length ≤ 1) : matchCases state = [] := by
  rw [Flow.keyedRules, List.map_flatMap, List.Nodup, List.pairwise_flatMap] at distinct
  apply List.flatMap_eq_nil_iff.mpr
  intro node member
  unfold nodeRepeatedCases
  split
  · next block =>
    have keys := caseKeys_distinct (distinct.1 _ member) (defaults block member)
    refine repeatedCases_eq_nil keys ?_
    intro key _
    cases key <;> simp [CaseKey.Met]
  · rfl

/-- A complete rule offers its own event and transition. -/
theorem offers_of_complete {rules : List KeyedRule}
    (complete : ∀ rule ∈ rules, ∃ entry, rule.offer? = some entry) :
    (rules.filterMap KeyedRule.offer?).map (fun entry => (some entry.1, some entry.2)) =
      rules.map fun rule => (rule.event?, Flow.transition? rule.target) := by
  induction rules with
  | nil => rfl
  | cons rule rest ih =>
    obtain ⟨⟨event, t⟩, made⟩ := complete rule (by simp)
    obtain ⟨named, leads⟩ := (rule.offer?_eq_some_iff event t).mp made
    rw [List.filterMap_cons, made, List.map_cons, List.map_cons, named, leads,
      ih fun other member => complete other (List.mem_cons_of_mem _ member)]

/-- Complete rules with distinct events each have their entry in the table. -/
theorem entries_of_distinct {state : Section}
    (complete : RulesComplete (Flow.keyedRules state) (Flow.fallbacks state))
    (distinct : ((Flow.keyedRules state).map KeyedRule.event?).Nodup) :
    (Flow.compileState state).on.entries.map (fun entry => (some entry.1, some entry.2)) =
      (Flow.keyedRules state).map fun rule => (rule.event?, Flow.transition? rule.target) := by
  rw [Flow.compileState_on, Table.entries_ofFirst_of_distinct, offers_of_complete complete.entries]
  refine List.pairwise_map.mpr (List.Pairwise.filterMap _ ?_ (List.pairwise_map.mp distinct))
  intro first second different entry made other otherMade equal
  have named := ((first.offer?_eq_some_iff entry.1 entry.2).mp made).1
  have otherNamed := ((second.offer?_eq_some_iff other.1 other.2).mp otherMade).1
  apply different
  rw [named, otherNamed, equal]

/-! ## The pass over a state -/

/-- A pass that finds no mismatch of types has seen no malformed rule. -/
theorem wellFormed_of_typed {flow state : Section}
    (typed : ∀ f ∈ stateReferences flow state, f.problem.code ≠ .typeMismatch) :
    WellFormed (bodyOutcomes state 0 state.body) := by
  intro f member
  obtain ⟨expected, found, context, mismatch⟩ := malformed_body member
  apply typed f (List.mem_append_right _ (malformed_found member))
  rw [mismatch, Problem.code]

theorem ReportsRepeat.code {state : String} {rule : KeyedRule} {event : String} {f : Finding}
    (reports : ReportsRepeat state rule event f) :
    f.problem.code = .duplicateMatchCase ∧ f.problem.severity = .warning := by
  rcases reports.2 with equal | ⟨pattern, _, equal⟩
  · rw [equal]
    exact ⟨rfl, rfl⟩
  · rw [equal]
    exact ⟨rfl, rfl⟩

/-- Of two rules of a state with the same event the later one is reported. -/
theorem repeat_reported (flow : Section) {state : Section}
    (wellFormed : WellFormed (bodyOutcomes state 0 state.body)) {first rule : KeyedRule}
    {event : String} (pair : [first, rule].Sublist (Flow.keyedRules state))
    (firstNamed : first.event? = some event) (named : rule.event? = some event) :
    ∃ f ∈ stateReferences flow state, ReportsRepeat (state.name?.getD unnamed) rule event f := by
  have before : Before 0 [] := by simp [Before]
  obtain ⟨f, found, reports⟩ := repeated_rule_reported wellFormed before pair firstNamed named
  refine ⟨f, ?_, reports⟩
  unfold stateReferences
  rw [List.append_assoc]
  exact List.mem_append_right _ found

/-- Two rules with the same event would have been reported. -/
theorem distinct_of_unreported {flow state : Section}
    (wellFormed : WellFormed (bodyOutcomes state 0 state.body))
    (silent : ∀ f ∈ stateReferences flow state, f.problem.code ≠ .duplicateMatchCase) :
    ((Flow.keyedRules state).map KeyedRule.event?).Nodup := by
  refine List.pairwise_map.mpr (List.pairwise_iff_forall_sublist.mpr ?_)
  intro first rule pair same
  have complete := (rulesComplete_of_wellFormed wellFormed).entries rule
    (pair.subset (by simp))
  obtain ⟨⟨event, t⟩, made⟩ := complete
  have named := ((rule.offer?_eq_some_iff event t).mp made).1
  obtain ⟨f, found, reports⟩ := repeat_reported flow wellFormed pair (same.trans named) named
  exact silent f found reports.code.1

theorem single_default_of_unreported {flow state : Section}
    (silent : ∀ f ∈ stateReferences flow state, f.problem.code ≠ .duplicateMatchCase)
    {block : MatchBlock} (member : Node.matchBlock block ∈ state.body) :
    (block.cases.filter MatchCase.isDefault).length ≤ 1 := by
  match defaults : block.cases.filter MatchCase.isDefault with
  | [] => simp
  | [_] => simp
  | c :: d :: more =>
    have kept : ∀ e ∈ [c, d], e ∈ block.cases.filter MatchCase.isDefault := by
      rw [defaults]
      simp
    have pair : [c, d].Sublist block.cases := by
      have inDefaults : [c, d].Sublist (block.cases.filter MatchCase.isDefault) := by
        rw [defaults]
        simp
      exact inDefaults.trans List.filter_sublist
    have isFallback : ∀ e ∈ [c, d], caseKey? e = some .fallback := fun e member =>
      (caseKey?_eq_fallback_iff e).mpr (List.mem_filter.mp (kept e member)).2
    have found : repeatFinding block d .fallback ∈ repeatedCases block [] false block.cases :=
      repeated_case_reported pair (isFallback c (by simp)) (isFallback d (by simp))
    have reported : repeatFinding block d .fallback ∈ matchCases state :=
      List.mem_flatMap.mpr ⟨_, member, found⟩
    exact absurd rfl (silent _ (List.mem_append_left _ (List.mem_append_right _ reported)))

theorem unreported_of_distinct {flow state : Section}
    (wellFormed : WellFormed (bodyOutcomes state 0 state.body))
    (distinct : ((Flow.keyedRules state).map KeyedRule.event?).Nodup)
    (defaults : ∀ block, Node.matchBlock block ∈ state.body →
      (block.cases.filter MatchCase.isDefault).length ≤ 1) :
    ∀ f ∈ stateReferences flow state, f.problem.code ≠ .duplicateMatchCase := by
  intro f member
  simp only [stateReferences, matchCases_eq_nil distinct defaults,
    events_eq_nil wellFormed distinct, List.append_nil] at member
  obtain ⟨use, _, rfl⟩ := List.mem_map.mp member
  simp [Problem.code]

/-- The warnings of repeated events are exact. When the pass over a state finds no mismatch of types, it
gives no such warning if and only if the keyed rules of the state have distinct events and no match block
has two default cases. Without a warning the event table has one entry for each keyed rule, in source
order; and each keyed rule whose event is taken when the table comes to it is warned of, by its event and
at its place. -/
theorem repeat_warnings_exact (flow state : Section)
    (typed : ∀ f ∈ stateReferences flow state, f.problem.code ≠ .typeMismatch) :
    ((∀ f ∈ stateReferences flow state, f.problem.code ≠ .duplicateMatchCase) ↔
      ((Flow.keyedRules state).map KeyedRule.event?).Nodup ∧
        ∀ block, Node.matchBlock block ∈ state.body →
          (block.cases.filter MatchCase.isDefault).length ≤ 1) ∧
    ((∀ f ∈ stateReferences flow state, f.problem.code ≠ .duplicateMatchCase) →
      (Flow.compileState state).on.entries.map (fun entry => (some entry.1, some entry.2)) =
        (Flow.keyedRules state).map fun rule => (rule.event?, Flow.transition? rule.target)) ∧
    ∀ before rule after event, Flow.keyedRules state = before ++ rule :: after →
      rule.event? = some event →
      event ∈ (Table.ofFirst (before.filterMap KeyedRule.offer?)).keys →
      ∃ f ∈ stateReferences flow state, f.problem.code = .duplicateMatchCase ∧
        f.problem.severity = .warning ∧ ReportsRepeat (state.name?.getD unnamed) rule event f := by
  have wellFormed := wellFormed_of_typed typed
  refine ⟨⟨fun silent => ⟨distinct_of_unreported wellFormed silent,
      fun _ => single_default_of_unreported silent⟩,
    fun ⟨distinct, defaults⟩ => unreported_of_distinct wellFormed distinct defaults⟩, ?_, ?_⟩
  · intro silent
    exact entries_of_distinct (rulesComplete_of_wellFormed wellFormed)
      (distinct_of_unreported wellFormed silent)
  · intro before rule after event split named taken
    rw [Table.mem_keys_ofFirst] at taken
    obtain ⟨⟨event, t⟩, offered, rfl⟩ := List.mem_map.mp taken
    obtain ⟨first, earlier, made⟩ := List.mem_filterMap.mp offered
    have firstNamed := ((first.offer?_eq_some_iff event t).mp made).1
    have pair : [first, rule].Sublist (Flow.keyedRules state) := by
      rw [split]
      exact (List.singleton_sublist.mpr earlier).append
        (List.singleton_sublist.mpr (List.mem_cons_self))
    obtain ⟨f, found, reports⟩ := repeat_reported flow wellFormed pair firstNamed named
    exact ⟨f, found, reports.code.1, reports.code.2, reports⟩

/-- A state with three claims to the event `match_yes`: by a transition and by two cases of one block. -/
def clashingState : Section :=
  (Section.ofKind "on").withName "Ask"
    |>.withTransition (some (.string "match_yes" none)) (.identifier "Ask" none)
    |>.withMatch (.reference "reply" none)
      [(.string "yes" none, .identifier "Ask" none), (.atom ":yes" none, .atom "end" none)]

theorem repeat_warnings_exact_clash :
    (∀ f ∈ stateReferences (Section.ofKind "flow") clashingState,
      f.problem.code ≠ .typeMismatch) ∧
    ∃ f ∈ stateReferences (Section.ofKind "flow") clashingState,
      f.problem.code = .duplicateMatchCase := by
  have typed : ∀ f ∈ stateReferences (Section.ofKind "flow") clashingState,
      f.problem.code ≠ .typeMismatch := by decide +kernel
  have clash : ¬((Flow.keyedRules clashingState).map KeyedRule.event?).Nodup := by decide +kernel
  refine ⟨typed, ?_⟩
  have exactness := (repeat_warnings_exact (Section.ofKind "flow") clashingState typed).1
  by_cases silent : ∀ f ∈ stateReferences (Section.ofKind "flow") clashingState,
      f.problem.code ≠ .duplicateMatchCase
  · exact absurd (exactness.mp silent).1 clash
  · simpa using silent

end Dialogue.Check
