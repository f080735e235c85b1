import Dialogue.Proofs.Check.Cases
import Dialogue.Proofs.Check.Outcomes

/-!
# Claims to events

The rules of a state claim events one after the other. Whoever comes second is reported: by the comparison
of all rules unless both are cases of one match block, and by the comparison of the cases if they are. What
carries the argument through a body is that, when a node is reached, nothing has been claimed in the name of
a match block at or behind it (`Before`).
-/
namespace Dialogue.Check

open Dialogue.Flow (KeyedRule)

/-! ## What has been claimed -/

/-- The claims that stand once outcomes have been looked at. -/
def claimAll (claimed : List (String × ClaimSource)) : List RuleOutcome → List (String × ClaimSource)
  | [] => claimed
  | .malformed _ :: rest => claimAll claimed rest
  | .claim event source _ :: rest =>
    match Table.lookup event claimed with
    | none => claimAll ((event, source) :: claimed) rest
    | some _ => claimAll claimed rest

/-- Findings on a list of outcomes are those on its first part, and those on the rest with what the first
part has claimed. -/
theorem eventFindings_append (state : String) (claimed : List (String × ClaimSource))
    (first second : List RuleOutcome) :
    eventFindings state claimed (first ++ second) =
      eventFindings state claimed first ++ eventFindings state (claimAll claimed first) second := by
  induction first generalizing claimed with
  | nil => rfl
  | cons outcome rest ih =>
    cases outcome with
    | malformed f => simp [eventFindings, claimAll, ih]
    | claim event source range =>
      cases found : Table.lookup event claimed <;> simp [eventFindings, claimAll, found, ih]

theorem mem_claimAll {claimed : List (String × ClaimSource)} {outcomes : List RuleOutcome}
    {event : String} {source : ClaimSource} (member : (event, source) ∈ claimAll claimed outcomes) :
    (event, source) ∈ claimed ∨ ∃ range, .claim event source range ∈ outcomes := by
  induction outcomes generalizing claimed with
  | nil => exact Or.inl member
  | cons outcome rest ih =>
    cases outcome with
    | malformed f =>
      rcases ih member with old | ⟨range, new⟩
      · exact Or.inl old
      · exact Or.inr ⟨range, List.mem_cons_of_mem _ new⟩
    | claim other otherSource place =>
      simp only [claimAll] at member
      split at member
      · rcases ih member with old | ⟨range, new⟩
        · rcases List.mem_cons.mp old with equal | old
          · cases equal
            exact Or.inr ⟨place, by simp⟩
          · exact Or.inl old
        · exact Or.inr ⟨range, List.mem_cons_of_mem _ new⟩
      · rcases ih member with old | ⟨range, new⟩
        · exact Or.inl old
        · exact Or.inr ⟨range, List.mem_cons_of_mem _ new⟩

theorem lookup_claimAll {claimed : List (String × ClaimSource)} (outcomes : List RuleOutcome)
    {event : String} {first : ClaimSource} (taken : Table.lookup event claimed = some first) :
    Table.lookup event (claimAll claimed outcomes) = some first := by
  induction outcomes generalizing claimed with
  | nil => exact taken
  | cons outcome rest ih =>
    cases outcome with
    | malformed f => exact ih taken
    | claim other source place =>
      simp only [claimAll]
      split
      · next free =>
        have different : other ≠ event := by
          rintro rfl
          simp [free] at taken
        exact ih (by simp [Table.lookup, different, taken])
      · exact ih taken

/-- An event that was claimed stays claimed. -/
theorem claimed_after {claimed : List (String × ClaimSource)} {outcomes : List RuleOutcome}
    {event : String} {source : ClaimSource} {range : Option Range}
    (member : .claim event source range ∈ outcomes) :
    ∃ first, Table.lookup event (claimAll claimed outcomes) = some first := by
  induction outcomes generalizing claimed with
  | nil => simp at member
  | cons outcome rest ih =>
    rcases List.mem_cons.mp member with rfl | later
    · simp only [claimAll]
      split
      · exact ⟨source, lookup_claimAll rest (by simp [Table.lookup])⟩
      · next first found => exact ⟨first, lookup_claimAll rest found⟩
    · cases outcome with
      | malformed f => exact ih later
      | claim other otherSource place =>
        simp only [claimAll]
        split <;> exact ih later

/-- A claim to an event that something else has is reported. -/
theorem claim_reported {state : String} {claimed : List (String × ClaimSource)}
    {outcomes : List RuleOutcome} {event : String} {first source : ClaimSource}
    {range : Option Range} (member : .claim event source range ∈ outcomes)
    (taken : Table.lookup event claimed = some first)
    (foreign : isOwnRepeat first source = false) :
    ⟨.duplicateEvent event state, range⟩ ∈ eventFindings state claimed outcomes := by
  obtain ⟨before, after, rfl⟩ := List.append_of_mem member
  rw [eventFindings_append]
  apply List.mem_append_right
  simp [eventFindings, lookup_claimAll before taken, foreign]

theorem mem_claims {source other : ClaimSource} {rules : List KeyedRule} {event : String}
    {range : Option Range} :
    .claim event other range ∈ claims source rules ↔
      other = source ∧ ∃ rule ∈ rules, rule.event? = some event ∧ rule.range = range := by
  unfold claims
  rw [List.mem_filterMap]
  constructor
  · rintro ⟨rule, member, made⟩
    obtain ⟨name, named, equal⟩ := Option.map_eq_some_iff.mp made
    cases equal
    exact ⟨rfl, rule, member, named, rfl⟩
  · rintro ⟨rfl, rule, member, named, rfl⟩
    exact ⟨rule, member, by simp [named]⟩

/-! ## Going through a body -/

/-- No match block from `index` on has claimed anything yet. -/
def Before (index : Nat) (claimed : List (String × ClaimSource)) : Prop :=
  ∀ event i, (event, ClaimSource.block i) ∈ claimed → i < index

theorem before_node {index : Nat} {claimed : List (String × ClaimSource)}
    (before : Before index claimed) (node : Node) (rules : List KeyedRule) :
    Before (index + 1) (claimAll claimed (claims (nodeSource index node) rules)) := by
  intro event i member
  rcases mem_claimAll member with old | ⟨range, new⟩
  · exact Nat.lt_succ_of_lt (before event i old)
  · have source := (mem_claims.mp new).1
    cases node <;> simp [nodeSource] at source
    omega

/-- What a node claims was, if at all, claimed by something else before. -/
theorem foreign_of_before {index : Nat} {claimed : List (String × ClaimSource)}
    (before : Before index claimed) {event : String} {first : ClaimSource}
    (taken : Table.lookup event claimed = some first) (node : Node) :
    isOwnRepeat first (nodeSource index node) = false := by
  cases node with
  | matchBlock block =>
    simp only [nodeSource, isOwnRepeat, beq_eq_false_iff_ne]
    rintro rfl
    exact Nat.lt_irrefl index (before event index (Table.mem_of_lookup_eq_some taken))
  | _ => rfl

/-- A rule whose event was claimed before the body is reported. -/
theorem claimed_rule_reported {state : Section} (name : String) {index : Nat} {body : List Node}
    {claimed : List (String × ClaimSource)}
    (wellFormed : WellFormed (bodyOutcomes state index body)) (before : Before index claimed)
    {rule : KeyedRule} {event : String} {first : ClaimSource}
    (member : rule ∈ body.flatMap (Flow.nodeKeyedRules state))
    (named : rule.event? = some event) (taken : Table.lookup event claimed = some first) :
    ⟨.duplicateEvent event name, rule.range⟩ ∈
      eventFindings name claimed (bodyOutcomes state index body) := by
  induction body generalizing index claimed with
  | nil => simp at member
  | cons node rest ih =>
    rw [bodyOutcomes, wellFormed_append] at wellFormed
    obtain ⟨made, _⟩ := nodeOutcomes_of_wellFormed wellFormed.1
    rw [bodyOutcomes, made, eventFindings_append]
    rcases List.mem_append.mp member with here | later
    · apply List.mem_append_left
      exact claim_reported (mem_claims.mpr ⟨rfl, rule, here, named, rfl⟩) taken
        (foreign_of_before before taken node)
    · apply List.mem_append_right
      exact ih wellFormed.2 (before_node before node _) later (lookup_claimAll _ taken)

/-- The finding says that a rule comes too late for its event, and stands at the rule. -/
def ReportsRepeat (state : String) (rule : KeyedRule) (event : String) (f : Finding) : Prop :=
  f.range = rule.range ∧
    (f.problem = .duplicateEvent event state ∨
      ∃ pattern, event = "match_" ++ pattern ∧ f.problem = .duplicateMatchCase pattern)

theorem matchEventName_inj {first second : Value} {pattern : String}
    (text : second.canonicalText? = some pattern)
    (same : Flow.matchEventName? first = Flow.matchEventName? second) :
    first.canonicalText? = some pattern := by
  unfold Flow.matchEventName? at same
  rw [text] at same
  obtain ⟨other, found, equal⟩ := Option.map_eq_some_iff.mp same
  rw [found, (String.append_right_inj "match_").mp equal]

/-- Two rules of one node with the same event are cases of a match block with the same pattern. -/
theorem repeat_in_node_reported {state : Section} {name : String} {node : Node}
    {first rule : KeyedRule} {event : String}
    (pair : [first, rule].Sublist (Flow.nodeKeyedRules state node))
    (firstNamed : first.event? = some event) (named : rule.event? = some event) :
    ∃ f ∈ nodeRepeatedCases node, ReportsRepeat name rule event f := by
  have two := pair.length_le
  match node with
  | .child _ => simp [Flow.nodeKeyedRules] at two
  | .value _ => simp [Flow.nodeKeyedRules] at two
  | .transition t =>
    cases operand : t.operand <;> simp [Flow.nodeKeyedRules, operand] at two
  | .attribute a =>
    simp only [Flow.nodeKeyedRules] at two
    split at two <;> simp at two
  | .matchBlock block =>
    obtain ⟨cases, sub, equal⟩ := List.sublist_map_iff.mp pair
    obtain ⟨c, tail, rfl, rfl, last⟩ := List.map_eq_cons_iff.mp equal.symm
    obtain ⟨d, nothing, rfl, rfl, done⟩ := List.map_eq_cons_iff.mp last
    obtain rfl := List.map_eq_nil_iff.mp done
    have keyed : ∀ e ∈ [c, d], e.isDefault = false := by
      intro e member
      have kept := List.mem_filter.mp (sub.subset member)
      simpa using kept.2
    obtain ⟨pattern, text, rfl⟩ := Option.map_eq_some_iff.mp named
    have firstText := matchEventName_inj text (firstNamed.trans named.symm)
    refine ⟨repeatFinding block d (.pattern pattern), ?_, rfl, Or.inr ⟨pattern, rfl, rfl⟩⟩
    exact repeated_case_reported (sub.trans List.filter_sublist)
      ((caseKey?_eq_pattern_iff c pattern).mpr ⟨keyed c (by simp), firstText⟩)
      ((caseKey?_eq_pattern_iff d pattern).mpr ⟨keyed d (by simp), text⟩)

/-- Of two rules in a row of two lists, both are in the second, or one in each, or both in the first. -/
theorem pair_of_append {first rule : KeyedRule} {here later : List KeyedRule}
    (pair : [first, rule].Sublist (here ++ later)) :
    [first, rule].Sublist later ∨ (first ∈ here ∧ rule ∈ later) ∨ [first, rule].Sublist here := by
  obtain ⟨left, right, split, inHere, inLater⟩ := List.sublist_append_iff.mp pair
  rcases List.cons_eq_append_iff.mp split with ⟨_, rfl⟩ | ⟨rest, rfl, tail⟩
  · exact Or.inl inLater
  · rcases List.cons_eq_append_iff.mp tail with ⟨rfl, rfl⟩ | ⟨rest, rfl, ended⟩
    · exact Or.inr (Or.inl ⟨List.singleton_sublist.mp inHere, List.singleton_sublist.mp inLater⟩)
    · obtain ⟨rfl, _⟩ := List.append_eq_nil_iff.mp ended.symm
      exact Or.inr (Or.inr inHere)

/-- Of two rules with the same event the later one is reported. -/
theorem repeated_rule_reported {state : Section} {name : String} {index : Nat} {body : List Node}
    {claimed : List (String × ClaimSource)}
    (wellFormed : WellFormed (bodyOutcomes state index body)) (before : Before index claimed)
    {first rule : KeyedRule} {event : String}
    (pair : [first, rule].Sublist (body.flatMap (Flow.nodeKeyedRules state)))
    (firstNamed : first.event? = some event) (named : rule.event? = some event) :
    ∃ f ∈ body.flatMap nodeRepeatedCases ++
        eventFindings name claimed (bodyOutcomes state index body),
      ReportsRepeat name rule event f := by
  induction body generalizing index claimed with
  | nil => simp at pair
  | cons node rest ih =>
    rw [bodyOutcomes, wellFormed_append] at wellFormed
    obtain ⟨made, _⟩ := nodeOutcomes_of_wellFormed wellFormed.1
    have beforeRest := before_node before node (Flow.nodeKeyedRules state node)
    rw [bodyOutcomes, made, eventFindings_append, List.flatMap_cons]
    rw [List.flatMap_cons] at pair
    rcases pair_of_append pair with inRest | ⟨firstHere, ruleLater⟩ | inNode
    · obtain ⟨f, found, reports⟩ := ih wellFormed.2 beforeRest inRest
      refine ⟨f, ?_, reports⟩
      rcases List.mem_append.mp found with repeated | claim
      · simp [repeated]
      · simp [claim]
    · obtain ⟨source, taken⟩ := claimed_after
        (mem_claims.mpr ⟨rfl, first, firstHere, firstNamed, rfl⟩)
      have found := claimed_rule_reported name wellFormed.2 beforeRest ruleLater named taken
      exact ⟨_, List.mem_append_right _ (List.mem_append_right _ found), rfl, Or.inl rfl⟩
    -- The comparison of all rules is silent within one block; that of its cases is not.
    · obtain ⟨f, found, reports⟩ := repeat_in_node_reported inNode firstNamed named
      exact ⟨f, by simp [found], reports⟩

end Dialogue.Check
