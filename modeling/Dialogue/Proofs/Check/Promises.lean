import Dialogue.Check.Structure
import Dialogue.Proofs.Check.Outcomes

/-!
# What a check without errors promises

Each check is read backwards: when it reports no error, what holds of the part that it looked at. Together
these are the promises that the rest of the compiler relies on (`DocumentSound`).
-/
namespace Dialogue.Check

/-! ## Findings -/

/-- All problems that were found are of a kind. -/
def Only (allowed : Problem → Prop) (findings : List Finding) : Prop :=
  ∀ f ∈ findings, allowed f.problem

/-- Nothing that was found is an error. -/
def ErrorFree (findings : List Finding) : Prop := Only (fun p => p.severity ≠ .error) findings

section
variable {allowed : Problem → Prop}

@[simp] theorem only_nil : Only allowed [] := by simp [Only]

@[simp] theorem only_cons (f : Finding) (rest : List Finding) :
    Only allowed (f :: rest) ↔ allowed f.problem ∧ Only allowed rest := by simp [Only]

@[simp] theorem only_append (first second : List Finding) :
    Only allowed (first ++ second) ↔ Only allowed first ∧ Only allowed second := by
  simp [Only, or_imp, forall_and]

@[simp] theorem only_flatMap {α : Type} (items : List α) (check : α → List Finding) :
    Only allowed (items.flatMap check) ↔ ∀ item ∈ items, Only allowed (check item) := by
  simp only [Only, List.mem_flatMap]
  exact ⟨fun all item member f found => all f ⟨item, member, found⟩,
    fun all f ⟨item, member, found⟩ => all item member f found⟩

@[simp] theorem only_map {α : Type} (items : List α) (finding : α → Finding) :
    Only allowed (items.map finding) ↔ ∀ item ∈ items, allowed (finding item).problem := by
  simp [Only]

end

/-! ## Names -/

/-- The sections all have names, distinct ones, and none that is in `seen`. -/
def DistinctlyNamed (seen : List String) (sections : List Section) : Prop :=
  ∃ names : List String,
    sections.map Section.name? = names.map some ∧ names.Nodup ∧ ∀ name ∈ names, name ∉ seen

theorem distinctlyNamed_nil (seen : List String) : DistinctlyNamed seen [] :=
  ⟨[], rfl, List.nodup_nil, by simp⟩

/-- Names are distinct when each is new to those before it. -/
theorem distinctlyNamed_cons (seen : List String) (s : Section) (rest : List Section) :
    DistinctlyNamed seen (s :: rest) ↔
      ∃ name, s.name? = some name ∧ name ∉ seen ∧ DistinctlyNamed (name :: seen) rest := by
  constructor
  · rintro ⟨names, named, distinct, fresh⟩
    cases names with
    | nil => simp at named
    | cons name names =>
      simp only [List.map_cons, List.cons.injEq] at named
      obtain ⟨different, distinct⟩ := List.nodup_cons.mp distinct
      refine ⟨name, named.1, fresh name (by simp), names, named.2, distinct, ?_⟩
      intro other member taken
      rcases List.mem_cons.mp taken with rfl | taken
      · exact different member
      · exact fresh other (List.mem_cons_of_mem _ member) taken
  · rintro ⟨name, named, unseen, names, later, distinct, fresh⟩
    refine ⟨name :: names, by simp [named, later], ?_, ?_⟩
    · exact List.nodup_cons.mpr ⟨fun member => fresh name member (by simp), distinct⟩
    · intro other member
      rcases List.mem_cons.mp member with rfl | member
      · exact unseen
      · exact fun taken => fresh other member (List.mem_cons_of_mem _ taken)

theorem DistinctlyNamed.names {seen : List String} {sections : List Section}
    (named : DistinctlyNamed seen sections) :
    (sections.filterMap Section.name?).map some = sections.map Section.name? ∧
      (sections.filterMap Section.name?).Nodup := by
  obtain ⟨names, given, distinct, _⟩ := named
  have equal : sections.filterMap Section.name? = names := by
    have collected := congrArg (List.filterMap id) given
    simpa [List.filterMap_map] using collected
  rw [equal]
  exact ⟨given.symm, distinct⟩

theorem errorFree_repeatedName (kind : String) (seen : List String) (name : String) (s : Section) :
    ErrorFree (repeatedName kind seen name s) ↔ name ∉ seen := by
  by_cases taken : name ∈ seen <;> simp [ErrorFree, repeatedName, taken, Problem.severity]

/-- States pass when each has a name of its own. -/
theorem errorFree_stateNames (seen : List String) (states : List Section) :
    ErrorFree (stateNames seen states) ↔ DistinctlyNamed seen states := by
  induction states generalizing seen with
  | nil => simp [ErrorFree, stateNames, distinctlyNamed_nil]
  | cons state rest ih =>
    rw [distinctlyNamed_cons]
    cases named : state.name? with
    | none => simp [ErrorFree, stateNames, named, Problem.severity]
    | some name =>
      have unfolded : ErrorFree (stateNames seen (state :: rest)) ↔
          ErrorFree (repeatedName "state" seen name state) ∧
            ErrorFree (stateNames (name :: seen) rest) := by
        simp [ErrorFree, stateNames, named]
      simp [unfolded, errorFree_repeatedName, ih]

/-- Flows pass when each has a name of its own and passes by itself. -/
theorem errorFree_flowList (seen : List String) (flows : List Section) :
    ErrorFree (flowList seen flows) ↔
      DistinctlyNamed seen flows ∧
        ∀ f ∈ flows, ErrorFree (flow (f.name?.getD unnamed) f) := by
  induction flows generalizing seen with
  | nil => simp [ErrorFree, flowList, distinctlyNamed_nil]
  | cons f rest ih =>
    rw [distinctlyNamed_cons]
    cases named : f.name? with
    | none => simp [ErrorFree, flowList, named, Problem.severity]
    | some name =>
      have unfolded : ErrorFree (flowList seen (f :: rest)) ↔
          (ErrorFree (repeatedName "flow" seen name f) ∧ ErrorFree (flow name f)) ∧
            ErrorFree (flowList (name :: seen) rest) := by
        simp only [ErrorFree, flowList, named, only_append]
      rw [unfolded, errorFree_repeatedName, ih]
      simp only [List.forall_mem_cons, named, Option.getD_some, Option.some.injEq,
        exists_eq_left']
      exact ⟨fun ⟨⟨unseen, here⟩, later, others⟩ => ⟨⟨unseen, later⟩, here, others⟩,
        fun ⟨⟨unseen, later⟩, here, others⟩ => ⟨⟨unseen, here⟩, later, others⟩⟩

/-! ## Start states and targets -/

/-- A flow has to say which state it starts with. -/
theorem errorFree_flowStart (name : String) (flow : Section) :
    ErrorFree (flowStart name flow) ↔
      ∃ a start, flow.attribute? "start" = some a ∧ a.value.stateRef? = some start := by
  unfold flowStart
  cases given : flow.attribute? "start" with
  | none => simp [ErrorFree, Problem.severity]
  | some a => cases named : a.value.stateRef? <;> simp [ErrorFree, Problem.severity, named]

theorem errorFree_undefinedStates (flow : Section) (uses : List StateUse) :
    ErrorFree (undefinedStates flow uses) ↔ ∀ use ∈ uses, use.state ∈ declaredStates flow := by
  simp only [ErrorFree, undefinedStates, only_map, List.mem_filter, Problem.severity]
  simp

theorem mem_stateUse {v : Value} {name : String} (range : Option Range)
    (named : v.stateRef? = some name) : ⟨name, range⟩ ∈ stateUse v range := by
  simp [stateUse, named]

theorem keyedRule_used {state : Section} {node : Node} {rule : Flow.KeyedRule} {name : String}
    (made : rule ∈ Flow.nodeKeyedRules state node) (named : rule.target.stateRef? = some name) :
    ∃ range, ⟨name, range⟩ ∈ nodeStateUses node := by
  match node with
  | .child _ => simp [Flow.nodeKeyedRules] at made
  | .value _ => simp [Flow.nodeKeyedRules] at made
  | .transition t =>
    cases operand : t.operand with
    | none => simp [Flow.nodeKeyedRules, operand] at made
    | some _ =>
      simp only [Flow.nodeKeyedRules, operand, List.mem_singleton] at made
      subst made
      exact ⟨_, mem_stateUse _ named⟩
  | .attribute a =>
    simp only [Flow.nodeKeyedRules] at made
    split at made
    next leads =>
      simp only [List.mem_singleton] at made
      subst made
      simp only [Bool.and_eq_true, Bool.not_eq_true'] at leads
      simp only [nodeStateUses, leads.1, Bool.false_eq_true, if_false]
      exact ⟨_, mem_stateUse _ named⟩
    next => simp at made
  | .matchBlock block =>
    simp only [Flow.nodeKeyedRules, List.mem_map, List.mem_filter] at made
    obtain ⟨c, ⟨listed, _⟩, rfl⟩ := made
    exact ⟨_, List.mem_flatMap.mpr ⟨c, listed, mem_stateUse _ named⟩⟩

theorem fallback_used {node : Node} {v : Value} {name : String}
    (made : v ∈ Flow.nodeFallbacks node) (named : v.stateRef? = some name) :
    ∃ range, ⟨name, range⟩ ∈ nodeStateUses node := by
  match node with
  | .child _ => simp [Flow.nodeFallbacks] at made
  | .attribute _ => simp [Flow.nodeFallbacks] at made
  | .value w =>
    simp only [Flow.nodeFallbacks] at made
    split at made
    next =>
      simp only [List.mem_singleton] at made
      subst made
      exact ⟨_, mem_stateUse _ named⟩
    next => simp at made
  | .transition t =>
    cases operand : t.operand with
    | some _ => simp [Flow.nodeFallbacks, operand] at made
    | none =>
      simp only [Flow.nodeFallbacks, operand, List.mem_singleton] at made
      subst made
      exact ⟨_, mem_stateUse _ named⟩
  | .matchBlock block =>
    simp only [Flow.nodeFallbacks, List.mem_map, List.mem_filter] at made
    obtain ⟨c, ⟨listed, _⟩, rfl⟩ := made
    exact ⟨_, List.mem_flatMap.mpr ⟨c, listed, mem_stateUse _ named⟩⟩

/-- The state that a rule leads to is among the uses that are looked up. -/
theorem ruleTarget_used {state : Section} {v : Value} {name : String}
    (member : v ∈ Flow.ruleTargets state) (named : v.stateRef? = some name) :
    ∃ use ∈ stateUses state, use.state = name := by
  have inNode : ∃ node ∈ state.body, ∃ range, ⟨name, range⟩ ∈ nodeStateUses node := by
    simp only [Flow.ruleTargets, Flow.keyedRules, Flow.fallbacks, List.mem_append, List.mem_map,
      List.mem_flatMap] at member
    rcases member with ⟨rule, ⟨node, inside, made⟩, rfl⟩ | ⟨node, inside, made⟩
    · exact ⟨node, inside, keyedRule_used made named⟩
    · exact ⟨node, inside, fallback_used made named⟩
  obtain ⟨node, inside, range, used⟩ := inNode
  refine ⟨⟨name, range.or state.range⟩, ?_, rfl⟩
  exact List.mem_map.mpr ⟨_, List.mem_flatMap.mpr ⟨node, inside, used⟩, rfl⟩

theorem wellFormed_of_errorFree {state : Section} (passed : ErrorFree (events state)) :
    WellFormed (bodyOutcomes state 0 state.body) := by
  intro f member
  obtain ⟨expected, found, context, mismatch⟩ := malformed_body member
  apply passed f (malformed_found member)
  simp [mismatch, Problem.severity]

/-! ## Documents -/

/-- What the checks promise about a flow: it starts with one of its states, its states have names of
their own, every state that a rule leads to is one of them, and no rule is incomplete. -/
structure FlowSound (flow : Section) : Prop where
  start : ∃ a start, flow.attribute? "start" = some a ∧ a.value.stateRef? = some start ∧
    start ∈ declaredStates flow
  named : DistinctlyNamed [] (Flow.stateSections flow)
  declared : ∀ state ∈ Flow.stateSections flow, ∀ v ∈ Flow.ruleTargets state, ∀ name,
    v.stateRef? = some name → name ∈ declaredStates flow
  complete : ∀ state ∈ Flow.stateSections flow,
    RulesComplete (Flow.keyedRules state) (Flow.fallbacks state)

/-- What the checks promise about a document. -/
structure DocumentSound (doc : Document) : Prop where
  agent : doc.agents ≠ []
  named : DistinctlyNamed [] (doc.gather "flow")
  flows : ∀ flow ∈ doc.gather "flow", FlowSound flow

theorem flowSound_of_errorFree {name : String} {f : Section} (structural : ErrorFree (flow name f))
    (referential : ErrorFree (flowReferences f)) : FlowSound f := by
  simp only [ErrorFree, flow, only_append] at structural
  simp only [ErrorFree, flowReferences, stateReferences, only_append, only_flatMap] at referential
  obtain ⟨⟨started, _⟩, names⟩ := structural
  obtain ⟨startDeclared, states⟩ := referential
  refine ⟨?_, (errorFree_stateNames _ _).mp names, ?_, ?_⟩
  · obtain ⟨a, start, given, named⟩ := (errorFree_flowStart name f).mp started
    have declared := (errorFree_undefinedStates f _).mp startDeclared
    refine ⟨a, start, given, named, ?_⟩
    simpa [startUse, given, stateUse, named] using declared
  · intro state member v target name named
    obtain ⟨⟨usesDeclared, _⟩, _⟩ := states state member
    obtain ⟨use, used, rfl⟩ := ruleTarget_used target named
    exact (errorFree_undefinedStates f _).mp usesDeclared use used
  · intro state member
    exact rulesComplete_of_wellFormed (wellFormed_of_errorFree (states state member).2)

/-- A document without errors keeps all promises. -/
theorem documentSound_of_errorFree {doc : Document} (passed : ErrorFree (document doc)) :
    DocumentSound doc := by
  simp only [ErrorFree, document, references, flows, only_append, only_flatMap] at passed
  obtain ⟨⟨⟨⟨agentPassed, _, flowsPassed⟩, _⟩, referencesPassed, _⟩, _⟩ := passed
  obtain ⟨named, structural⟩ := (errorFree_flowList [] _).mp flowsPassed
  refine ⟨?_, named, ?_⟩
  · intro missing
    simp [agent, missing, Problem.severity] at agentPassed
  · intro f member
    exact flowSound_of_errorFree (structural f member) (referencesPassed f member)

end Dialogue.Check
