import Dialogue.Document.Builder
import Dialogue.Proofs.Flow.Rules

/-!
# Which rule of a state counts

Rules compete for events and for the fallback, and the first in the body counts. So the events of a
compiled state stand in the order in which they come up first, and a longer body only adds to what a
shorter one compiles to.
-/
namespace Dialogue

/-- The newer state keeps what the older one holds and adds behind it: entries keep their place, a fallback
that is there stays, and actions are appended. -/
structure StateNode.Extends (older newer : StateNode) : Prop where
  on : older.on.entries <+: newer.on.entries
  always : ∀ t, older.always = some t → newer.always = some t
  entry : older.entry <+: newer.entry
  exit : older.exit <+: newer.exit

namespace StateNode

theorem Extends.refl (s : StateNode) : s.Extends s where
  on := List.prefix_refl _
  always := fun _ held => held
  entry := List.prefix_refl _
  exit := List.prefix_refl _

theorem Extends.trans {first second third : StateNode} (earlier : first.Extends second)
    (later : second.Extends third) : first.Extends third where
  on := earlier.on.trans later.on
  always := fun t held => later.always t (earlier.always t held)
  entry := earlier.entry.trans later.entry
  exit := earlier.exit.trans later.exit

theorem extends_addEvent (s : StateNode) (event : String) (t : Transition) :
    s.Extends (s.addEvent event t) :=
  { Extends.refl s with on := Table.entries_prefix_add s.on event t }

theorem extends_setAlways (s : StateNode) (t : Transition) : s.Extends (s.setAlways t) :=
  { Extends.refl s with always := fun held present => by simp [setAlways, present] }

theorem extends_addEntry (s : StateNode) (actions : List String) : s.Extends (s.addEntry actions) :=
  { Extends.refl s with entry := List.prefix_append _ _ }

theorem extends_addExit (s : StateNode) (actions : List String) : s.Extends (s.addExit actions) :=
  { Extends.refl s with exit := List.prefix_append _ _ }

/-- When each step extends the state, a run of them does. -/
theorem extends_foldl {α : Type} {step : StateNode → α → StateNode}
    (extended : ∀ (s : StateNode) (item : α), s.Extends (step s item)) (s : StateNode) (items : List α) :
    s.Extends (items.foldl step s) := by
  induction items generalizing s with
  | nil => exact Extends.refl s
  | cons item rest ih => exact (extended s item).trans (ih (step s item))

end StateNode

namespace Flow

open StateNode

theorem extends_addCase (s : StateNode) (c : MatchCase) : s.Extends (addCase s c) := by
  unfold addCase
  split
  · exact Extends.refl s
  · split
    · exact extends_setAlways s _
    · split
      · exact extends_addEvent s _ _
      · exact Extends.refl s

theorem extends_addRule (s : StateNode) (rule : DirectTransition) : s.Extends (addRule s rule) := by
  unfold addRule
  split
  · exact Extends.refl s
  · split
    · exact extends_setAlways s _
    · split
      · exact extends_addEvent s _ _
      · exact Extends.refl s

theorem extends_addAttribute (s : StateNode) (a : Attribute) : s.Extends (addAttribute s a) := by
  unfold addAttribute
  split
  · exact extends_addEntry s _
  · split
    · exact extends_addExit s _
    · split
      · exact extends_addEvent s _ _
      · exact Extends.refl s

/-- No node of a body takes back what an earlier one has set. -/
theorem extends_addNode (s : StateNode) (node : Node) : s.Extends (addNode s node) := by
  match node with
  | .transition rule => exact extends_addRule s rule
  | .attribute a => exact extends_addAttribute s a
  | .matchBlock block => exact extends_foldl extends_addCase s block.cases
  | .child _ => exact Extends.refl s
  | .value v =>
    simp only [addNode]
    split
    · split
      · exact extends_setAlways s _
      · exact Extends.refl s
    · exact Extends.refl s

theorem compileState_append (state : Section) (more : List Node) :
    compileState { state with body := state.body ++ more } = more.foldl addNode (compileState state) :=
  List.foldl_append

/-! ## Rules that count -/

/-- The keyed rules of a state that have both an event and a target, as entries of the event table. -/
def keyedOffers (state : Section) : List (String × Transition) :=
  (keyedRules state).filterMap KeyedRule.offer?

/-- The fallback rules of a state that have a target, as transitions. -/
def fallbackOffers (state : Section) : List Transition := (fallbacks state).filterMap transition?

/-- The node without the default cases of its match block. -/
def withoutDefaults : Node → Node
  | .matchBlock block => .matchBlock { block with cases := block.cases.filter fun c => !c.isDefault }
  | node => node

/-- The keyed rules of a node do not include its default cases. -/
theorem nodeKeyedRules_withoutDefaults (state : Section) (node : Node) :
    nodeKeyedRules state (withoutDefaults node) = nodeKeyedRules state node := by
  cases node with
  | matchBlock block =>
    simp only [withoutDefaults, nodeKeyedRules, List.filter_filter, Bool.and_self]
    rfl
  | _ => rfl

theorem keyedRules_withoutDefaults (state : Section) :
    keyedRules { state with body := state.body.map withoutDefaults } = keyedRules state := by
  simp only [keyedRules, List.flatMap_map]
  exact congrArg (state.body.flatMap ·) (funext (nodeKeyedRules_withoutDefaults state))

/-- The first rule counts. The events of a compiled state are those of its keyed rules in the order in which
they come up first, each with the transition of its first rule, and the fallback is the first one.
Default cases give no event, and nodes behind the body change nothing that is there. -/
theorem first_rule_counts (state : Section) :
    (compileState state).on.keys = ((keyedOffers state).map Prod.fst).eraseDups ∧
      (∀ event, (compileState state).on.get? event =
        ((keyedOffers state).find? fun offer => offer.1 = event).map Prod.snd) ∧
      (compileState state).always = (fallbackOffers state).head? ∧
      (compileState { state with body := state.body.map withoutDefaults }).on =
        (compileState state).on ∧
      ∀ more : List Node,
        (compileState state).Extends (compileState { state with body := state.body ++ more }) := by
  refine ⟨?_, fun event => ?_, ?_, ?_, fun more => ?_⟩
  · rw [compileState_on, Table.keys_ofFirst, keyedOffers]
  · rw [compileState_on, Table.get?_ofFirst, Table.lookup_eq_find?, keyedOffers]
  · rw [compileState_always, fallbackOffers, List.head?_filterMap]
  · rw [compileState_on, compileState_on, keyedRules_withoutDefaults]
  · rw [compileState_append]
    exact extends_foldl extends_addNode _ more

/-- A state whose last two rules come too late: the event and the fallback are taken. -/
def crowdedState : Section :=
  (Section.ofKind "on").withName "Ask"
    |>.withTransition (some (.string "yes" none)) (.identifier "Order" none)
    |>.withMatch (.reference "reply" none)
      [(.atom "default" none, .identifier "Ask" none), (.string "yes" none, .identifier "Pay" none)]
    |>.withTransition (some (.string "yes" none)) (.identifier "Leave" none)
    |>.withTransition none (.identifier "Leave" none)

example : ((compileState crowdedState).on.entries.map fun entry => (entry.1, entry.2.target)) =
      [("yes", "Order"), ("match_yes", "Pay")] ∧
    (compileState crowdedState).always.map Transition.target = some "Ask" := by decide +kernel

end Flow

end Dialogue
