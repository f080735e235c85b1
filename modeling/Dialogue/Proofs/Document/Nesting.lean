import Dialogue.Document.Section

/-!
# Sections inside an agent

Flows, messages and configuration may stand inside an agent or beside it. Here the sections that are
gathered from an agent are taken out of it and put behind it: what is gathered stays the same, and so
does all that is said about the agent itself.
-/
namespace Dialogue

namespace Section

/-- The kinds of sections that may stand inside an agent. -/
def nestedKinds : List String := ["flow", "messages", "config", "configuration", "defaults"]

def mayNest (s : Section) : Bool := nestedKinds.contains s.kind

/-- The sections inside a section that might as well stand beside it, in their order. -/
def nested (s : Section) : List Section := s.children.filter mayNest

end Section

def Node.isNested : Node → Bool
  | .child s => s.mayNest
  | _ => false

/-- The section without the sections that might as well stand beside it. -/
def Section.alone (s : Section) : Section := { s with body := s.body.filter fun n => !n.isNested }

namespace Section

/-! ## What stays -/

theorem name?_alone (s : Section) : s.alone.name? = s.name? := rfl

theorem is_alone (s : Section) (kind : String) : s.alone.is kind = s.is kind := rfl

theorem attributes_alone (s : Section) : s.alone.attributes = s.attributes := by
  unfold attributes alone
  rw [List.filterMap_filter]
  congr 1
  funext n
  cases n with
  | child c => by_cases nests : c.mayNest = true <;> simp [Node.isNested, Node.attribute?, nests]
  | _ => rfl

theorem attribute?_alone (s : Section) (key : String) : s.alone.attribute? key = s.attribute? key := by
  rw [attribute?, attribute?, attributes_alone]

theorem alone_alone (s : Section) : s.alone.alone = s.alone := by
  simp [alone]

/-! ## What moves -/

theorem children_alone (s : Section) : s.alone.children = s.children.filter fun c => !c.mayNest := by
  unfold children alone
  rw [List.filterMap_filter, List.filter_filterMap]
  congr 1
  funext n
  cases n with
  | child c =>
    by_cases nests : c.mayNest = true <;> simp [Node.isNested, Node.child?, Option.filter, nests]
  | _ => rfl

theorem map_child_nested (s : Section) : s.nested.map Node.child = s.body.filter Node.isNested := by
  unfold nested children
  induction s.body with
  | nil => rfl
  | cons n rest ih =>
    rw [List.filterMap_cons, List.filter_cons, ← ih]
    cases n with
    | child c => by_cases nests : c.mayNest = true <;> simp [Node.isNested, Node.child?, nests]
    | _ => rfl

theorem childrenOf_alone (s : Section) {kind : String} (nests : kind ∈ nestedKinds) :
    s.alone.childrenOf kind = [] := by
  rw [childrenOf, children_alone, List.filter_filter, List.filter_eq_nil_iff]
  intro c _ both
  obtain ⟨ofKind, stays⟩ := Bool.and_eq_true_iff.mp both
  rw [is, beq_iff_eq] at ofKind
  simp [mayNest, ofKind, nests] at stays

theorem childrenOf_eq_nested (s : Section) {kind : String} (nests : kind ∈ nestedKinds) :
    s.childrenOf kind = s.nested.filter (·.is kind) := by
  rw [nested, List.filter_filter, childrenOf]
  refine List.filter_congr fun c _ => ?_
  by_cases ofKind : c.is kind = true
  · have same : c.kind = kind := by simpa [is] using ofKind
    simp [ofKind, mayNest, same, nests]
  · simp [ofKind]

theorem kind_of_nested {s c : Section} (inside : c ∈ s.nested) : c.kind ∈ nestedKinds := by
  simpa [mayNest] using (List.mem_filter.mp inside).2

theorem not_agent_of_nested {s c : Section} (inside : c ∈ s.nested) : c.is "agent" = false := by
  have known := kind_of_nested inside
  rw [is, beq_eq_false_iff_ne]
  intro equal
  rw [equal] at known
  exact absurd known (by decide)

theorem not_message_of_nested {s c : Section} (inside : c ∈ s.nested) : c.isMessage = false := by
  have known := kind_of_nested inside
  cases isMessage : c.isMessage with
  | false => rfl
  | true =>
    have named : c.kind ∈ messageKinds := by simpa [Section.isMessage] using isMessage
    have apart : ∀ kind ∈ nestedKinds, kind ∉ messageKinds := by decide
    exact absurd named (apart c.kind known)

end Section

theorem Section.not_message_of_agent {agent : Section} (isAgent : agent.is "agent" = true) :
    agent.isMessage = false := by
  have named : agent.kind = "agent" := by simpa [is] using isAgent
  rw [Section.isMessage, named]
  decide

/-- An agent is of none of the kinds that stand inside it. -/
theorem Section.not_kind_of_agent {agent : Section} (isAgent : agent.is "agent" = true) {kind : String}
    (nests : kind ∈ nestedKinds) : agent.is kind = false := by
  have named : agent.kind = "agent" := by simpa [is] using isAgent
  rw [is, named, beq_eq_false_iff_ne]
  rintro rfl
  exact absurd nests (by decide)

namespace Document

/-- The sections of a kind that are gathered from an agent are those that stand inside it. -/
theorem gatherFrom_agent {agent : Section} (isAgent : agent.is "agent" = true) {kind : String}
    (nests : kind ∈ Section.nestedKinds) :
    gatherFrom kind agent = agent.nested.filter (·.is kind) := by
  rw [gatherFrom, Section.not_kind_of_agent isAgent nests, isAgent,
    Section.childrenOf_eq_nested agent nests]
  rfl

theorem gatherFrom_alone {agent : Section} (isAgent : agent.is "agent" = true) {kind : String}
    (nests : kind ∈ Section.nestedKinds) : gatherFrom kind agent.alone = [] := by
  rw [gatherFrom, Section.is_alone, Section.is_alone, Section.not_kind_of_agent isAgent nests, isAgent,
    Section.childrenOf_alone agent nests]
  rfl

theorem gatherFrom_of_nested {agent c : Section} (inside : c ∈ agent.nested) (kind : String) :
    gatherFrom kind c = if c.is kind then [c] else [] := by
  rw [gatherFrom, Section.not_agent_of_nested inside]
  exact List.append_nil _

/-- What is gathered from an agent is what is gathered from the sections inside it. -/
theorem gatherFrom_nested {agent : Section} (isAgent : agent.is "agent" = true) {kind : String}
    (nests : kind ∈ Section.nestedKinds) :
    agent.nested.flatMap (gatherFrom kind) = gatherFrom kind agent := by
  have each : ∀ c ∈ agent.nested, gatherFrom kind c = if c.is kind then [c] else [] :=
    fun c inside => gatherFrom_of_nested inside kind
  have single : agent.nested.filter (·.is kind) =
      agent.nested.flatMap fun c => if c.is kind then [c] else [] := by
    conv => lhs; rw [← List.flatMap_singleton' agent.nested, List.filter_flatMap]
    simp only [List.filter_cons, List.filter_nil]
  rw [gatherFrom_agent isAgent nests, single]
  exact congrArg List.flatten (List.map_congr_left each)

end Document

end Dialogue
