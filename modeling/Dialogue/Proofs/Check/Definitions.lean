import Dialogue.Proofs.Check.Malformed
import Mathlib.Algebra.GroupWithZero.Nat
import Mathlib.Data.Finset.Card
import Mathlib.Data.Finset.SDiff

/-!
# Repeated definitions

A document has one agent and one section of messages. Flows have names of their own, and so have the states of
each flow and the messages of all sections of messages together. The checks go through each of these lists and
keep the names that they have seen: what they report are the sections whose name was seen before, so that the
reports and the distinct names together make up the named sections.
-/
namespace Dialogue.Check

/-- The names that sections have. -/
def namesOf (sections : List Section) : List String := sections.filterMap Section.name?

theorem namesOf_cons_of_none {s : Section} (nameless : s.name? = none) (rest : List Section) :
    namesOf (s :: rest) = namesOf rest :=
  List.filterMap_cons_none nameless

theorem namesOf_cons_of_some {s : Section} {name : String} (named : s.name? = some name)
    (rest : List Section) : namesOf (s :: rest) = name :: namesOf rest :=
  List.filterMap_cons_some named

/-- How many names there are beyond the distinct ones. -/
def surplus (names : List String) : Nat := names.length - names.toFinset.card

theorem surplus_eq_zero_iff (names : List String) : surplus names = 0 ↔ names.Nodup := by
  have bound := names.toFinset_card_le
  constructor
  · intro noSurplus
    apply Multiset.coe_nodup.mp
    apply Multiset.toFinset_card_eq_card_iff_nodup.mp
    change names.toFinset.card = names.length
    unfold surplus at noSurplus
    omega
  · intro distinct
    rw [surplus, List.toFinset_card_of_nodup distinct, Nat.sub_self]

/-! ## Names that were seen -/

/-- How many of the names are distinct and new. -/
def unseen (seen names : List String) : Nat := (names.toFinset \ seen.toFinset).card

theorem unseen_nil (names : List String) : unseen [] names = names.toFinset.card := by
  simp [unseen]

/-- A name is reported when it was seen, and one more that is new when it was not. -/
theorem repeated_or_unseen (kind : String) (seen : List String) (name : String) (s : Section)
    (names : List String) :
    (repeatedName kind seen name s).length + unseen seen (name :: names) =
      unseen (name :: seen) names + 1 := by
  unfold unseen repeatedName
  rw [List.toFinset_cons, List.toFinset_cons]
  by_cases taken : name ∈ seen
  · have known : name ∈ seen.toFinset := List.mem_toFinset.mpr taken
    rw [Finset.insert_sdiff_of_mem _ known, Finset.insert_eq_of_mem known, if_pos (by simpa using taken),
      List.length_singleton, Nat.add_comm]
  · have new : name ∉ seen.toFinset := fun known => taken (List.mem_toFinset.mp known)
    have apart : name ∉ names.toFinset \ insert name seen.toFinset := by simp
    have grown : insert name names.toFinset \ seen.toFinset =
        insert name (names.toFinset \ insert name seen.toFinset) := by
      ext other
      by_cases equal : other = name <;> simp [equal, new]
    rw [grown, Finset.card_insert_of_notMem apart, if_neg (by simpa using taken), List.length_nil,
      Nat.zero_add]

/-- What the checks report under the code of repeated definitions. -/
def repeats (findings : List Finding) : Nat := (withCode .duplicateDefinition findings).length

@[simp] theorem repeats_append (first second : List Finding) :
    repeats (first ++ second) = repeats first + repeats second := by
  simp [repeats]

theorem repeats_of_single {findings : List Finding}
    (only : Only (Coded [.duplicateDefinition]) findings) : repeats findings = findings.length := by
  rw [repeats, withCode_of_single only]

theorem repeats_of_foreign {codes : List Code} {findings : List Finding}
    (only : Only (Coded codes) findings) (foreign : Code.duplicateDefinition ∉ codes) :
    repeats findings = 0 := by
  rw [repeats, withCode_of_foreign only foreign, List.length_nil]

theorem repeats_missingIdentifier (context : String) (range : Option Range) (rest : List Finding) :
    repeats (⟨.missingIdentifier context, range⟩ :: rest) = repeats rest := rfl

theorem repeats_repeatedName (kind : String) (seen : List String) (name : String) (s : Section) :
    repeats (repeatedName kind seen name s) = (repeatedName kind seen name s).length :=
  repeats_of_single (only_repeatedName kind seen name s)

/-! ## Lists of sections

In each list the reports and the names that are new are together as many as the named sections, whatever was
seen before. -/

theorem repeats_stateNames (seen : List String) (states : List Section) :
    repeats (stateNames seen states) + unseen seen (namesOf states) = (namesOf states).length := by
  induction states generalizing seen with
  | nil => simp [stateNames, namesOf, unseen, repeats]
  | cons state rest ih =>
    rw [stateNames]
    cases named : state.name? with
    | none =>
      rw [namesOf_cons_of_none named, ← ih seen, repeats_missingIdentifier]
    | some name =>
      have here := repeated_or_unseen "state" seen name state (namesOf rest)
      have later := ih (name :: seen)
      rw [namesOf_cons_of_some named, List.length_cons, repeats_append, repeats_repeatedName]
      omega

theorem repeats_flow (name : String) (f : Section) :
    repeats (flow name f) = surplus (namesOf (f.childrenOf "on")) := by
  have start := repeats_of_foreign (only_flowStart name f) (by decide)
  have empty : repeats (if (Flow.stateSections f).isEmpty then [⟨.emptyFlow name, f.range⟩] else []) =
      0 := by
    split <;> rfl
  have states := repeats_stateNames [] (Flow.stateSections f)
  rw [unseen_nil] at states
  simp only [flow, repeats_append, start, empty, surplus]
  change _ = (namesOf (Flow.stateSections f)).length - (namesOf (Flow.stateSections f)).toFinset.card
  omega

theorem repeats_flowList (seen : List String) (flows : List Section) :
    repeats (flowList seen flows) + unseen seen (namesOf flows) =
      (namesOf flows).length + (flows.map fun f => surplus (namesOf (f.childrenOf "on"))).sum := by
  induction flows generalizing seen with
  | nil => simp [flowList, namesOf, unseen, repeats]
  | cons f rest ih =>
    rw [flowList, List.map_cons, List.sum_cons]
    cases named : f.name? with
    | none =>
      have later := ih seen
      rw [namesOf_cons_of_none named]
      simp only [List.cons_append, repeats_missingIdentifier, repeats_append, repeats_flow]
      omega
    | some name =>
      have here := repeated_or_unseen "flow" seen name f (namesOf rest)
      have later := ih (name :: seen)
      rw [namesOf_cons_of_some named, List.length_cons]
      simp only [repeats_append, repeats_repeatedName, repeats_flow]
      omega

/-- Sections that declare no message are passed over. -/
theorem repeats_messageList (seen : List String) (sections : List Section) :
    repeats (messageList seen sections) + unseen seen (namesOf (sections.filter Section.isMessage)) =
      (namesOf (sections.filter Section.isMessage)).length := by
  have content (label : String) (s : Section) : repeats (messageContent label s) = 0 :=
    repeats_of_foreign (only_messageContent label s) (by decide)
  induction sections generalizing seen with
  | nil => simp [messageList, namesOf, unseen, repeats]
  | cons s rest ih =>
    rw [messageList]
    by_cases isMessage : s.isMessage = true
    · rw [if_pos isMessage, List.filter_cons_of_pos isMessage]
      cases named : s.name? with
      | none =>
        rw [namesOf_cons_of_none named, ← ih seen]
        simp only [repeats_append, content, Nat.zero_add]
      | some name =>
        have here := repeated_or_unseen "message" seen name s
          (namesOf (rest.filter Section.isMessage))
        have later := ih (name :: seen)
        rw [namesOf_cons_of_some named, List.length_cons]
        simp only [repeats_append, repeats_repeatedName, content]
        omega
    · rw [if_neg isMessage, List.filter_cons_of_neg isMessage, ← ih seen]
      rfl

/-! ## Documents -/

theorem repeats_agent (doc : Document) : repeats (agent doc) = doc.agents.length - 1 := by
  unfold agent
  cases doc.agents with
  | nil => rfl
  | cons first others =>
    have reserved : repeats ((propertySections doc first).flatMap reservedName) = 0 :=
      repeats_of_foreign ((only_flatMap _ _).mpr fun s _ => only_reservedName s) (by decide)
    simp only [repeats_append, repeats_of_single (only_repeatedSections "agent" others),
      repeats_of_foreign (only_agentIdentifier first) (by decide),
      repeats_of_foreign (only_displayName first) (by decide), reserved]
    simp

theorem repeats_flows (doc : Document) :
    repeats (flows doc) = surplus (namesOf (doc.gather "flow")) +
      ((doc.gather "flow").map fun f => surplus (namesOf (f.childrenOf "on"))).sum := by
  have missing : repeats (if (doc.gather "flow").isEmpty then
      [⟨.missingRequiredField "flow section", doc.range⟩] else []) = 0 := by
    split <;> rfl
  have list := repeats_flowList [] (doc.gather "flow")
  have bound := (namesOf (doc.gather "flow")).toFinset_card_le
  rw [unseen_nil] at list
  simp only [flows, repeats_append, missing, surplus] at list ⊢
  omega

theorem repeats_messages (doc : Document) :
    repeats (messages doc) =
      ((doc.gather "messages").length - 1) + surplus (namesOf (declaredMessages doc)) := by
  unfold messages declaredMessages
  cases doc.gather "messages" with
  | nil => rfl
  | cons first others =>
    have list := repeats_messageList [] ((first :: others).flatMap Section.children)
    rw [unseen_nil, List.filter_flatMap] at list
    rw [repeats_append, repeats_of_single (only_repeatedSections "messages" others), List.length_map,
      List.length_cons, surplus]
    omega

theorem repeats_document (doc : Document) :
    repeats (document doc) = repeats (agent doc) + repeats (flows doc) + repeats (messages doc) := by
  rw [repeats, withCode_structural (by decide) (by decide), List.length_append, List.length_append]
  rfl

/-- The reports of repeated definitions are exact: there is one for each agent and each section of messages but
the first, and one for each flow, each state of a flow and each message whose name comes up in its place again.
So there is none exactly if all of these are unique. -/
theorem repeated_definitions_exact (doc : Document) :
    (withCode .duplicateDefinition (document doc)).length =
      (doc.agents.length - 1) + surplus (namesOf (doc.gather "flow")) +
        ((doc.gather "flow").map fun f => surplus (namesOf (f.childrenOf "on"))).sum +
        ((doc.gather "messages").length - 1) + surplus (namesOf (declaredMessages doc)) ∧
    (withCode .duplicateDefinition (document doc) = [] ↔
      doc.agents.length ≤ 1 ∧ (doc.gather "messages").length ≤ 1 ∧
        (namesOf (doc.gather "flow")).Nodup ∧
        (∀ f ∈ doc.gather "flow", (namesOf (f.childrenOf "on")).Nodup) ∧
        (namesOf (declaredMessages doc)).Nodup) := by
  have count : (withCode .duplicateDefinition (document doc)).length =
      (doc.agents.length - 1) + surplus (namesOf (doc.gather "flow")) +
        ((doc.gather "flow").map fun f => surplus (namesOf (f.childrenOf "on"))).sum +
        ((doc.gather "messages").length - 1) + surplus (namesOf (declaredMessages doc)) := by
    change repeats (document doc) = _
    rw [repeats_document, repeats_agent, repeats_flows, repeats_messages]
    omega
  refine ⟨count, ?_⟩
  have states : ((doc.gather "flow").map fun f => surplus (namesOf (f.childrenOf "on"))).sum = 0 ↔
      ∀ f ∈ doc.gather "flow", (namesOf (f.childrenOf "on")).Nodup := by
    simp [List.sum_eq_zero_iff_forall_eq_nat, surplus_eq_zero_iff]
  rw [← List.length_eq_zero_iff, count, ← states, ← surplus_eq_zero_iff, ← surplus_eq_zero_iff]
  omega

end Dialogue.Check
