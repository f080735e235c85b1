import Dialogue.Agent
import Dialogue.Document.Builder
import Dialogue.Proofs.Table

/-!
# What is said about an agent

The agent section and the sections of configuration set properties, the sections of defaults add what is not
set. Which value counts and where a property stands come from different places: the value is that of the last
setting, or of the first default if there is no setting, but the place is that of the first mention.
-/
namespace Dialogue.Agent

/-- The attributes with a key that sections hold, in source order. -/
def attributesNamed (key : String) (sections : List Section) : List Attribute :=
  (sections.flatMap Section.attributes).filter fun a => a.key == key

theorem lookup_literals (key : String) (attributes : List Attribute) :
    Table.lookup key (attributes.map fun a => (a.key, a.value.literal)) =
      (attributes.filter fun a => a.key == key).head?.map fun a => a.value.literal := by
  induction attributes with
  | nil => rfl
  | cons a rest ih => by_cases equal : a.key = key <;> simp [Table.lookup, equal, ih]

theorem attributeLiterals_eq (sections : List Section) :
    attributeLiterals sections =
      (sections.flatMap Section.attributes).map fun a => (a.key, a.value.literal) := by
  rw [attributeLiterals, List.map_flatMap]

/-- Of all that is said, the last setting counts, and without one the first default. -/
theorem get?_collect (doc : Document) (agent : Section) (key : String) :
    (collect doc agent).get? key =
      ((attributesNamed key (settingSections doc agent)).getLast?.or
        (attributesNamed key (doc.gather "defaults")).head?).map fun a => a.value.literal := by
  have filled : collect doc agent = (Table.ofLast (attributeLiterals (settingSections doc agent))).addAll
      (attributeLiterals (doc.gather "defaults")) := rfl
  rw [filled, Table.get?_addAll, Table.get?_ofLast, attributeLiterals_eq, attributeLiterals_eq,
    ← List.map_reverse, lookup_literals, lookup_literals, List.filter_reverse, List.head?_reverse,
    Option.map_or]
  rfl

/-- Each property stands where it is mentioned first. -/
theorem keys_collect (doc : Document) (agent : Section) :
    (collect doc agent).keys =
      (((settingSections doc agent ++ doc.gather "defaults").flatMap Section.attributes).map
        Attribute.key).eraseDups := by
  have filled : collect doc agent = (Table.ofLast (attributeLiterals (settingSections doc agent))).addAll
      (attributeLiterals (doc.gather "defaults")) := rfl
  have joined : attributeLiterals (settingSections doc agent) ++ attributeLiterals (doc.gather "defaults") =
      attributeLiterals (settingSections doc agent ++ doc.gather "defaults") := by
    simp only [attributeLiterals, List.flatMap_append]
  rw [filled, Table.keys_addAll_ofLast, joined, attributeLiterals_eq, List.map_map]
  rfl

/-! ## What becomes of it -/

/-- How a literal is written into a field of text: a text as it is, any other literal as compact JSON. -/
inductive WrittenAs : Json → String → Prop
  | text (s : String) : WrittenAs (.str s) s
  | compact {literal : Json} (other : ∀ s, literal ≠ .str s) : WrittenAs literal literal.compact

theorem writtenAs_plainText (literal : Json) : WrittenAs literal (plainText literal) := by
  unfold plainText
  split
  · exact .text _
  · next other => exact .compact other

/-- The keys that have a field of their own, or none at all, are no properties. -/
theorem keys_properties (doc : Document) (agent : Section) :
    ((((collect doc agent).erase "name").erase "displayName").erase "description").keys =
      (collect doc agent).keys.filter fun key => key ∉ fixedKeys := by
  simp only [Table.keys_erase, List.filter_filter]
  refine List.filter_congr fun key _ => ?_
  rw [Bool.eq_iff_iff]
  simp only [fixedKeys, Bool.and_eq_true, bne_iff_ne, decide_eq_true_eq, List.mem_cons,
    List.not_mem_nil, or_false, not_or]
  exact ⟨fun ⟨third, second, first⟩ => ⟨first, second, third⟩,
    fun ⟨first, second, third⟩ => ⟨third, second, first⟩⟩

theorem get?_properties (doc : Document) (agent : Section) (key : String) :
    ((((collect doc agent).erase "name").erase "displayName").erase "description").get? key =
      if key ∈ fixedKeys then none else (collect doc agent).get? key := by
  simp only [Table.get?_erase]
  by_cases fixed : key ∈ fixedKeys
  · rw [if_pos fixed]
    simp only [fixedKeys, List.mem_cons, List.not_mem_nil, or_false] at fixed
    rcases fixed with rfl | rfl | rfl <;> simp
  · rw [if_neg fixed]
    simp only [fixedKeys, List.mem_cons, List.not_mem_nil, or_false, not_or] at fixed
    simp [Ne.symm fixed.1, Ne.symm fixed.2.1, Ne.symm fixed.2.2]

/-- Which value of a property counts, where it stands and what becomes of it. The settings are the attributes of
the first agent, then of the sections of configuration in both spellings; after them come the defaults. A key has
the literal of its last setting, without one that of its first default, and without either none. `displayName` and
`description` are written into fields of their own, `name` is dropped, and all other keys that are mentioned are
properties, in the order in which they are mentioned first. -/
theorem property_precedence {doc : Document} {agent : Section} (first : doc.agents.head? = some agent) :
    let settings := (agent :: doc.gather "config" ++ doc.gather "configuration").flatMap Section.attributes
    let defaults := (doc.gather "defaults").flatMap Section.attributes
    let said := fun key => ((settings.filter fun a => a.key == key).getLast?.or
      (defaults.filter fun a => a.key == key).head?).map fun a => a.value.literal
    (∀ key, (collect doc agent).get? key = said key) ∧
    ∃ result, ofDocument? doc = some result ∧
      (∀ key, result.properties.get? key =
        if key ∈ ["name", "displayName", "description"] then none else said key) ∧
      result.properties.keys = ((settings ++ defaults).map Attribute.key).eraseDups.filter
        (fun key => key ∉ ["name", "displayName", "description"]) ∧
      (∀ literal, said "displayName" = some literal → WrittenAs literal result.displayName) ∧
      (said "displayName" = none → result.displayName = "") ∧
      (∀ literal, said "description" = some literal →
        ∃ text, result.description = some text ∧ WrittenAs literal text) ∧
      (said "description" = none → result.description = none) := by
  intro settings defaults said
  have collected : ∀ key, (collect doc agent).get? key = said key := get?_collect doc agent
  have found : ofDocument? doc = some _ := congrArg (Option.map _) first
  refine ⟨collected, _, found, fun key => ?_, ?_, ?_, ?_, ?_, ?_⟩
  · rw [← collected]
    exact get?_properties doc agent key
  · have all : settings ++ defaults =
        (settingSections doc agent ++ doc.gather "defaults").flatMap Section.attributes := by
      rw [List.flatMap_append]
      rfl
    rw [all, ← keys_collect]
    exact keys_properties doc agent
  · intro literal given
    simp only [collected, given, Option.map_some, Option.getD_some]
    exact writtenAs_plainText literal
  · intro absent
    simp only [collected, absent, Option.map_none, Option.getD_none]
  · intro literal given
    simp only [collected, given, Option.map_some]
    exact ⟨_, rfl, writtenAs_plainText literal⟩
  · intro absent
    simp only [collected, absent, Option.map_none]

/-- An agent that says some things twice, with a section of configuration inside it. -/
def talkative : Section :=
  (Section.ofKind "agent").withName "Coffee"
    |>.withAttribute "displayName" (.string "Coffee" none)
    |>.withAttribute "color" (.string "black" none)
    |>.withAttribute "name" (.string "Tea" none)
    |>.withNode (.child ((Section.ofKind "config").withAttribute "displayName" (.boolean true none)))
    |>.withAttribute "color" (.string "brown" none)

/-- Defaults before the agent, and another agent behind it that brings more configuration. -/
def talkedAbout : Document :=
  ⟨[(Section.ofKind "defaults").withAttribute "color" (.string "white" none)
      |>.withAttribute "phone" (.typeTag "phone" "+15550100" none none),
    talkative,
    (Section.ofKind "agent").withNode
      (.child ((Section.ofKind "configuration").withAttribute "size" (.identifier "Large" none)))], none⟩

theorem property_precedence_talkative :
    talkedAbout.agents.head? = some talkative ∧ ∃ result, ofDocument? talkedAbout = some result ∧
      result.displayName = "true" ∧ result.description = none ∧
      result.properties.keys = ["color", "size", "phone"] ∧
      result.properties.get? "color" = some (.str "brown") := by
  have first : talkedAbout.agents.head? = some talkative := rfl
  obtain ⟨_, result, found, values, keys, shown, _, _, undescribed⟩ := property_precedence first
  refine ⟨first, result, found, ?_, undescribed rfl, ?_, values "color"⟩
  · have written := shown (.bool true) rfl
    generalize result.displayName = text at written
    cases written with
    | compact _ => rfl
  · rw [keys]
    decide +kernel

end Dialogue.Agent
