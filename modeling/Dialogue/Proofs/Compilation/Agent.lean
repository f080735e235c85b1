import Dialogue.Proofs.Agent
import Dialogue.Proofs.Compilation.Success
import Dialogue.Proofs.Document.Values

/-!
# The agent that is compiled

The checks look at the first `displayName` and the first `start` of the agent section. What is compiled is the
last that is said, by the agent section itself or by the sections of configuration, and a default where no start
is said; neither is looked at. So what was checked is what is compiled when the first that is said is the last.
-/
namespace Dialogue

/-! ## What is said about an agent -/

namespace Agent

/-- The sections that replace what the agent section says. -/
def overrideSections (doc : Document) : List Section :=
  doc.gather "config" ++ doc.gather "configuration"

theorem attributesNamed_settings (key : String) (doc : Document) (agent : Section) :
    attributesNamed key (settingSections doc agent) =
      attributesNamed key [agent] ++ attributesNamed key (overrideSections doc) := by
  simp [attributesNamed, settingSections, overrideSections]

/-- The setting that counts for a key: the last of the configuration, else the last of the agent section. -/
def setting? (doc : Document) (agent : Section) (key : String) : Option Attribute :=
  (attributesNamed key (overrideSections doc)).getLast?.or (attributesNamed key [agent]).getLast?

/-- What counts for a key: its setting, and without one the first default. -/
def counting? (doc : Document) (agent : Section) (key : String) : Option Attribute :=
  (setting? doc agent key).or (attributesNamed key (doc.gather "defaults")).head?

theorem get?_collect_eq (doc : Document) (agent : Section) (key : String) :
    (collect doc agent).get? key = (counting? doc agent key).map fun a => a.value.literal := by
  rw [get?_collect, attributesNamed_settings, List.getLast?_append, counting?, setting?]

/-- The checks look at the first attribute with a key, of those that the agent section holds. -/
theorem head?_attributesNamed (key : String) (agent : Section) :
    (attributesNamed key [agent]).head? = agent.attribute? key := by
  simp [attributesNamed, Section.attribute?]

theorem exists_setting? {agent : Section} {key : String} {first : Attribute}
    (own : agent.attribute? key = some first) (doc : Document) :
    ∃ last, setting? doc agent key = some last := by
  obtain ⟨others, all⟩ := List.head?_eq_some_iff.mp ((head?_attributesNamed key agent).trans own)
  rw [setting?, all, List.getLast?_cons, ← Option.isSome_iff_exists, Option.isSome_or]
  simp

end Agent

namespace Value

theorem literal_of_text? {v : Value} {text : String} (given : v.core.text? = some text) :
    v.literal = .str text := by
  rw [← literal_core]
  unfold text? at given
  split at given
  next core =>
    cases given
    rw [core, literal]
  next => simp at given

theorem literal_of_stateRef? {v : Value} {name : String} (given : v.stateRef? = some name) :
    v.literal = .str name := by
  rw [← literal_core]
  unfold stateRef? at given
  split at given
  next core =>
    cases given
    rw [core, literal]
  next => simp at given

end Value

/-! ## What the checks promise about an agent -/

namespace Check

theorem errorFree_displayName (agent : Section) :
    ErrorFree (displayName agent) ↔
      ∃ a text, agent.attribute? "displayName" = some a ∧ a.value.core.text? = some text := by
  unfold displayName
  cases given : agent.attribute? "displayName" with
  | none => simp [ErrorFree, Problem.severity]
  | some a => cases text : a.value.core.text? <;> simp [ErrorFree, Problem.severity, text]

theorem errorFree_agentStart {doc : Document} {agent : Section} {a : Attribute}
    (passed : ErrorFree (agentStart doc)) (first : doc.agents.head? = some agent)
    (given : agent.attribute? "start" = some a) :
    ∃ flow ∈ (doc.gather "flow").filterMap Section.name?, a.value.stateRef? = some flow := by
  unfold agentStart at passed
  simp only [first, given] at passed
  cases named : a.value.stateRef? with
  | none => simp [ErrorFree, Problem.severity, named] at passed
  | some flow =>
    simp only [named] at passed
    split at passed
    next known =>
      obtain ⟨f, gathered, called⟩ := List.any_eq_true.mp known
      exact ⟨flow, List.mem_filterMap.mpr ⟨f, gathered, beq_iff_eq.mp called⟩, rfl⟩
    next => simp [ErrorFree, Problem.severity] at passed

/-- What the checks promise about the agent section of a document. -/
structure AgentSound (doc : Document) (agent : Section) : Prop where
  displayName : ∃ a text, agent.attribute? "displayName" = some a ∧ a.value.core.text? = some text
  start : ∀ a, agent.attribute? "start" = some a →
    ∃ flow ∈ (doc.gather "flow").filterMap Section.name?, a.value.stateRef? = some flow

theorem agentSound_of_errorFree {options : CompilerOptions} {doc : Document} {first : Section}
    (passed : ErrorFree (Compilation.findings options doc)) (isFirst : doc.agents.head? = some first) :
    AgentSound doc first := by
  simp only [ErrorFree, Compilation.findings, document, references, only_append] at passed
  obtain ⟨⟨⟨⟨⟨⟨agentPassed, _⟩, _⟩, _, startPassed⟩, _⟩, _⟩, _⟩ := passed
  refine ⟨?_, fun a => errorFree_agentStart startPassed isFirst⟩
  obtain ⟨others, agents⟩ := List.head?_eq_some_iff.mp isFirst
  simp only [agent, agents, only_append] at agentPassed
  exact (errorFree_displayName first).mp agentPassed.1.2

end Check

/-! ## Compilations -/

/-- What the checks promise, and when it is what is compiled: the first `displayName` of the agent section is a
string, its first `start`, if it has one, names a compiled flow, and each of them is compiled when it counts. -/
structure AgentChecked (doc : Document) (agent : Section) (c : CompiledAgent) : Prop where
  displayName : ∃ first text, agent.attribute? "displayName" = some first ∧
    first.value.core.text? = some text ∧
    (Agent.setting? doc agent "displayName" = some first → c.agent.displayName = text)
  start : ∀ first, agent.attribute? "start" = some first →
    ∃ flow ∈ c.flows.keys, first.value.stateRef? = some flow ∧
      (Agent.setting? doc agent "start" = some first →
        c.agent.properties.get? "start" = some (.str flow))

/-- What is compiled: the `displayName` that counts, a string as it is and any other literal as it is written, and
the `start` that counts. -/
structure AgentCompiled (doc : Document) (agent : Section) (c : CompiledAgent) : Prop where
  displayName : ∃ last, Agent.setting? doc agent "displayName" = some last ∧
    c.agent.displayName = Agent.plainText last.value.literal ∧
    ∀ text, last.value.core.text? = some text → c.agent.displayName = text
  start : c.agent.properties.get? "start" =
    (Agent.counting? doc agent "start").map fun a => a.value.literal

/-- In a successful compilation the first `displayName` of the agent section is a string, and its first `start`, if
it has one, names a compiled flow. What is compiled is the last `displayName` that the agent section and then the
sections of configuration give, and likewise the last `start`, or without any the first default. So what was checked
is compiled when it is the last that is said; whatever replaces it is not checked. -/
theorem compiled_agent_settings {options : CompilerOptions} {input : SourceDocument}
    {c : CompiledAgent} (success : (compile options input).data = some c) :
    ∃ agent, input.ast.agents.head? = some agent ∧ AgentChecked input.ast agent c ∧
      AgentCompiled input.ast agent c := by
  obtain ⟨_, found, _, flows⟩ := compile_data success
  obtain ⟨agent, first, compiled⟩ := Option.map_eq_some_iff.mp found
  have sound := Check.agentSound_of_errorFree (compile_findings success) first
  obtain ⟨own, text, given, isText⟩ := sound.displayName
  obtain ⟨last, counts⟩ := Agent.exists_setting? given input.ast
  have displayName : c.agent.displayName = Agent.plainText last.value.literal := by
    have collected : c.agent.displayName =
        (((Agent.collect input.ast agent).get? "displayName").map Agent.plainText).getD "" := by
      rw [← compiled]
    rw [collected, Agent.get?_collect_eq, Agent.counting?, counts]
    rfl
  have isShown : ∀ text, last.value.core.text? = some text → c.agent.displayName = text := by
    intro text isText
    rw [displayName, Value.literal_of_text? isText]
    rfl
  have start : c.agent.properties.get? "start" =
      (Agent.counting? input.ast agent "start").map fun a => a.value.literal := by
    rw [← Agent.get?_collect_eq, ← compiled]
    simp [Table.get?_erase]
  refine ⟨agent, first, ⟨⟨own, text, given, isText, fun isLast => ?_⟩, fun checked isFirst => ?_⟩,
    ⟨⟨last, counts, displayName, isShown⟩, start⟩⟩
  · cases counts.symm.trans isLast
    exact isShown text isText
  · obtain ⟨flow, declared, named⟩ := sound.start checked isFirst
    refine ⟨flow, ?_, named, fun isLast => ?_⟩
    · rw [flows, Flow.compileAll_eq_tableOf, Flow.mem_keys_tableOf]
      exact declared
    · rw [start, Agent.counting?, isLast, Option.some_or, Option.map_some,
        Value.literal_of_stateRef? named]

/-- An agent that says how it is called and how it starts. -/
def orderAgent : Section :=
  (Section.ofKind "agent").withName "Coffee"
    |>.withAttribute "displayName" (.withContext (.string "Coffee" none) [("size", .null none)])
    |>.withAttribute "start" (.identifier "Order" none)

/-- An agent that says both again, the start wrongly. -/
def insistentAgent : Section :=
  orderAgent.withAttribute "displayName" (.string "Coffee Shop" none)
    |>.withAttribute "start" (.string "Nowhere" none)

theorem compiled_agent_settings_repeated :
    ∃ c, (compile .standard (agentInput insistentAgent [helloMessage] [])).data = some c ∧
      c.agent.displayName = "Coffee Shop" ∧
      c.agent.properties.get? "start" = some (.str "Nowhere") := by
  have compiled : (compile .standard (agentInput insistentAgent [helloMessage] [])).data.isSome = true := by
    decide +kernel
  obtain ⟨c, success⟩ := Option.isSome_iff_exists.mp compiled
  obtain ⟨agent, first, _, ⟨last, counts, _, shown⟩, starts⟩ := compiled_agent_settings success
  cases first
  cases counts
  exact ⟨c, success, shown "Coffee Shop" rfl, starts⟩

/-- A section of configuration behind the agent that gives both settings again. -/
def overriding : Section :=
  (Section.ofKind "config").withAttribute "displayName" (.boolean true none)
    |>.withAttribute "start" (.string "Nowhere" none)

def overriddenInput : SourceDocument := agentInput orderAgent [helloMessage] [overriding]

/-- What is compiled is neither the string that was checked nor the name of a flow. -/
theorem overriding_settings_unchecked :
    (compile .standard overriddenInput).success = true ∧
      (compile .standard overriddenInput).diagnostics.isEmpty = true ∧
      ((compile .standard overriddenInput).data.map fun c =>
        (c.agent.displayName, (c.agent.properties.get? "start").map Agent.plainText, c.flows.keys)) =
          some ("true", some "Nowhere", ["Order"]) ∧
      ((Agent.attributesNamed "displayName" overriddenInput.ast.sections).filterMap
        fun a => a.value.core.text?) = ["Coffee"] := by
  decide +kernel

end Dialogue
