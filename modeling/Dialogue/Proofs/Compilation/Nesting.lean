import Dialogue.Proofs.Check.TypeTags
import Dialogue.Proofs.Compilation.Options
import Dialogue.Proofs.Document.Nesting

/-!
# Sections inside and beside an agent

It makes no difference whether flows, messages and configuration stand inside an agent or behind it. All
that a compilation asks a document for is what it gathers, what the agents themselves say, the messages
that stand where they belong and the type-tagged literals; of these only the last come in another order
when sections are moved.
-/
namespace Dialogue

/-- Two documents of which a compilation gets to see the same. -/
structure Document.Alike (doc other : Document) : Prop where
  gather : ∀ kind ∈ Section.nestedKinds, other.gather kind = doc.gather kind
  agents : other.agents.map Section.alone = doc.agents.map Section.alone
  primary : Message.primaryCandidates other = Message.primaryCandidates doc
  tags : (other.sections.flatMap Check.sectionTagUses).Perm
    (doc.sections.flatMap Check.sectionTagUses)
  range : other.range = doc.range

/-! ## What an agent says itself -/

namespace Check

theorem agentIdentifier_alone (s : Section) : agentIdentifier s.alone = agentIdentifier s := rfl

theorem displayName_alone (s : Section) : displayName s.alone = displayName s := by
  unfold displayName
  rw [Section.attribute?_alone]
  rfl

theorem reservedName_alone (s : Section) : reservedName s.alone = reservedName s := by
  unfold reservedName
  rw [Section.attribute?_alone]
  rfl

theorem agentNaming_alone (s : Section) : agentNaming s.alone = agentNaming s := rfl

end Check

/-- The first agents of two documents that are alike say the same. -/
theorem Document.Alike.head_agent {doc other : Document} (alike : doc.Alike other) :
    other.agents.head?.map Section.alone = doc.agents.head?.map Section.alone := by
  rw [← List.head?_map, ← List.head?_map, alike.agents]

namespace Check

variable {doc other : Document}

theorem agent_alike (alike : doc.Alike other) : agent other = agent doc := by
  unfold agent
  have agents := alike.agents
  cases first : doc.agents with
  | nil =>
    rw [first, List.map_nil, List.map_eq_nil_iff] at agents
    rw [agents, alike.range]
  | cons a others =>
    rw [first, List.map_cons] at agents
    obtain ⟨b, rest, found, same, equal⟩ := List.map_eq_cons_iff.mp agents
    have repeated : rest.map (fun s => (⟨.duplicateDefinition "agent" none, s.range⟩ : Finding)) =
        others.map fun s => ⟨.duplicateDefinition "agent" none, s.range⟩ := by
      have ranges := congrArg (List.map fun s => (⟨.duplicateDefinition "agent" none, s.range⟩ : Finding))
        equal
      rw [List.map_map, List.map_map] at ranges
      exact ranges
    have identifier : agentIdentifier b = agentIdentifier a := by
      rw [← agentIdentifier_alone, same, agentIdentifier_alone]
    have display : displayName b = displayName a := by
      rw [← displayName_alone, same, displayName_alone]
    have reserved : reservedName b = reservedName a := by
      rw [← reservedName_alone, same, reservedName_alone]
    rw [found]
    simp only [propertySections, repeated, identifier, display, List.cons_append, List.flatMap_cons,
      reserved, alike.gather "config" (by decide), alike.gather "configuration" (by decide),
      alike.gather "defaults" (by decide)]

theorem flows_alike (alike : doc.Alike other) : flows other = flows doc := by
  simp only [flows, alike.gather "flow" (by decide), alike.range]

theorem messages_alike (alike : doc.Alike other) : messages other = messages doc := by
  simp only [messages, alike.gather "messages" (by decide), alike.range]

theorem agentStart_alike (alike : doc.Alike other) : agentStart other = agentStart doc := by
  unfold agentStart
  have agents := alike.head_agent
  cases first : doc.agents.head? with
  | none =>
    rw [first, Option.map_none, Option.map_eq_none_iff] at agents
    rw [agents]
  | some a =>
    rw [first, Option.map_some, Option.map_eq_some_iff] at agents
    obtain ⟨b, found, same⟩ := agents
    have start : b.attribute? "start" = a.attribute? "start" := by
      rw [← Section.attribute?_alone, same, Section.attribute?_alone]
    have range : b.alone.range = a.alone.range := by rw [same]
    change b.range = a.range at range
    rw [found]
    simp only [start, range, alike.gather "flow" (by decide)]

/-- The checks find the same, though perhaps in another order. -/
theorem document_alike (alike : doc.Alike other) : (document other).Perm (document doc) := by
  have tags : (typeTags other).Perm (typeTags doc) := alike.tags.filterMap tagFinding?
  simp only [document, references, agent_alike alike, flows_alike alike, messages_alike alike,
    agentStart_alike alike, alike.gather "flow" (by decide)]
  exact tags.append_left _

theorem naming_alike (alike : doc.Alike other) : naming other = naming doc := by
  have agents : other.agents.flatMap agentNaming = doc.agents.flatMap agentNaming := by
    have named := congrArg (List.flatMap agentNaming) alike.agents
    simpa only [List.flatMap_map, agentNaming_alone] using named
  simp only [naming, agents, alike.gather "flow" (by decide), alike.gather "messages" (by decide)]

end Check

namespace Compilation

variable {doc other : Document}

theorem findings_alike (options : CompilerOptions) (alike : doc.Alike other) :
    (findings options other).Perm (findings options doc) := by
  simp only [findings, emptyMessages, Check.naming_alike alike, alike.gather "messages" (by decide)]
  exact ((Check.document_alike alike).append_right _).append_right _

theorem agent_alike (alike : doc.Alike other) : Agent.ofDocument? other = Agent.ofDocument? doc := by
  unfold Agent.ofDocument?
  have agents := alike.head_agent
  cases first : doc.agents.head? with
  | none =>
    rw [first, Option.map_none, Option.map_eq_none_iff] at agents
    rw [agents]
    rfl
  | some a =>
    rw [first, Option.map_some, Option.map_eq_some_iff] at agents
    obtain ⟨b, found, same⟩ := agents
    have name : b.name? = a.name? := by rw [← Section.name?_alone, same, Section.name?_alone]
    have attributes : b.attributes = a.attributes := by
      rw [← Section.attributes_alone, same, Section.attributes_alone]
    have collected : Agent.collect other b = Agent.collect doc a := by
      simp only [Agent.collect, Agent.settingSections, Agent.attributeLiterals, List.cons_append,
        List.flatMap_cons, attributes, alike.gather "config" (by decide),
        alike.gather "configuration" (by decide), alike.gather "defaults" (by decide)]
    rw [found, Option.map_some, Option.map_some, collected, name]

theorem flows_alike (alike : doc.Alike other) : Flow.compileAll other = Flow.compileAll doc := by
  rw [Flow.compileAll, Flow.compileAll, alike.gather "flow" (by decide)]

/-- Where messages stand where they belong, the same are extracted. -/
theorem extract_alike (alike : doc.Alike other) (sound : Check.MessagesSound doc) (depth : Nat) :
    Message.extract other depth = Message.extract doc depth := by
  obtain ⟨m, member⟩ := sound.primary
  have moved : m ∈ Message.primaryCandidates other := by rwa [alike.primary]
  rw [Message.extract, Message.extract, Message.candidates_of_primary depth moved,
    Message.candidates_of_primary depth member, alike.primary]

end Compilation

/-- Documents that are alike compile alike. -/
theorem compile_alike (options : CompilerOptions) (input : SourceDocument) {other : Document}
    (alike : input.ast.Alike other) :
    (compile options { input with ast := other }).success = (compile options input).success ∧
    (compile options { input with ast := other }).data = (compile options input).data ∧
    (compile options { input with ast := other }).diagnostics.Perm
      (compile options input).diagnostics := by
  have merged : (Compilation.merged options { input with ast := other }).Perm
      (Compilation.merged options input) :=
    ((Compilation.findings_alike options alike).map Finding.diagnostic).append_left _
  have errors : Diagnostic.hasErrors (Compilation.merged options { input with ast := other }) =
      Diagnostic.hasErrors (Compilation.merged options input) := merged.any_eq
  have reported : (compile options { input with ast := other }).diagnostics.Perm
      (compile options input).diagnostics := by
    rw [compile_diagnostics, compile_diagnostics, Compilation.placed_eq_map, Compilation.placed_eq_map]
    exact (Diagnostic.sort_perm _).trans ((merged.map _).trans (Diagnostic.sort_perm _).symm)
  cases failed : Diagnostic.hasErrors (Compilation.merged options input) with
  | true =>
    rw [failed] at errors
    refine ⟨?_, ?_, reported⟩
    · rw [compile_of_errors errors, compile_of_errors failed]
    · rw [compile_of_errors errors, compile_of_errors failed]
  | false =>
    rw [failed] at errors
    have sound := Check.messagesSound_of_errorFree (Compilation.findings_errorFree failed)
    obtain ⟨agent, found, compiled⟩ := compile_of_no_errors failed
    obtain ⟨moved, foundAgain, alsoCompiled⟩ := compile_of_no_errors errors
    obtain rfl : moved = agent :=
      Option.some.inj (foundAgain.symm.trans ((Compilation.agent_alike alike).trans found))
    refine ⟨?_, ?_, reported⟩
    · rw [compiled, alsoCompiled]
    · rw [compiled, alsoCompiled, Compilation.flows_alike alike, Compilation.extract_alike alike sound]

/-! ## Moving sections out of an agent -/

/-- The type-tagged literals of an agent are those that stay and those that are moved. -/
theorem Check.tagUses_moved (agent : Section) :
    (sectionTagUses agent.alone ++ agent.nested.flatMap sectionTagUses).Perm
      (sectionTagUses agent) := by
  have moved : agent.nested.flatMap sectionTagUses =
      (agent.body.filter Node.isNested).flatMap nodeTagUses := by
    rw [← Section.map_child_nested, List.flatMap_map]
    rfl
  have body : ((agent.body.filter fun n => !n.isNested) ++ agent.body.filter Node.isNested).Perm
      agent.body :=
    List.perm_append_comm.trans (List.filter_append_perm Node.isNested agent.body)
  rw [sectionTagUses_eq, sectionTagUses_eq, moved, List.append_assoc]
  refine List.Perm.append_left _ ?_
  rw [Section.alone, ← List.flatMap_append]
  exact body.flatMap_right nodeTagUses

/-- The messages of an agent are those of the sections inside it. -/
theorem Message.candidatesOf_moved {agent : Section} (isAgent : agent.is "agent" = true) :
    candidatesOf agent.alone ++ agent.nested.flatMap candidatesOf = candidatesOf agent := by
  have messages : "messages" ∈ Section.nestedKinds := by decide
  have inside : ∀ c ∈ agent.nested, candidatesOf c =
      (Document.gatherFrom "messages" c).flatMap fun m => m.children.filter Section.isMessage := by
    intro c member
    rw [candidatesOf_eq, Section.not_message_of_nested member]
    rfl
  have notMessage := Section.not_message_of_agent isAgent
  have aloneNeither : agent.alone.isMessage = false := notMessage
  rw [candidatesOf_eq agent.alone, candidatesOf_eq agent, aloneNeither, notMessage,
    Document.gatherFrom_alone isAgent messages, ← Document.gatherFrom_nested isAgent messages,
    List.flatMap_assoc]
  exact congrArg List.flatten (List.map_congr_left inside)

theorem Document.alike_moved {doc : Document} {before after : List Section} {agent : Section}
    (isAgent : agent.is "agent" = true) (sections : doc.sections = before ++ [agent] ++ after) :
    doc.Alike { doc with sections := before ++ [agent.alone] ++ agent.nested ++ after } where
  gather kind nests := by
    simp only [gather, sections, List.flatMap_append, List.flatMap_cons, List.flatMap_nil,
      List.append_nil, gatherFrom_alone isAgent nests, gatherFrom_nested isAgent nests]
  agents := by
    have stays : agent.nested.filter (·.is "agent") = [] := by
      rw [List.filter_eq_nil_iff]
      intro c inside isAgent
      rw [Section.not_agent_of_nested inside] at isAgent
      cases isAgent
    simp [agents, sections, stays, isAgent, Section.is_alone, Section.alone_alone]
  primary := by
    simp only [Message.primaryCandidates, sections, List.flatMap_append, List.flatMap_cons,
      List.flatMap_nil, List.append_nil]
    rw [List.append_assoc _ _ (agent.nested.flatMap _), Message.candidatesOf_moved isAgent]
  tags := by
    simp only [sections, List.flatMap_append, List.flatMap_cons, List.flatMap_nil, List.append_nil]
    rw [List.append_assoc _ _ (agent.nested.flatMap _)]
    exact ((Check.tagUses_moved agent).append_left _).append_right _
  range := rfl

/-- Sections of a kind that may stand inside an agent are compiled the same whether they stand in it or
behind it: with the same success, the same data in the same order, and the same findings, though perhaps
in another order. -/
theorem nesting_is_transparent (options : CompilerOptions) (input : SourceDocument)
    (before after : List Section) (agent : Section) (isAgent : agent.is "agent" = true)
    (sections : input.ast.sections = before ++ [agent] ++ after) :
    let moved := { input with ast := { input.ast with
      sections := before ++ [agent.alone] ++ agent.nested ++ after } }
    (compile options moved).success = (compile options input).success ∧
    (compile options moved).data = (compile options input).data ∧
    (compile options moved).diagnostics.Perm (compile options input).diagnostics :=
  compile_alike options input (Document.alike_moved isAgent sections)

/-- An agent with all that may stand inside it, not in one piece and with a section that may not. -/
def crowdedAgent : Section :=
  let notes := (Section.ofKind "notes").withAttribute "author" (.typeTag "email" "a@b.c" none none)
  let settings := (Section.ofKind "config").withAttribute "color" (.typeTag "url" "https://b.c" none none)
  let fallback := (Section.ofKind "defaults").withAttribute "color" (.string "red" none)
  let catalog := (Section.ofKind "messages").withNode (.child helloMessage)
  (Section.ofKind "agent").withName "Coffee"
    |>.withNode (.child fallback)
    |>.withAttribute "displayName" (.string "Coffee" none)
    |>.withNode (.child catalog)
    |>.withNode (.child notes)
    |>.withNode (.child welcomeFlow)
    |>.withAttribute "start" (.identifier "Order" none)
    |>.withNode (.child settings)

theorem nesting_is_transparent_crowded :
    let input : SourceDocument := ⟨none, ⟨[crowdedAgent], none⟩, [], none⟩
    let moved : SourceDocument :=
      ⟨none, ⟨crowdedAgent.alone :: crowdedAgent.nested, none⟩, [], none⟩
    (crowdedAgent.nested.map Section.kind) = ["defaults", "messages", "flow", "config"] ∧
    (compile .standard input).success = true ∧
    (compile .standard moved).data = (compile .standard input).data := by
  intro input moved
  have clean : Diagnostic.hasErrors (Compilation.merged .standard input) = false := by decide +kernel
  have kinds : (crowdedAgent.nested.map Section.kind) = ["defaults", "messages", "flow", "config"] := by
    decide +kernel
  obtain ⟨_, data, _⟩ :=
    nesting_is_transparent .standard input [] [] crowdedAgent (by decide) rfl
  rw [List.append_nil] at data
  exact ⟨kinds, (compile_success_iff _ _).mpr clean, data⟩

end Dialogue
