import Dialogue.Proofs.Compilation.Agent
import Dialogue.Proofs.Document.Form
import Dialogue.Proofs.Flow.Runs
import Dialogue.Proofs.Json.Text
import Dialogue.Proofs.Message.Form

/-!
# The JSON form of a compilation

What a compilation yields is decoded to what it was. The properties of an agent stand beside its fixed keys
in one object; that they can be told apart again is because the agent's configuration is taken out of them
by exactly these keys.
-/
namespace Dialogue

open Json (Decoder Fields)
open Json.Fields (encodes_field encodes_absent encodes_maybe encodes_maybe_of encodes_items)
open Json.Decoder (accepts_record accepts_text accepts_flag accepts_any accepts_oneOf accepts_list
  accepts_table)

/-! ## Diagnostics -/

theorem Severity.accepts (s : Severity) : decoder.Accepts s.toJson s := by
  cases s <;> exact accepts_oneOf (by decide)

theorem Category.accepts (c : Category) : decoder.Accepts (.str c.name) c := by
  cases c <;> exact accepts_oneOf (by decide)

theorem Code.accepts (c : Code) : decoder.Accepts (.str c.token) c := by
  cases c <;> exact accepts_oneOf (by decide)

theorem QuickFix.accepts (f : QuickFix) : decoder.Accepts f.toJson f :=
  accepts_record
    ((encodes_field none (accepts_text f.label)).map QuickFix.mk
      |>.seq (encodes_field none (accepts_text f.replacement))
      |>.seq (Range.encodes f.range))
    (by decide)

theorem Diagnostic.accepts (d : Diagnostic) : decoder.Accepts d.toJson d :=
  accepts_record
    ((encodes_field none d.severity.accepts).map Diagnostic.mk
      |>.seq (encodes_field none d.category.accepts)
      |>.seq (encodes_field none d.code.accepts)
      |>.seq (encodes_field none (accepts_text d.message))
      |>.seq (Range.encodes d.range)
      |>.seq (encodes_maybe d.file accepts_text nofun)
      |>.seq (encodes_maybe d.hint accepts_text nofun)
      |>.seq (encodes_items d.fixes fun f _ => f.accepts))
    (by decide)

/-! ## Literals -/

theorem Value.plain_numberLiteral (x : Float) : (numberLiteral x).Plain := by
  unfold numberLiteral
  split
  next n whole =>
    have bits : x.toInt64.toInt = n := by
      unfold Decimal.wholeNumber? at whole
      split at whole
      · exact Option.some.inj whole
      · simp at whole
    have low := x.toInt64.le_toInt
    have high := x.toInt64.toInt_lt
    rw [Json.plain_int]
    omega
  next =>
    unfold Json.number
    split <;> simp

mutual

/-- A literal is never a fault. -/
theorem Value.plain_literal : ∀ v : Value, v.literal.Plain
  | .string .. | .boolean .. | .null _ | .atom .. | .identifier .. => by simp [Value.literal]
  | .number x _ => by
    rw [Value.literal]
    exact Value.plain_numberLiteral x
  | .reference .. => by simp [Value.literal]
  | .contextualized v _ _ => by
    rw [Value.literal]
    exact Value.plain_literal v
  | .typeTag _ _ qualifier _ => by cases qualifier <;> simp [Value.literal, Json.entry?]
  | .list items _ => by
    rw [Value.literal, Json.plain_arr]
    exact Value.plain_literalItems items
  | .dictionary entries _ => by
    rw [Value.literal, Json.plain_obj]
    exact Value.plain_literalEntries entries

theorem Value.plain_literalItems : ∀ (items : List Value), ∀ tree ∈ Value.literalItems items, tree.Plain
  | [] => by simp [Value.literalItems]
  | item :: rest => by
    rw [Value.literalItems]
    exact List.forall_mem_cons.mpr ⟨Value.plain_literal item, Value.plain_literalItems rest⟩

theorem Value.plain_literalEntries :
    ∀ (entries : List (String × Value)), ∀ entry ∈ Value.literalEntries entries, entry.2.Plain
  | [] => by simp [Value.literalEntries]
  | (_, value) :: rest => by
    rw [Value.literalEntries]
    exact List.forall_mem_cons.mpr ⟨Value.plain_literal value, Value.plain_literalEntries rest⟩

end

/-! ## Flows -/

/-- The context of a transition holds no fault. -/
def Transition.Clean (t : Transition) : Prop := ∀ entry ∈ t.context.entries, entry.2.Plain

theorem Transition.encodes_context (context : Table Json)
    (clean : ∀ entry ∈ context.entries, entry.2.Plain) :
    (Fields.withDefault "context" (.table .any) Table.empty).Encodes
      (if context.isEmpty then [] else [("context", .obj context.entries)]) context := by
  cases empty : context.isEmpty with
  | true =>
    have nothing : context = Table.empty := Table.ext (List.isEmpty_iff.mp empty)
    rw [nothing]
    exact encodes_absent "context" (.table .any) Table.empty
  | false =>
    have form := accepts_table id fun entry member => accepts_any (clean entry member)
    simp only [id, List.map_id'] at form
    exact encodes_field (some Table.empty) form

theorem Transition.accepts (t : Transition) (clean : t.Clean) : decoder.Accepts t.toJson t :=
  accepts_record
    ((encodes_field none (accepts_text t.target)).map Transition.mk
      |>.seq (Transition.encodes_context t.context clean))
    (by decide)

theorem StateNode.accepts (s : StateNode) (clean : ∀ t ∈ s.transitions, t.Clean) :
    decoder.Accepts s.toJson s := by
  have events : ∀ entry ∈ s.on.entries, Transition.decoder.Accepts entry.2.toJson entry.2 :=
    fun entry member => entry.2.accepts (clean _
      (List.mem_append_left _ (List.mem_map.mpr ⟨entry, member, rfl⟩)))
  have always : ∀ t ∈ s.always, Transition.decoder.Accepts t.toJson t :=
    fun t member => t.accepts (clean t
      (List.mem_append_right _ (Option.mem_toList.mpr member)))
  exact accepts_record
    ((encodes_field (some Table.empty) (accepts_table Transition.toJson events)).map StateNode.mk
      |>.seq (encodes_maybe_of s.always always nofun)
      |>.seq (encodes_items s.entry fun name _ => accepts_text name)
      |>.seq (encodes_items s.exit fun name _ => accepts_text name))
    (by decide)

/-- No context of the flow holds a fault. -/
def Flow.Clean (f : Flow) : Prop :=
  ∀ entry ∈ f.states.entries, ∀ t ∈ entry.2.transitions, t.Clean

theorem Flow.accepts (f : Flow) (clean : f.Clean) : decoder.Accepts f.toJson f :=
  accepts_record
    ((encodes_field none (accepts_text f.initial)).map Flow.mk
      |>.seq (encodes_field none (accepts_table StateNode.toJson fun entry member =>
        entry.2.accepts (clean entry member))))
    (by decide)

theorem Flow.clean_transition {v : Value} {t : Transition} (led : transition? v = some t) :
    t.Clean := by
  obtain ⟨target, _, rfl⟩ := Option.map_eq_some_iff.mp led
  intro entry member
  obtain ⟨p, _, made⟩ := List.mem_filterMap.mp (Table.mem_entries_ofFirst member)
  obtain ⟨key, _, rfl⟩ := Option.map_eq_some_iff.mp made
  exact p.value.plain_literal

theorem Flow.clean_compile (flow : Section) : (compile flow).Clean := by
  rintro ⟨name, node⟩ member t has
  obtain ⟨state, _, _, rfl⟩ := Flow.mem_entries_tableOf compileState member
  obtain ⟨v, _, led⟩ := transition_of_rule has
  exact clean_transition led

/-! ## Agents -/

namespace Agent

/-- No property is called like a fixed key, and none holds a fault. -/
structure Clean (a : Agent) : Prop where
  free : ∀ key ∈ a.properties.keys, key ∉ fixedKeys
  plain : ∀ entry ∈ a.properties.entries, entry.2.Plain

/-- The entries of the fixed keys. -/
def fixedEntries (a : Agent) : List (String × Json) :=
  [("name", .str a.name), ("displayName", .str a.displayName)] ++
    Json.entry? "description" (a.description.map .str)

theorem encodes_fixed (a : Agent) (build : String → String → Option String → Agent) :
    (build <$> Fields.required "name" .text <*> Fields.required "displayName" .text <*>
      Fields.maybe "description" .text).Encodes a.fixedEntries
        (build a.name a.displayName a.description) :=
  (encodes_field none (accepts_text a.name)).map build
    |>.seq (encodes_field none (accepts_text a.displayName))
    |>.seq (encodes_maybe a.description accepts_text nofun)

theorem keys_fixedEntries (a : Agent) : (a.fixedEntries.map Prod.fst).Sublist fixedKeys :=
  (a.encodes_fixed fun _ _ _ => a).keys

theorem nodup_fixedKeys : fixedKeys.Nodup := by decide

theorem distinct_keys {a : Agent} (clean : a.Clean) :
    ((a.fixedEntries ++ a.properties.entries).map Prod.fst).Nodup := by
  rw [List.map_append]
  refine List.nodup_append.mpr ⟨nodup_fixedKeys.sublist a.keys_fixedEntries, a.properties.distinct, ?_⟩
  rintro key first _ second rfl
  exact clean.free key second (a.keys_fixedEntries.subset first)

/-- The properties are what is left when the fixed keys are taken away. -/
theorem propertiesOf_eq {a : Agent} (clean : a.Clean) :
    propertiesOf (a.fixedEntries ++ a.properties.entries) = a.properties := by
  have first : (a.fixedEntries.filter fun entry => !fixedKeys.contains entry.1) = [] := by
    refine List.filter_eq_nil_iff.mpr fun entry member => ?_
    have fixed := a.keys_fixedEntries.subset (List.mem_map.mpr ⟨entry, member, rfl⟩)
    simp [fixed]
  have others : (a.properties.entries.filter fun entry => !fixedKeys.contains entry.1) =
      a.properties.entries := by
    refine List.filter_eq_self.mpr fun entry member => ?_
    have free := clean.free entry.1 (List.mem_map.mpr ⟨entry, member, rfl⟩)
    simp [free]
  rw [propertiesOf, List.filter_append, first, others, List.nil_append, Table.ofLast_entries]

theorem accepts (a : Agent) (clean : a.Clean) : decoder.Accepts a.toJson a := by
  have written : a.toJson = .obj (a.fixedEntries ++ a.properties.entries) := rfl
  have encoded := a.encodes_fixed fun name displayName description =>
    Agent.mk name displayName description (propertiesOf (a.fixedEntries ++ a.properties.entries))
  rw [written]
  refine ⟨?_, fun origin admitted => ?_⟩
  · rw [Json.plain_obj]
    intro entry member
    exact (List.mem_append.mp member).elim (encoded.plain entry) (clean.plain entry)
  · have decoded := Decoder.decode_record "struct AgentConfig" encoded nodup_fixedKeys
      a.properties.entries (distinct_keys clean) clean.plain clean.free origin admitted
    exact decoded.trans (by rw [propertiesOf_eq clean])

/-- The configuration of a document takes the fixed keys out of the properties. -/
theorem clean_of_document {doc : Document} {a : Agent} (found : ofDocument? doc = some a) :
    a.Clean := by
  obtain ⟨agent, _, rfl⟩ := Option.map_eq_some_iff.mp found
  have kept : ∀ entry ∈ (((collect doc agent).erase "name").erase "displayName").erase
      "description" |>.entries, entry ∈ (collect doc agent).entries ∧ entry.1 ∉ fixedKeys := by
    intro entry member
    simp only [Table.erase, List.mem_filter, bne_iff_ne, ne_eq] at member
    obtain ⟨⟨⟨inside, notName⟩, notDisplayName⟩, notDescription⟩ := member
    exact ⟨inside, by simp [fixedKeys, notName, notDisplayName, notDescription]⟩
  refine ⟨?_, fun entry member => ?_⟩
  · intro key member
    obtain ⟨entry, listed, rfl⟩ := List.mem_map.mp member
    exact (kept entry listed).2
  · have given := (Table.get?_eq_some_iff _ _ _).mpr (kept entry member).1
    rw [get?_collect] at given
    obtain ⟨setting, _, literal⟩ := Option.map_eq_some_iff.mp given
    rw [← literal]
    exact setting.value.plain_literal

end Agent

/-! ## Compilations -/

namespace CompiledAgent

/-- What makes a compiled agent readable: its agent can be told apart from the properties, and nothing
that it hands through is a fault. -/
structure Clean (c : CompiledAgent) : Prop where
  agent : c.agent.Clean
  flows : ∀ entry ∈ c.flows.entries, entry.2.Clean

theorem accepts (c : CompiledAgent) (clean : c.Clean) : decoder.Accepts c.toJson c :=
  accepts_record
    ((encodes_field none (c.agent.accepts clean.agent)).map CompiledAgent.mk
      |>.seq (encodes_field none (accepts_table Content.toJson fun entry _ => entry.2.accepts))
      |>.seq (encodes_field none (accepts_table Flow.toJson fun entry member =>
        entry.2.accepts (clean.flows entry member))))
    (by decide)

end CompiledAgent

theorem CompilationResult.accepts (r : CompilationResult) (clean : ∀ c ∈ r.data, c.Clean) :
    decoder.Accepts r.toJson r :=
  accepts_record
    ((encodes_field none (accepts_flag r.success)).map CompilationResult.mk
      |>.seq (encodes_field none (accepts_list r.diagnostics fun d _ => d.accepts))
      |>.seq (encodes_maybe_of r.data (fun c member => c.accepts (clean c member)) nofun))
    (by decide)

theorem compile_clean {options : CompilerOptions} {input : SourceDocument} {c : CompiledAgent}
    (success : (compile options input).data = some c) : c.Clean := by
  obtain ⟨_, found, _, flows⟩ := compile_data success
  refine ⟨Agent.clean_of_document found, ?_⟩
  rintro ⟨name, flow⟩ member
  rw [flows, Flow.compileAll_eq_tableOf] at member
  obtain ⟨source, _, _, rfl⟩ := Flow.mem_entries_tableOf Flow.compile member
  exact Flow.clean_compile source

/-- The JSON form of every compilation is decoded to that compilation. So is its text, when the doubles in
it are read as they were written, unless it is nested more deeply than a text may be. In the form of the
agent no property has the name of a fixed key, and no key stands twice. -/
theorem compilation_form_decodes (options : CompilerOptions) (input : SourceDocument) :
    CompilationResult.decoder.run (compile options input).toJson = .ok (compile options input) ∧
    ((compile options input).toJson.DoublesSurvive →
      CompilationResult.decoder.runText (compile options input).toJson.compact =
          .ok (compile options input) ∨
        (compile options input).toJson.readFault? Json.maxNesting = some .tooDeep) ∧
    ∀ c, (compile options input).data = some c →
      (∀ key ∈ c.agent.properties.keys, key ∉ Agent.fixedKeys) ∧
      ∃ entries, c.agent.toJson = .obj entries ∧ (entries.map Prod.fst).Nodup := by
  have form := CompilationResult.accepts (compile options input) fun c member => compile_clean member
  refine ⟨form.decoded .value rfl, form.runText_compact, fun c success => ?_⟩
  have clean := (compile_clean success).agent
  exact ⟨clean.free, _, rfl, Agent.distinct_keys clean⟩

/-- Contexts of transitions, and properties beside the fixed keys. -/
def settledInput : SourceDocument :=
  { orderInput with ast := ⟨orderInput.ast.sections ++ [overriding], none⟩ }

theorem compilation_form_decodes_settled :
    CompilationResult.decoder.runText (compile .standard settledInput).toJson.compact =
        .ok (compile .standard settledInput) ∧
      ∃ c, (compile .standard settledInput).data = some c ∧ c.agent.properties.keys = ["start"] ∧
        ∀ key ∈ c.agent.properties.keys, key ∉ Agent.fixedKeys := by
  obtain ⟨_, text, agent⟩ := compilation_form_decodes .standard settledInput
  have noDoubles : ((compile .standard settledInput).toJson.scalars.all fun leaf =>
      match leaf with
      | .float _ => false
      | _ => true) = true := by decide +kernel
  have survive : (compile .standard settledInput).toJson.DoublesSurvive := by
    intro x member
    simpa using List.all_eq_true.mp noDoubles _ member
  have shallow : (compile .standard settledInput).toJson.readFault? Json.maxNesting = none := by
    decide +kernel
  have compiled : ((compile .standard settledInput).data.map fun c => c.agent.properties.keys) =
      some ["start"] := by decide +kernel
  obtain ⟨c, success, keys⟩ := Option.map_eq_some_iff.mp compiled
  exact ⟨(text survive).resolve_right (by simp [shallow]), c, success, keys, (agent c success).1⟩

end Dialogue
