import Dialogue.Document.Wire
import Dialogue.Proofs.Document.Values
import Dialogue.Proofs.Json.Yield

/-!
# Keys of decoded documents

A form may give a key of a dictionary twice; the document that is decoded from it has the key once. So for
documents that were decoded it is no restriction that the keys of a dictionary are distinct.
-/
namespace Dialogue

open Json (Decoder Fields)
open Json.Fields (yields_of_forall yields_true yields_field yields_items)
open Json.Decoder (yields_record yields_tagged)

/-! ## Values -/

namespace Value

/-- No dictionary, in the value or inside it, has a key twice. -/
abbrev Keyed (v : Value) : Prop := v.Everywhere isKeyed

theorem keyed_of_alone {v : Value} (here : v.isKeyed = true) (alone : v.inner = []) : v.Keyed :=
  (everywhere_iff _ v).mpr ⟨here, by simp [alone]⟩

theorem keyed_list {items : List Value} (each : ∀ v ∈ items, v.Keyed) (range : Option Range) :
    (Value.list items range).Keyed :=
  (everywhere_iff _ _).mpr ⟨rfl, each⟩

theorem keyed_dictionary {entries : List (String × Value)} (distinct : (entries.map Prod.fst).Nodup)
    (each : ∀ entry ∈ entries, entry.2.Keyed) (range : Option Range) :
    (Value.dictionary entries range).Keyed :=
  (everywhere_iff _ _).mpr ⟨decide_eq_true distinct, List.forall_mem_map.mpr each⟩

theorem keyed_contextualized {core : Value} {context : List Parameter} (here : core.Keyed)
    (around : ∀ p ∈ context, p.value.Keyed) (range : Option Range) :
    (Value.contextualized core context range).Keyed :=
  (everywhere_iff _ _).mpr ⟨rfl, List.forall_mem_cons.mpr ⟨here, List.forall_mem_map.mpr around⟩⟩

end Value

theorem Labelled.yields {value : Decoder Value} (each : value.Yields Value.Keyed) :
    (decoderOf value).Yields fun p => p.value.Keyed := by
  have build : (Fields.maybe "key" .text).Yields fun key => ∀ v : Value, v.Keyed →
      ∀ range : Option Range, True → (Labelled.mk key v range).value.Keyed :=
    yields_of_forall fun _ _ keyed _ _ => keyed
  exact yields_record (.seq _ (.seq _ (.map build) (yields_field each nofun)) (yields_true _))

namespace Value

/-- A kind of value that holds one datum, which is no value itself. -/
theorem yields_datum {α : Type} {expected : String} {datum : Fields α} {build : α → Option Range → Value}
    (keyed : ∀ a range, (build a range).Keyed) :
    (Decoder.record expected (build <$> datum <*> Range.field)).Yields Keyed :=
  yields_record (.seq _ (.map (yields_of_forall fun a range _ => keyed a range)) (yields_true _))

theorem yields_variants {value : Decoder Value} (inside : value.Yields Keyed) :
    ∀ entry ∈ variants value, entry.2.Yields Keyed := by
  have items : (Fields.withDefault "items" (.list value) []).Yields fun items =>
      ∀ v ∈ items, v.Keyed := yields_items inside
  have entries : (Fields.withDefault "entries" (.map Table.entries (.table value)) []).Yields
      fun entries => (entries.map Prod.fst).Nodup ∧ ∀ entry ∈ entries, entry.2.Keyed := by
    refine yields_field (.map fun origin tree t done => ?_) ?_
    · exact ⟨t.distinct, inside.table origin tree t done⟩
    · rintro _ ⟨⟩
      simp
  have core : (Fields.required "value" value).Yields Keyed := yields_field inside nofun
  have context : (Fields.withDefault "context" (.list (Labelled.decoderOf value)) []).Yields
      fun context => ∀ p ∈ context, p.value.Keyed := yields_items (Labelled.yields inside)
  simp only [variants, List.forall_mem_cons]
  refine ⟨?_, ?_, ?_, ?_, ?_, ?_, ?_, ?_, ?_, ?_, ?_, by simp⟩
  · exact yields_datum fun _ _ => keyed_of_alone rfl rfl
  · exact yields_datum fun _ _ => keyed_of_alone rfl rfl
  · exact yields_datum fun _ _ => keyed_of_alone rfl rfl
  · exact yields_record (.map (yields_of_forall fun _ => keyed_of_alone rfl rfl))
  · exact yields_datum fun _ _ => keyed_of_alone rfl rfl
  · exact yields_datum fun _ _ => keyed_of_alone rfl rfl
  · exact yields_datum fun _ _ => keyed_of_alone rfl rfl
  · have build := items.imp fun _ each range (_ : True) => keyed_list each range
    exact yields_record (.seq _ (.map build) (yields_true _))
  · have build := entries.imp fun _ found range (_ : True) => keyed_dictionary found.1 found.2 range
    exact yields_record (.seq _ (.map build) (yields_true _))
  · have build := core.imp fun _ here (context : List Parameter)
      (around : ∀ p ∈ context, p.value.Keyed) range (_ : True) => keyed_contextualized here around range
    exact yields_record (.seq _ (.seq _ (.map build) context) (yields_true _))
  · exact yields_record (.seq _ (.seq _ (.seq _ (.map (yields_of_forall fun _ _ _ _ _ _ _ =>
      keyed_of_alone rfl rfl)) (yields_true _)) (yields_true _)) (yields_true _))

theorem yields_within (depth : Nat) : (decoderWithin depth).Yields Keyed := by
  induction depth with
  | zero => nofun
  | succ depth ih => exact yields_tagged (yields_variants ih)

theorem yields : decoder.Yields Keyed := fun origin tree => yields_within tree.depth origin tree

end Value

/-! ## Nodes and sections -/

theorem Attribute.yields : decoder.Yields fun a => a.value.Keyed := by
  have build : (Fields.required "key" .text).Yields fun key => ∀ v : Value, v.Keyed →
      ∀ range : Option Range, True → (Attribute.mk key v range).value.Keyed :=
    yields_of_forall fun _ _ keyed _ _ => keyed
  exact yields_record (.seq _ (.seq _ (.map build) (yields_field Value.yields nofun)) (yields_true _))

theorem MatchCase.yields : decoder.Yields fun c => ∀ v ∈ c.values, v.isKeyed = true := by
  have pattern : (Fields.required "pattern" Value.decoder).Yields Value.Keyed :=
    yields_field Value.yields nofun
  have build := pattern.imp fun _ before (consequence : Value) (after : consequence.Keyed)
    (_ : Option Range) (_ : True) => List.forall_mem_append.mpr ⟨before, after⟩
  exact yields_record (.seq _ (.seq _ (.map build) (yields_field Value.yields nofun)) (yields_true _))

theorem MatchBlock.yields : decoder.Yields fun m => ∀ v ∈ m.values, v.isKeyed = true := by
  have discriminant : (Fields.required "discriminant" Value.decoder).Yields Value.Keyed :=
    yields_field Value.yields nofun
  have build := discriminant.imp fun _ here (cases : List MatchCase)
    (each : ∀ c ∈ cases, ∀ v ∈ c.values, v.isKeyed = true) (_ : Option Range) (_ : True) =>
      List.forall_mem_append.mpr ⟨here, List.forall_mem_flatMap.mpr each⟩
  exact yields_record (.seq _ (.seq _ (.map build) (yields_items MatchCase.yields)) (yields_true _))

theorem DirectTransition.yields : decoder.Yields fun t => ∀ v ∈ t.values, v.isKeyed = true := by
  have operand : (Fields.maybe "operand" Value.decoder).Yields fun operand => ∀ v ∈ operand, v.Keyed := by
    refine yields_field Value.yields.optional ?_
    rintro _ ⟨⟩
    simp
  have build := operand.imp fun _ before (target : Value) (after : target.Keyed) (_ : Option Range)
    (_ : True) => List.forall_mem_append.mpr ⟨List.forall_mem_flatMap.mpr fun given listed =>
      before given (Option.mem_toList.mp listed), after⟩
  exact yields_record (.seq _ (.seq _ (.map build) (yields_field Value.yields nofun)) (yields_true _))

/-- A section has no key twice when the nodes of its body have none. -/
theorem Section.yields_of_body {node : Decoder Node}
    (each : node.Yields fun n => ∀ v ∈ n.values, v.isKeyed = true) :
    (decoderOf node).Yields fun s => ∀ v ∈ s.values, v.isKeyed = true := by
  have parameters : (Fields.withDefault "parameters" (.list Labelled.decoder) []).Yields
      fun parameters => ∀ p ∈ parameters, p.value.Keyed := yields_items (Labelled.yields Value.yields)
  have body : (Fields.withDefault "body" (.list node) []).Yields fun body =>
      ∀ n ∈ body, ∀ v ∈ n.values, v.isKeyed = true := yields_items each
  have build : (Fields.required "sectionType" .text).Yields fun kind => ∀ identifier : Option Ident,
      True → ∀ parameters : List Parameter, (∀ p ∈ parameters, p.value.Keyed) →
      ∀ body : List Node, (∀ n ∈ body, ∀ v ∈ n.values, v.isKeyed = true) →
      ∀ range : Option Range, True →
        ∀ v ∈ (Section.mk kind identifier parameters body range).values, v.isKeyed = true :=
    yields_of_forall fun _ _ _ _ given _ nodes _ _ => Section.forall_mem_values.mpr ⟨given, nodes⟩
  exact yields_record
    (.seq _ (.seq _ (.seq _ (.seq _ (.map build) (yields_true _)) parameters) body) (yields_true _))

namespace Node

theorem yields_variants {node : Decoder Node}
    (each : node.Yields fun n => ∀ v ∈ n.values, v.isKeyed = true) :
    ∀ entry ∈ variants node, entry.2.Yields fun n => ∀ v ∈ n.values, v.isKeyed = true := by
  simp only [variants, List.forall_mem_cons]
  refine ⟨.map ?_, .map ?_, .map ?_, .map ?_, .map ?_, by simp⟩
  · simpa only [Node.values] using Section.yields_of_body each
  · exact Attribute.yields
  · exact MatchBlock.yields
  · exact DirectTransition.yields
  · exact Value.yields

theorem yields_within (depth : Nat) :
    (decoderWithin depth).Yields fun n => ∀ v ∈ n.values, v.isKeyed = true := by
  induction depth with
  | zero => nofun
  | succ depth ih => exact yields_tagged (yields_variants ih)

theorem yields : decoder.Yields fun n => ∀ v ∈ n.values, v.isKeyed = true :=
  fun origin tree => yields_within tree.depth origin tree

end Node

theorem Document.yields : decoder.Yields fun doc => ∀ v ∈ doc.values, v.isKeyed = true := by
  have sections : (Fields.withDefault "sections" (.list Section.decoder) []).Yields fun sections =>
      ∀ s ∈ sections, ∀ v ∈ s.values, v.isKeyed = true := yields_items (Section.yields_of_body Node.yields)
  have build := sections.imp fun _ each (_ : Option Range) (_ : True) =>
    List.forall_mem_flatMap.mpr each
  exact yields_record (.seq _ (.map build) (yields_true _))

end Dialogue
