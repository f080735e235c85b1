import Dialogue.Proofs.Document.Keys
import Dialogue.Proofs.Json.Text

/-!
# The JSON form of documents

The form of a document is decoded to that document, however deeply it is nested. A value can be told from its
form by the kind that it names, a node likewise; a value that is a node names both, one for each decoder on the
way in.
-/
namespace Dialogue

open Json (Decoder Fields)
open Json.Fields (encodes_field encodes_maybe encodes_maybe_of encodes_items)
open Json.Decoder (accepts_record accepts_tagged accepts_text accepts_flag accepts_double accepts_word
  accepts_list accepts_table)

/-! ## Places -/

theorem Position.accepts (p : Position) : decoder.Accepts p.toJson p :=
  accepts_record
    ((encodes_field none (accepts_word p.line)).map Position.mk
      |>.seq (encodes_field none (accepts_word p.column)))
    (by decide)

theorem Range.accepts (r : Range) : decoder.Accepts r.toJson r :=
  accepts_record
    ((encodes_field none r.start.accepts).map Range.mk
      |>.seq (encodes_field none r.stop.accepts))
    (by decide)

theorem Range.encodes (range : Option Range) : field.Encodes (entry range) range :=
  encodes_maybe range Range.accepts nofun

/-! ## Values -/

namespace Value

theorem itemsToJson_eq (items : List Value) : itemsToJson items = items.map toJson := by
  induction items with
  | nil => rfl
  | cons item rest ih => rw [itemsToJson, ih, List.map_cons, toJson]

theorem entriesToJson_eq (entries : List (String × Value)) :
    entriesToJson entries = entries.map fun entry => (entry.1, entry.2.toJson) := by
  induction entries with
  | nil => rfl
  | cons entry rest ih => rw [entriesToJson, ih, List.map_cons, toJson]

theorem contextToJson_eq (context : List (Labelled Value)) :
    contextToJson context = context.map Labelled.toJson := by
  induction context with
  | nil => rfl
  | cons parameter rest ih => rw [contextToJson, ih, List.map_cons, Labelled.toJson, toJson]

end Value

theorem Labelled.accepts {value : Decoder Value} {p : Parameter}
    (form : value.Accepts p.value.toJson p.value) : (decoderOf value).Accepts p.toJson p := by
  have written : p.toJson = .obj (Json.entry? "key" (p.key.map .str) ++ [("value", p.value.toJson)] ++
      Range.entry p.range) := by
    simp [toJson]
  have names : ["key", "value", "range"].Nodup := by decide
  rw [written]
  exact accepts_record
    ((encodes_maybe p.key accepts_text nofun).map Labelled.mk
      |>.seq (encodes_field none form)
      |>.seq (Range.encodes p.range))
    names

namespace Value

/-- A kind of value whose fields are written behind its name. -/
theorem accepts_variant {value : Decoder Value} {kind expected : String} {fields : Fields Value}
    {entries : List (String × Json)} {v : Value}
    (known : Table.lookup kind (variants value) = some (.record expected fields))
    (names : ("type" :: fields.names).Nodup) (encoded : fields.Encodes entries v) :
    (Decoder.tagged "type" "Value" (variants value)).Accepts
      (.obj (("type", .str kind) :: entries)) v := by
  obtain ⟨untagged, distinct⟩ := List.nodup_cons.mp names
  exact accepts_tagged known (accepts_record encoded distinct) fun member =>
    untagged (encoded.keys.subset member)

theorem encodes_texted (name s : String) (build : String → Option Range → Value)
    (range : Option Range) :
    (build <$> Fields.required name .text <*> Range.field).Encodes
      ((name, .str s) :: Range.entry range) (build s range) :=
  (encodes_field none (accepts_text s)).map build |>.seq (Range.encodes range)

/-- The form of a value is decoded when the forms of the values inside it are. -/
theorem accepts_of_inner {value : Decoder Value} {v : Value}
    (inside : ∀ w ∈ v.inner, value.Accepts w.toJson w) (faithful : v.isFaithful = true) :
    (Decoder.tagged "type" "Value" (variants value)).Accepts v.toJson v := by
  obtain ⟨finite, keyed⟩ := v.isFaithful_iff.mp faithful
  cases v with
  | string s range => exact accepts_variant rfl (by decide) (encodes_texted _ s Value.string range)
  | atom name range => exact accepts_variant rfl (by decide) (encodes_texted _ name Value.atom range)
  | identifier name range =>
    exact accepts_variant rfl (by decide) (encodes_texted _ name Value.identifier range)
  | reference name range =>
    exact accepts_variant rfl (by decide) (encodes_texted _ name Value.reference range)
  | null range => exact accepts_variant rfl (by decide) ((Range.encodes range).map Value.null)
  | number x range =>
    exact accepts_variant rfl (by decide)
      ((encodes_field none (accepts_double finite)).map Value.number |>.seq (Range.encodes range))
  | boolean b range =>
    exact accepts_variant rfl (by decide)
      ((encodes_field none (accepts_flag b)).map Value.boolean |>.seq (Range.encodes range))
  | typeTag tag content qualifier range =>
    exact accepts_variant rfl (by decide)
      ((encodes_field none (accepts_text tag)).map Value.typeTag
        |>.seq (encodes_field none (accepts_text content))
        |>.seq (encodes_maybe qualifier accepts_text nofun)
        |>.seq (Range.encodes range))
  | list items range =>
    have names : ["type", "items", "range"].Nodup := by decide
    have form := accepts_list items inside
    rw [← itemsToJson_eq] at form
    exact accepts_variant rfl names
      ((encodes_field (some []) form).map Value.list |>.seq (Range.encodes range))
  | dictionary entries range =>
    have names : ["type", "entries", "range"].Nodup := by decide
    have distinct : (entries.map Prod.fst).Nodup := of_decide_eq_true keyed
    have members : ∀ entry ∈ entries, value.Accepts entry.2.toJson entry.2 :=
      fun entry member => inside entry.2 (List.mem_map_of_mem member)
    have form := (accepts_table toJson (t := ⟨entries, distinct⟩) members).map Table.entries
    rw [← entriesToJson_eq] at form
    exact accepts_variant rfl names
      ((encodes_field (some []) form).map Value.dictionary |>.seq (Range.encodes range))
  | contextualized core context range =>
    have names : ["type", "value", "context", "range"].Nodup := by decide
    obtain ⟨here, around⟩ := List.forall_mem_cons.mp inside
    have form := accepts_list context fun p member =>
      Labelled.accepts (around p.value (List.mem_map_of_mem member))
    rw [← contextToJson_eq] at form
    exact accepts_variant rfl names
      ((encodes_field none here).map Value.contextualized
        |>.seq (encodes_field (some []) form)
        |>.seq (Range.encodes range))

/-- The forms of the values inside a value are nested less deeply. -/
theorem depth_inner {v w : Value} (member : w ∈ v.inner) : w.toJson.depth < v.toJson.depth := by
  cases v with
  | list items range =>
    have written : w.toJson ∈ itemsToJson items := by
      rw [itemsToJson_eq]
      exact List.mem_map_of_mem member
    have listed : ("items", Json.arr (itemsToJson items)) ∈ (Value.list items range).toEntries := by
      simp [toEntries, entriesOf]
    exact Nat.lt_trans (Json.depth_lt_arr written) (Json.depth_lt_obj listed)
  | dictionary entries range =>
    obtain ⟨entry, inside, rfl⟩ := List.mem_map.mp member
    have written : (entry.1, entry.2.toJson) ∈ entriesToJson entries := by
      rw [entriesToJson_eq]
      exact List.mem_map.mpr ⟨entry, inside, rfl⟩
    have listed : ("entries", Json.obj (entriesToJson entries)) ∈
        (Value.dictionary entries range).toEntries := by
      simp [toEntries, entriesOf]
    exact Nat.lt_trans (Json.depth_lt_obj written) (Json.depth_lt_obj listed)
  | contextualized core context range =>
    rcases List.mem_cons.mp member with rfl | member
    · have listed : ("value", w.toJson) ∈ (Value.contextualized w context range).toEntries := by
        simp [toEntries, entriesOf, toJson]
      exact Json.depth_lt_obj listed
    · obtain ⟨p, inside, rfl⟩ := List.mem_map.mp member
      have written : p.toJson ∈ contextToJson context := by
        rw [contextToJson_eq]
        exact List.mem_map_of_mem inside
      have listed : ("context", Json.arr (contextToJson context)) ∈
          (Value.contextualized core context range).toEntries := by
        simp [toEntries, entriesOf]
      have labelled : ("value", p.value.toJson) ∈ Json.entry? "key" (p.key.map .str) ++
          ("value", p.value.toJson) :: Range.entry p.range := by
        simp
      have within : p.value.toJson.depth < p.toJson.depth := Json.depth_lt_obj labelled
      have around := Json.depth_lt_arr written
      have whole := Json.depth_lt_obj listed
      exact Nat.lt_trans within (Nat.lt_trans around whole)
  | _ => simp [inner] at member

theorem accepts_within (depth : Nat) (v : Value) (enough : v.toJson.depth ≤ depth)
    (faithful : v.Everywhere isFaithful) : (decoderWithin depth).Accepts v.toJson v := by
  induction depth generalizing v with
  | zero => simp [toJson, Json.depth] at enough
  | succ depth ih =>
    obtain ⟨here, deeper⟩ := (everywhere_iff _ v).mp faithful
    refine accepts_of_inner (fun w member => ih w ?_ (deeper w member)) here
    have smaller := depth_inner member
    omega

theorem accepts (v : Value) (faithful : v.Everywhere isFaithful) : decoder.Accepts v.toJson v := by
  have within := accepts_within v.toJson.depth v (Nat.le_refl _) faithful
  exact ⟨within.plain, within.decoded⟩

end Value

/-! ## Sections and nodes -/

theorem Ident.accepts (i : Ident) : decoder.Accepts i.toJson i :=
  accepts_record
    ((encodes_field none (accepts_text i.value)).map Ident.mk |>.seq (Range.encodes i.range))
    (by decide)

theorem Attribute.accepts (a : Attribute) (faithful : a.value.Everywhere Value.isFaithful) :
    decoder.Accepts (.obj a.toEntries) a :=
  accepts_record
    ((encodes_field none (accepts_text a.key)).map Attribute.mk
      |>.seq (encodes_field none (a.value.accepts faithful))
      |>.seq (Range.encodes a.range))
    (by decide)

theorem MatchCase.accepts (c : MatchCase) (faithful : ∀ v ∈ c.values, v.isFaithful = true) :
    decoder.Accepts c.toJson c := by
  obtain ⟨pattern, consequence⟩ := List.forall_mem_append.mp faithful
  exact accepts_record
    ((encodes_field none (c.pattern.accepts pattern)).map MatchCase.mk
      |>.seq (encodes_field none (c.consequence.accepts consequence))
      |>.seq (Range.encodes c.range))
    (by decide)

theorem MatchBlock.accepts (m : MatchBlock) (faithful : ∀ v ∈ m.values, v.isFaithful = true) :
    decoder.Accepts (.obj m.toEntries) m := by
  obtain ⟨discriminant, cases⟩ := List.forall_mem_append.mp faithful
  have forms := accepts_list m.cases fun c member =>
    c.accepts (List.forall_mem_flatMap.mp cases c member)
  exact accepts_record
    ((encodes_field none (m.discriminant.accepts discriminant)).map MatchBlock.mk
      |>.seq (encodes_field (some []) forms)
      |>.seq (Range.encodes m.range))
    (by decide)

theorem DirectTransition.accepts (t : DirectTransition)
    (faithful : ∀ v ∈ t.values, v.isFaithful = true) : decoder.Accepts (.obj t.toEntries) t := by
  obtain ⟨operands, target⟩ := List.forall_mem_append.mp faithful
  have operand : ∀ v ∈ t.operand, Value.decoder.Accepts v.toJson v := fun v member =>
    v.accepts (List.forall_mem_flatMap.mp operands v (Option.mem_toList.mpr member))
  have written : t.toEntries = Json.entry? "operand" (t.operand.map Value.toJson) ++
      [("target", t.target.toJson)] ++ Range.entry t.range := by
    simp [toEntries]
  rw [written]
  exact accepts_record
    ((encodes_maybe_of t.operand operand nofun).map DirectTransition.mk
      |>.seq (encodes_field none (t.target.accepts target))
      |>.seq (Range.encodes t.range))
    (by decide)

theorem Node.listToJson_eq (body : List Node) : Node.listToJson body = body.map Node.toJson := by
  induction body with
  | nil => rfl
  | cons node rest ih => rw [Node.listToJson, ih, List.map_cons, Node.toJson]

/-- No field of a section, and none of a value, is called like the tag of a node. -/
theorem Section.untagged (s : Section) : "node" ∉ s.toEntries.map Prod.fst := by
  obtain ⟨kind, identifier, parameters, body, range⟩ := s
  simp [Section.toEntries, Range.entry]

theorem Value.untagged (v : Value) : "node" ∉ v.toEntries.map Prod.fst := by
  cases v <;> simp [Value.toEntries, Value.entriesOf, Range.entry]

/-- The form of a section is decoded when the forms of the nodes of its body are. -/
theorem Section.accepts_of_body {node : Decoder Node} {s : Section}
    (body : ∀ n ∈ s.body, node.Accepts n.toJson n)
    (faithful : ∀ v ∈ s.values, v.isFaithful = true) : (decoderOf node).Accepts s.toJson s := by
  obtain ⟨kind, identifier, parameters, nodes, range⟩ := s
  have given := (Section.forall_mem_values.mp faithful).1
  have parameterForms : ∀ p ∈ parameters, Labelled.decoder.Accepts p.toJson p := fun p member =>
    Labelled.accepts (p.value.accepts (given p member))
  have names : ["sectionType", "identifier", "parameters", "body", "range"].Nodup := by decide
  rw [Section.toJson, Section.toEntries, Node.listToJson_eq]
  exact accepts_record
    ((encodes_field none (accepts_text kind)).map Section.mk
      |>.seq (encodes_maybe identifier Ident.accepts nofun)
      |>.seq (encodes_items parameters parameterForms)
      |>.seq (encodes_items nodes body)
      |>.seq (Range.encodes range))
    names

namespace Node

/-- The form of a node is decoded when that of the section is which it may be. -/
theorem accepts_of_child {node : Decoder Node} {n : Node}
    (child : ∀ s, n = .child s → (Section.decoderOf node).Accepts s.toJson s)
    (faithful : ∀ v ∈ n.values, v.isFaithful = true) :
    (Decoder.tagged "node" "AstNode" (variants node)).Accepts n.toJson n := by
  rcases n with s | a | m | t | v
  · exact accepts_tagged rfl ((child s rfl).map Node.child) s.untagged
  · exact accepts_tagged rfl ((a.accepts faithful).map Node.attribute)
      (by simp [Attribute.toEntries, Range.entry])
  · exact accepts_tagged rfl ((m.accepts faithful).map Node.matchBlock)
      (by simp [MatchBlock.toEntries, Range.entry])
  · exact accepts_tagged rfl ((t.accepts faithful).map Node.transition)
      (by simp [DirectTransition.toEntries, Range.entry])
  · exact accepts_tagged rfl ((v.accepts faithful).map Node.value) v.untagged

theorem depth_child (s : Section) : s.toJson.depth ≤ (Node.child s).toJson.depth := by
  simp only [Node.toJson, Node.toEntries, Section.toJson, Json.depth, Json.depthEntries]
  omega

end Node

theorem Section.depth_body {s : Section} {n : Node} (member : n ∈ s.body) :
    n.toJson.depth < s.toJson.depth := by
  obtain ⟨kind, identifier, parameters, body, range⟩ := s
  have written : n.toJson ∈ Node.listToJson body := by
    rw [Node.listToJson_eq]
    exact List.mem_map_of_mem member
  have listed : ("body", Json.arr (Node.listToJson body)) ∈
      (Section.mk kind identifier parameters body range).toEntries := by
    simp [Section.toEntries, List.ne_nil_of_mem written]
  exact Nat.lt_trans (Json.depth_lt_arr written) (Json.depth_lt_obj listed)

namespace Node

theorem accepts_within (depth : Nat) (n : Node) (enough : n.toJson.depth ≤ depth)
    (faithful : ∀ v ∈ n.values, v.isFaithful = true) :
    (decoderWithin depth).Accepts n.toJson n := by
  induction depth generalizing n with
  | zero => simp [toJson, Json.depth] at enough
  | succ depth ih =>
    refine accepts_of_child (fun s is => ?_) faithful
    subst is
    have within : ∀ v ∈ s.values, v.isFaithful = true := by
      simpa only [Node.values] using faithful
    have nodes := (Section.forall_mem_values.mp within).2
    refine Section.accepts_of_body (fun node member => ih node ?_ (nodes node member)) within
    have outer := depth_child s
    have smaller := Section.depth_body member
    omega

theorem accepts (n : Node) (faithful : ∀ v ∈ n.values, v.isFaithful = true) :
    decoder.Accepts n.toJson n := by
  have within := accepts_within n.toJson.depth n (Nat.le_refl _) faithful
  exact ⟨within.plain, within.decoded⟩

end Node

theorem Section.accepts (s : Section) (faithful : ∀ v ∈ s.values, v.isFaithful = true) :
    decoder.Accepts s.toJson s := by
  have nodes := (Section.forall_mem_values.mp faithful).2
  exact Section.accepts_of_body (fun n member => n.accepts (nodes n member)) faithful

theorem Document.accepts (doc : Document) (faithful : ∀ v ∈ doc.values, v.isFaithful = true) :
    decoder.Accepts doc.toJson doc := by
  have forms := accepts_list doc.sections fun s member =>
    s.accepts (List.forall_mem_flatMap.mp faithful s member)
  exact accepts_record
    ((encodes_field (some []) forms).map Document.mk |>.seq (Range.encodes doc.range))
    (by decide)

/-! ## Tags -/

/-- The name that a value's form has under `type`. -/
def Value.tag : Value → String
  | .string .. => "String"
  | .number .. => "Number"
  | .boolean .. => "Boolean"
  | .null .. => "Null"
  | .atom .. => "Atom"
  | .identifier .. => "Identifier"
  | .reference .. => "Variable"
  | .list .. => "List"
  | .dictionary .. => "Dictionary"
  | .contextualized .. => "ContextualizedValue"
  | .typeTag .. => "TypeTag"

/-- The name that a node's form has under `node`. -/
def Node.tag : Node → String
  | .child _ => "Section"
  | .attribute _ => "Attribute"
  | .matchBlock _ => "MatchBlock"
  | .transition _ => "Transition"
  | .value _ => "Value"

theorem Value.lookup_type (v : Value) : Table.lookup "type" v.toEntries = some (.str v.tag) := by
  cases v <;> rfl

theorem Node.lookup_node (n : Node) : Table.lookup "node" n.toEntries = some (.str n.tag) := by
  rcases n with s | a | m | t | v <;> simp [Node.toEntries, Table.lookup, Node.tag]

theorem Node.lookup_type (v : Value) :
    Table.lookup "type" (Node.value v).toEntries = some (.str v.tag) := by
  simp [Node.toEntries, Table.lookup, v.lookup_type]

/-! ## The whole form -/

/-- What was written is decoded, from the tree and from its text. The text must not be nested too deeply, and
the doubles in it must be read as they were written. -/
structure Json.Decoder.Restores {α : Type} (d : Decoder α) (tree : Json) (a : α) : Prop where
  run : d.run tree = .ok a
  runText : tree.DoublesSurvive →
    d.runText tree.compact = .ok a ∨ tree.readFault? Json.maxNesting = some .tooDeep

theorem Json.Decoder.Accepts.restores {α : Type} {d : Decoder α} {tree : Json} {a : α}
    (form : d.Accepts tree a) : d.Restores tree a :=
  ⟨form.decoded .value rfl, form.runText_compact⟩

/-- Values, nodes, sections and documents are decoded from their forms, when their numbers are finite and no
dictionary has a key twice. Every document that was decoded has its keys once. A value names its kind under
`type` and a node its own under `node`; a node that is a value names both. -/
theorem document_forms_decode :
    (∀ v : Value, v.Everywhere Value.isFaithful → Value.decoder.Restores v.toJson v) ∧
    (∀ n : Node, (∀ v ∈ n.values, v.isFaithful = true) → Node.decoder.Restores n.toJson n) ∧
    (∀ s : Section, (∀ v ∈ s.values, v.isFaithful = true) → Section.decoder.Restores s.toJson s) ∧
    (∀ doc : Document, (∀ v ∈ doc.values, v.isFaithful = true) →
      Document.decoder.Restores doc.toJson doc) ∧
    (∀ origin tree doc, Document.decoder origin tree = .ok doc → ∀ v ∈ doc.values, v.isKeyed = true) ∧
    (∀ v : Value, Table.lookup "type" v.toEntries = some (.str v.tag)) ∧
    (∀ n : Node, Table.lookup "node" n.toEntries = some (.str n.tag)) ∧
    ∀ v : Value, Table.lookup "type" (Node.value v).toEntries = some (.str v.tag) :=
  ⟨fun v faithful => (v.accepts faithful).restores, fun n faithful => (n.accepts faithful).restores,
    fun s faithful => (s.accepts faithful).restores, fun doc faithful => (doc.accepts faithful).restores,
    Document.yields, Value.lookup_type, Node.lookup_node, Node.lookup_type⟩

/-- A document with every kind of node and of value in it. -/
def everyKind : Document :=
  let place : Range := ⟨⟨1, 0⟩, ⟨1, 9⟩⟩
  let settings : Section := ⟨"config", none, [], [], none⟩
  let prices : Value := .dictionary [("small", .number 1.5 none), ("large", .null none)] none
  let tips : Value :=
    .contextualized (.identifier "Done" none)
      [⟨some "tip", .boolean true none, none⟩, ⟨none, .typeTag "date" "today" (some "utc") none, none⟩] none
  let sizes : MatchBlock := ⟨.reference "size" (some place), [⟨.string "s" none, tips, some place⟩], none⟩
  ⟨[⟨"flow", some ⟨"Order", some place⟩, [⟨none, .atom "fast" none, some place⟩],
      [.child settings, .attribute ⟨"prices", prices, some place⟩, .matchBlock sizes,
        .transition ⟨none, .identifier "Start" none, none⟩, .value (.list [.atom "ok" none, .null none] none)],
      some place⟩], none⟩

theorem document_forms_decode_every_kind :
    (∀ v ∈ everyKind.values, v.isFaithful = true) ∧
      Document.decoder.run everyKind.toJson = .ok everyKind ∧
      Document.decoder.runText everyKind.toJson.compact = .ok everyKind ∧
      ∀ v ∈ everyKind.values, v.isKeyed = true := by
  obtain ⟨_, _, _, documents, keyed, _⟩ := document_forms_decode
  have faithful : ∀ v ∈ everyKind.values, v.isFaithful = true := by decide
  have restored := documents everyKind faithful
  have doubles : (everyKind.toJson.scalars.filterMap fun leaf =>
      match leaf with
      | .float x => some x
      | _ => none) = [1.5] := by rfl
  have survive : everyKind.toJson.DoublesSurvive := by
    intro x member
    have listed : x ∈ [(1.5 : Float)] := by
      rw [← doubles]
      exact List.mem_filterMap.mpr ⟨_, member, rfl⟩
    obtain rfl := List.mem_singleton.mp listed
    rfl
  have shallow : everyKind.toJson.readFault? Json.maxNesting = none := by decide +kernel
  exact ⟨faithful, restored.run, (restored.runText survive).resolve_right (by simp [shallow]),
    keyed _ _ _ restored.run⟩

end Dialogue
