import Dialogue.Proofs.Document.Values

/-!
# Where values stand

Every value of a document has a place: the way to it from the top, one number for each level, that says which part
to go into. A place comes before the places inside it, and what is inside a part comes before what is inside a later
part; this is the order in which a document is written. The values of a document are listed in this order, and the
list leaves out no place and has none twice.
-/
namespace Dialogue

abbrev Place := List Nat

/-- The order in which a document is written. -/
def Place.Precedes : Place → Place → Prop := List.Lex (· < ·)

/-! ## What stands at a place -/

/-- The value that stands at a place of a value: the value itself, an item of a list, the value of an entry, what is
under a context, or a parameter of the context. -/
inductive Value.HasAt : Value → Place → Value → Prop
  | here (v : Value) : HasAt v [] v
  | item {items : List Value} {i : Nat} {item part : Value} {place : Place} (range : Option Range) :
      items[i]? = some item → HasAt item place part → HasAt (.list items range) (i :: place) part
  | entry {entries : List (String × Value)} {i : Nat} {key : String} {value part : Value} {place : Place}
      (range : Option Range) : entries[i]? = some (key, value) → HasAt value place part →
      HasAt (.dictionary entries range) (i :: place) part
  | wrapped {value part : Value} {place : Place} (context : List Parameter) (range : Option Range) :
      HasAt value place part → HasAt (.contextualized value context range) (0 :: place) part
  | context {context : List Parameter} {i : Nat} {p : Parameter} {part : Value} {place : Place}
      (value : Value) (range : Option Range) : context[i]? = some p → HasAt p.value place part →
      HasAt (.contextualized value context range) ((i + 1) :: place) part

mutual

/-- The value that stands at a place of a section: in a parameter, or in a node of the body. -/
inductive Section.HasAt : Section → Place → Value → Prop
  | parameter {s : Section} {i : Nat} {p : Parameter} {place : Place} {v : Value} :
      s.parameters[i]? = some p → p.value.HasAt place v → Section.HasAt s (0 :: i :: place) v
  | node {s : Section} {i : Nat} {n : Node} {place : Place} {v : Value} :
      s.body[i]? = some n → Node.HasAt n place v → Section.HasAt s (1 :: i :: place) v

/-- The value that stands at a place of a node. -/
inductive Node.HasAt : Node → Place → Value → Prop
  | child {s : Section} {place : Place} {v : Value} :
      Section.HasAt s place v → Node.HasAt (.child s) place v
  | attribute {a : Attribute} {place : Place} {v : Value} :
      a.value.HasAt place v → Node.HasAt (.attribute a) place v
  | discriminant {m : MatchBlock} {place : Place} {v : Value} :
      m.discriminant.HasAt place v → Node.HasAt (.matchBlock m) (0 :: place) v
  | pattern {m : MatchBlock} {i : Nat} {c : MatchCase} {place : Place} {v : Value} :
      m.cases[i]? = some c → c.pattern.HasAt place v → Node.HasAt (.matchBlock m) (1 :: i :: 0 :: place) v
  | consequence {m : MatchBlock} {i : Nat} {c : MatchCase} {place : Place} {v : Value} :
      m.cases[i]? = some c → c.consequence.HasAt place v →
      Node.HasAt (.matchBlock m) (1 :: i :: 1 :: place) v
  | operand {t : DirectTransition} {operand : Value} {place : Place} {v : Value} :
      t.operand = some operand → operand.HasAt place v → Node.HasAt (.transition t) (0 :: place) v
  | target {t : DirectTransition} {place : Place} {v : Value} :
      t.target.HasAt place v → Node.HasAt (.transition t) (1 :: place) v
  | bare {bare : Value} {place : Place} {v : Value} :
      bare.HasAt place v → Node.HasAt (.value bare) place v

end

/-- The value that stands at a place of a document. -/
inductive Document.HasAt : Document → Place → Value → Prop
  | inSection {doc : Document} {i : Nat} {s : Section} {place : Place} {v : Value} :
      doc.sections[i]? = some s → s.HasAt place v → HasAt doc (i :: place) v

/-! ## Lists in the order of places -/

/-- The list has all that a relation has at places, each place once and in the order of places. -/
def Enumerates {α : Type} (has : Place → α → Prop) (values : List α) : Prop :=
  ∃ listed : List (Place × α), listed.map Prod.snd = values ∧
    listed.Pairwise (fun a b => Place.Precedes a.1 b.1) ∧
    ∀ place v, (place, v) ∈ listed ↔ has place v

/-- What the parts of a list have, each at the number of the part. -/
def Indexed {α β : Type} (items : List β) (has : β → Place → α → Prop) (place : Place) (v : α) : Prop :=
  ∃ i item rest, items[i]? = some item ∧ place = i :: rest ∧ has item rest v

/-- What two parts have, the first at zero and the second at one. -/
def Paired {α : Type} (first second : Place → α → Prop) (place : Place) (v : α) : Prop :=
  (∃ rest, place = 0 :: rest ∧ first rest v) ∨ ∃ rest, place = 1 :: rest ∧ second rest v

section
variable {α β : Type} {has also : Place → α → Prop} {values more : List α}

theorem Enumerates.congr (enumerated : Enumerates has values)
    (same : ∀ place v, has place v ↔ also place v) : Enumerates also values := by
  obtain ⟨listed, projected, ordered, complete⟩ := enumerated
  exact ⟨listed, projected, ordered, fun place v => (complete place v).trans (same place v)⟩

theorem enumerates_nil (nothing : ∀ place v, ¬has place v) : Enumerates has [] :=
  ⟨[], rfl, .nil, fun place v => by simp [nothing]⟩

theorem enumerates_here (v : α) : Enumerates (fun place w => place = [] ∧ w = v) [v] :=
  ⟨[([], v)], rfl, List.pairwise_singleton _ _, by simp⟩

/-- There is only one such list. -/
theorem Enumerates.unique (first : Enumerates has values) (second : Enumerates has more) :
    values = more := by
  obtain ⟨listed, rfl, ordered, complete⟩ := first
  obtain ⟨listed', rfl, ordered', complete'⟩ := second
  have different {a b : Place × α} (earlier : Place.Precedes a.1 b.1) : a ≠ b := by
    rintro rfl
    exact List.lex_irrefl Nat.lt_irrefl _ earlier
  have same : listed.Perm listed' :=
    (List.perm_ext_iff_of_nodup (ordered.imp different) (ordered'.imp different)).mpr
      fun entry => (complete _ _).trans (complete' _ _).symm
  have equal : listed = listed' := by
    refine same.eq_of_pairwise (fun a b _ _ earlier later => ?_) ordered ordered'
    exact absurd later (List.lex_asymm Nat.lt_asymm earlier)
  rw [equal]

/-- What is listed of less is listed of more, in the same order. -/
theorem Enumerates.sublist (few : Enumerates has values) (many : Enumerates also more)
    (included : ∀ place v, has place v → also place v) : values.Sublist more := by
  classical
  obtain ⟨listed, rfl, ordered, complete⟩ := many
  have kept : Enumerates has ((listed.filter fun entry => has entry.1 entry.2).map Prod.snd) := by
    refine ⟨_, rfl, ordered.filter _, fun place v => ?_⟩
    rw [List.mem_filter, complete, decide_eq_true_iff]
    exact and_iff_right_of_imp (included place v)
  rw [few.unique kept]
  exact List.filter_sublist.map Prod.snd

/-- Two lists follow each other when the places of the first precede those of the second. -/
theorem Enumerates.append (first : Enumerates has values) (second : Enumerates also more)
    (apart : ∀ a v b w, has a v → also b w → Place.Precedes a b) :
    Enumerates (fun place v => has place v ∨ also place v) (values ++ more) := by
  obtain ⟨listed, rfl, ordered, complete⟩ := first
  obtain ⟨listed', rfl, ordered', complete'⟩ := second
  refine ⟨listed ++ listed', List.map_append, ?_, fun place v => ?_⟩
  · refine List.pairwise_append.mpr ⟨ordered, ordered', fun a inFirst b inSecond => ?_⟩
    exact apart a.1 a.2 b.1 b.2 ((complete _ _).mp inFirst) ((complete' _ _).mp inSecond)
  · rw [List.mem_append, complete, complete']

/-- Going one level down. -/
theorem Enumerates.inside (i : Nat) (enumerated : Enumerates has values) :
    Enumerates (fun place v => ∃ rest, place = i :: rest ∧ has rest v) values := by
  obtain ⟨listed, rfl, ordered, complete⟩ := enumerated
  refine ⟨listed.map fun entry => (i :: entry.1, entry.2), by simp, ?_, fun place v => ?_⟩
  · exact List.pairwise_map.mpr (ordered.imp fun earlier => .cons earlier)
  · simp only [List.mem_map, Prod.mk.injEq]
    constructor
    · rintro ⟨⟨rest, w⟩, member, rfl, rfl⟩
      exact ⟨rest, rfl, (complete rest w).mp member⟩
    · rintro ⟨rest, rfl, held⟩
      exact ⟨(rest, v), (complete rest v).mpr held, rfl, rfl⟩

theorem Enumerates.pair (first : Enumerates has values) (second : Enumerates also more) :
    Enumerates (Paired has also) (values ++ more) := by
  refine (first.inside 0).append (second.inside 1) ?_
  rintro _ _ _ _ ⟨_, rfl, _⟩ ⟨_, rfl, _⟩
  exact .rel (Nat.zero_lt_one)

/-- The lists of the parts, one behind the other. -/
theorem enumerates_indexed {items : List β} {has : β → Place → α → Prop} {values : β → List α}
    (each : ∀ item ∈ items, Enumerates (has item) (values item)) :
    Enumerates (Indexed items has) (items.flatMap values) := by
  -- The numbers of the remaining parts start at `start`.
  suffices general : ∀ start, Enumerates (fun place v => ∃ i item rest, items[i]? = some item ∧
      place = (start + i) :: rest ∧ has item rest v) (items.flatMap values) by
    refine (general 0).congr fun place v => ?_
    simp only [Nat.zero_add, Indexed]
  induction items with
  | nil => exact fun start => enumerates_nil (by simp)
  | cons item rest ih =>
    intro start
    have first := (each item (by simp)).inside start
    have later := ih (fun other member => each other (List.mem_cons_of_mem _ member)) (start + 1)
    refine (first.append later ?_).congr fun place v => ?_
    · rintro _ _ _ _ ⟨_, rfl, _⟩ ⟨i, _, _, _, rfl, _⟩
      exact .rel (by omega)
    · constructor
      · rintro (⟨below, rfl, held⟩ | ⟨i, other, below, found, rfl, held⟩)
        · exact ⟨0, item, below, rfl, rfl, held⟩
        · exact ⟨i + 1, other, below, found, by rw [Nat.add_right_comm, Nat.add_assoc], held⟩
      · rintro ⟨i, other, below, found, rfl, held⟩
        cases i with
        | zero =>
          cases found
          exact Or.inl ⟨below, rfl, held⟩
        | succ i => exact Or.inr ⟨i, other, below, found, by rw [Nat.add_right_comm, Nat.add_assoc], held⟩

/-- Leaving values out, or taking something from them, keeps the order. -/
theorem Enumerates.filterMap (enumerated : Enumerates has values) (take : α → Option β) :
    Enumerates (fun place b => ∃ v, has place v ∧ take v = some b) (values.filterMap take) := by
  obtain ⟨listed, rfl, ordered, complete⟩ := enumerated
  refine ⟨listed.filterMap fun entry => (take entry.2).map fun b => (entry.1, b), ?_, ?_,
    fun place b => ?_⟩
  · simp [List.map_filterMap, List.filterMap_map, Function.comp_def]
  · refine List.pairwise_filterMap.mpr (ordered.imp fun earlier => ?_)
    rintro ⟨_, _⟩ taken ⟨_, _⟩ taken'
    obtain ⟨_, _, equal⟩ := Option.map_eq_some_iff.mp taken
    obtain ⟨_, _, equal'⟩ := Option.map_eq_some_iff.mp taken'
    cases equal
    cases equal'
    exact earlier
  · simp only [List.mem_filterMap, Option.map_eq_some_iff, Prod.mk.injEq]
    constructor
    · rintro ⟨⟨_, v⟩, member, _, taken, rfl, rfl⟩
      exact ⟨v, (complete _ _).mp member, taken⟩
    · rintro ⟨v, held, taken⟩
      exact ⟨(place, v), (complete _ _).mpr held, b, taken, rfl, rfl⟩

end

/-! ## Values -/

theorem Value.hasAt_iff (v : Value) (place : Place) (part : Value) :
    v.HasAt place part ↔ (place = [] ∧ part = v) ∨ Indexed v.inner Value.HasAt place part := by
  constructor
  · intro held
    cases held with
    | here => exact Or.inl ⟨rfl, rfl⟩
    | item range found held => exact Or.inr ⟨_, _, _, found, rfl, held⟩
    | entry range found held =>
      exact Or.inr ⟨_, _, _, by simp [inner, List.getElem?_map, found], rfl, held⟩
    | wrapped context range held => exact Or.inr ⟨0, _, _, rfl, rfl, held⟩
    | context value range found held =>
      exact Or.inr ⟨_, _, _, by simp [inner, List.getElem?_map, found], rfl, held⟩
  · rintro (⟨rfl, rfl⟩ | ⟨i, w, rest, found, rfl, held⟩)
    · exact .here part
    · cases v with
      | list items range => exact .item range found held
      | dictionary entries range =>
        rw [inner, List.getElem?_map] at found
        obtain ⟨⟨key, value⟩, located, rfl⟩ := Option.map_eq_some_iff.mp found
        exact .entry range located held
      | contextualized value context range =>
        cases i with
        | zero =>
          cases found
          exact .wrapped context range held
        | succ i =>
          rw [inner, List.getElem?_cons_succ, List.getElem?_map] at found
          obtain ⟨p, located, rfl⟩ := Option.map_eq_some_iff.mp found
          exact .context value range located held
      | _ => simp [inner] at found

theorem Value.enumerates (v : Value) : Enumerates v.HasAt v.parts := by
  induction v using Value.inner_induction with
  | step v ih =>
    rw [parts_eq]
    refine ((enumerates_here v).append (enumerates_indexed ih) ?_).congr fun place part =>
      (v.hasAt_iff place part).symm
    rintro _ _ _ _ ⟨rfl, _⟩ ⟨_, _, _, _, rfl, _⟩
    exact .nil

/-! ## Nodes and sections -/

theorem MatchCase.enumerates (c : MatchCase) :
    Enumerates (Paired c.pattern.HasAt c.consequence.HasAt) c.values :=
  c.pattern.enumerates.pair c.consequence.enumerates

theorem MatchBlock.enumerates (m : MatchBlock) : Enumerates (Node.matchBlock m).HasAt m.values := by
  have cases : Enumerates (Indexed m.cases fun c => Paired c.pattern.HasAt c.consequence.HasAt)
      (m.cases.flatMap MatchCase.values) := enumerates_indexed fun c _ => c.enumerates
  refine (m.discriminant.enumerates.pair cases).congr fun place v => ?_
  constructor
  · rintro (⟨rest, rfl, held⟩ |
      ⟨_, rfl, i, c, _, found, rfl, ⟨rest, rfl, held⟩ | ⟨rest, rfl, held⟩⟩)
    · exact .discriminant held
    · exact .pattern found held
    · exact .consequence found held
  · intro held
    cases held with
    | discriminant held => exact Or.inl ⟨_, rfl, held⟩
    | pattern found held => exact Or.inr ⟨_, rfl, _, _, _, found, rfl, Or.inl ⟨_, rfl, held⟩⟩
    | consequence found held => exact Or.inr ⟨_, rfl, _, _, _, found, rfl, Or.inr ⟨_, rfl, held⟩⟩

theorem DirectTransition.enumerates (t : DirectTransition) :
    Enumerates (Node.transition t).HasAt t.values := by
  have operand : Enumerates (fun place v => ∃ operand, t.operand = some operand ∧ operand.HasAt place v)
      (t.operand.toList.flatMap Value.parts) := by
    cases t.operand with
    | none => exact enumerates_nil (by simp)
    | some operand =>
      rw [Option.toList_some, List.flatMap_singleton]
      exact operand.enumerates.congr (by simp)
  refine (operand.pair t.target.enumerates).congr fun place v => ?_
  constructor
  · rintro (⟨rest, rfl, operand, given, held⟩ | ⟨rest, rfl, held⟩)
    · exact .operand given held
    · exact .target held
  · intro held
    cases held with
    | operand given held => exact Or.inl ⟨_, rfl, _, given, held⟩
    | target held => exact Or.inr ⟨_, rfl, held⟩

theorem Node.enumerates_of_child (n : Node)
    (inside : ∀ s, n.child? = some s → Enumerates s.HasAt s.values) : Enumerates n.HasAt n.values := by
  match n with
  | .matchBlock m => exact m.enumerates
  | .transition t => exact t.enumerates
  | .child s =>
    refine (inside s rfl).congr fun place v => ⟨.child, fun held => ?_⟩
    cases held
    assumption
  | .attribute a =>
    refine a.value.enumerates.congr fun place v => ⟨.attribute, fun held => ?_⟩
    cases held
    assumption
  | .value bare =>
    refine bare.enumerates.congr fun place v => ⟨.bare, fun held => ?_⟩
    cases held
    assumption

theorem Section.values_eq (s : Section) :
    s.values = s.parameters.flatMap (fun p => p.value.parts) ++ s.body.flatMap Node.values := by
  obtain ⟨kind, identifier, parameters, body, range⟩ := s
  rw [Section.values, Node.listValues_eq]

theorem Section.enumerates (s : Section) : Enumerates s.HasAt s.values := by
  induction s using Section.children_induction with
  | step s ih =>
    have parameters : Enumerates (Indexed s.parameters fun p => p.value.HasAt)
        (s.parameters.flatMap fun p => p.value.parts) :=
      enumerates_indexed fun p _ => p.value.enumerates
    have body : Enumerates (Indexed s.body Node.HasAt) (s.body.flatMap Node.values) :=
      enumerates_indexed fun n member => n.enumerates_of_child fun c isChild =>
        ih c (List.mem_filterMap.mpr ⟨n, member, isChild⟩)
    rw [Section.values_eq]
    refine (parameters.pair body).congr fun place v => ?_
    constructor
    · rintro (⟨_, rfl, i, p, rest, found, rfl, held⟩ | ⟨_, rfl, i, n, rest, found, rfl, held⟩)
      · exact .parameter found held
      · exact .node found held
    · intro held
      cases held with
      | parameter found held => exact Or.inl ⟨_, rfl, _, _, _, found, rfl, held⟩
      | node found held => exact Or.inr ⟨_, rfl, _, _, _, found, rfl, held⟩

/-- The values of a document are listed as they are written, from the first place to the last. -/
theorem Document.enumerates (doc : Document) : Enumerates doc.HasAt doc.values := by
  have sections : Enumerates (Indexed doc.sections Section.HasAt) doc.values :=
    enumerates_indexed fun s _ => s.enumerates
  refine sections.congr fun place v => ?_
  constructor
  · rintro ⟨i, s, rest, found, rfl, held⟩
    exact .inSection found held
  · rintro ⟨found, held⟩
    exact ⟨_, _, _, found, rfl, held⟩

end Dialogue
