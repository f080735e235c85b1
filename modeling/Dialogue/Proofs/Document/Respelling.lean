import Dialogue.Proofs.Document.Values

/-!
# Respelling a document

A respelling moves everything in a document to other places and spells its atoms in other ways. It keeps
what the atoms mean, so whoever reads a document through its names, kinds, literals and sections finds
the same as before, in the same order.
-/
namespace Dialogue

/-- A change of places and of the spelling of atoms. An atom keeps its name and stays the fallback of a
match block if it was one; of two places that may be given, the same one counts. -/
structure Respelling where
  atom : String → String
  place : Option Range → Option Range
  atomName_atom : ∀ value, Value.atomName (atom value) = Value.atomName value
  isDefault_atom : ∀ value, (atom value == "default" || atom value == ":default") =
    (value == "default" || value == ":default")
  place_or : ∀ first second, place (first.or second) = (place first).or (place second)

/-! ## Values -/

namespace Value

mutual

def respell (r : Respelling) : Value → Value
  | .string value range => .string value (r.place range)
  | .number value range => .number value (r.place range)
  | .boolean value range => .boolean value (r.place range)
  | .null range => .null (r.place range)
  | .atom value range => .atom (r.atom value) (r.place range)
  | .identifier value range => .identifier value (r.place range)
  | .reference name range => .reference name (r.place range)
  | .list items range => .list (respellItems r items) (r.place range)
  | .dictionary entries range => .dictionary (respellEntries r entries) (r.place range)
  | .contextualized value context range =>
    .contextualized (value.respell r) (respellContext r context) (r.place range)
  | .typeTag tag value qualifier range => .typeTag tag value qualifier (r.place range)

def respellItems (r : Respelling) : List Value → List Value
  | [] => []
  | item :: rest => item.respell r :: respellItems r rest

def respellEntries (r : Respelling) : List (String × Value) → List (String × Value)
  | [] => []
  | (key, value) :: rest => (key, value.respell r) :: respellEntries r rest

def respellContext (r : Respelling) : List (Labelled Value) → List (Labelled Value)
  | [] => []
  | ⟨key, value, range⟩ :: rest => ⟨key, value.respell r, r.place range⟩ :: respellContext r rest

end

end Value

def Labelled.respell (r : Respelling) (p : Parameter) : Parameter :=
  ⟨p.key, p.value.respell r, r.place p.range⟩

/-- The value of a key, respelt. -/
def Respelling.entry (r : Respelling) (e : String × Value) : String × Value := (e.1, e.2.respell r)

namespace Value

variable (r : Respelling)

theorem respellItems_eq (items : List Value) : respellItems r items = items.map (respell r) := by
  induction items with
  | nil => rfl
  | cons item rest ih => rw [respellItems, ih, List.map_cons]

theorem respellEntries_eq (entries : List (String × Value)) :
    respellEntries r entries = entries.map r.entry := by
  induction entries with
  | nil => rfl
  | cons entry rest ih => rw [respellEntries, ih, List.map_cons, Respelling.entry]

theorem respellContext_eq (context : List (Labelled Value)) :
    respellContext r context = context.map (Labelled.respell r) := by
  induction context with
  | nil => rfl
  | cons parameter rest ih => rw [respellContext, ih, List.map_cons, Labelled.respell]

@[simp] theorem range_respell (v : Value) : (v.respell r).range = r.place v.range := by
  cases v <;> rfl

@[simp] theorem kind_respell (v : Value) : (v.respell r).kind = v.kind := by cases v <;> rfl

@[simp] theorem text?_respell (v : Value) : (v.respell r).text? = v.text? := by cases v <;> rfl

@[simp] theorem core_respell (v : Value) : (v.respell r).core = v.core.respell r := by
  induction v using inner_induction with
  | step v inside =>
    cases v with
    | contextualized value context range => exact inside value List.mem_cons_self
    | _ => rfl

@[simp] theorem context_respell (v : Value) :
    (v.respell r).context = v.context.map (Labelled.respell r) := by
  induction v using inner_induction with
  | step v inside =>
    cases v with
    | contextualized value parameters range =>
      rw [respell, context, context, List.map_append, respellContext_eq,
        inside value List.mem_cons_self]
    | _ => rfl

@[simp] theorem stateRef?_respell (v : Value) : (v.respell r).stateRef? = v.stateRef? := by
  unfold stateRef?
  rw [core_respell]
  cases v.core <;> rfl

@[simp] theorem canonicalText?_respell (v : Value) :
    (v.respell r).canonicalText? = v.canonicalText? := by
  unfold canonicalText?
  rw [core_respell]
  cases v.core with
  | atom value range => exact congrArg some (r.atomName_atom value)
  | _ => rfl

@[simp] theorem literal_respell (v : Value) : (v.respell r).literal = v.literal := by
  induction v using inner_induction with
  | step v inside =>
    cases v with
    | atom value range => rw [respell, literal, literal, r.atomName_atom]
    | contextualized value context range => exact inside value List.mem_cons_self
    | list items range =>
      rw [respell, respellItems_eq]
      exact literal_list_congr inside _ _
    | dictionary entries range =>
      rw [respell, respellEntries_eq]
      exact literal_dictionary_congr inside _ _
    | _ => rfl

end Value

/-! ## Sections -/

def Ident.respell (r : Respelling) (i : Ident) : Ident := ⟨i.value, r.place i.range⟩

def Attribute.respell (r : Respelling) (a : Attribute) : Attribute :=
  ⟨a.key, a.value.respell r, r.place a.range⟩

def MatchCase.respell (r : Respelling) (c : MatchCase) : MatchCase :=
  ⟨c.pattern.respell r, c.consequence.respell r, r.place c.range⟩

def MatchBlock.respell (r : Respelling) (m : MatchBlock) : MatchBlock :=
  ⟨m.discriminant.respell r, m.cases.map (MatchCase.respell r), r.place m.range⟩

def DirectTransition.respell (r : Respelling) (t : DirectTransition) : DirectTransition :=
  ⟨t.operand.map (Value.respell r), t.target.respell r, r.place t.range⟩

mutual

def Section.respell (r : Respelling) : Section → Section
  | ⟨kind, identifier, parameters, body, range⟩ =>
    ⟨kind, identifier.map (Ident.respell r), parameters.map (Labelled.respell r),
      Node.respellAll r body, r.place range⟩

def Node.respell (r : Respelling) : Node → Node
  | .child s => .child (s.respell r)
  | .attribute a => .attribute (a.respell r)
  | .matchBlock m => .matchBlock (m.respell r)
  | .transition t => .transition (t.respell r)
  | .value v => .value (v.respell r)

def Node.respellAll (r : Respelling) : List Node → List Node
  | [] => []
  | node :: rest => node.respell r :: Node.respellAll r rest

end

def Document.respell (r : Respelling) (doc : Document) : Document :=
  ⟨doc.sections.map (Section.respell r), r.place doc.range⟩

section
variable (r : Respelling)

theorem Node.respellAll_eq (body : List Node) : Node.respellAll r body = body.map (Node.respell r) := by
  induction body with
  | nil => rfl
  | cons node rest ih => rw [Node.respellAll, ih, List.map_cons]

@[simp] theorem Node.attribute?_respell (n : Node) :
    (n.respell r).attribute? = n.attribute?.map (Attribute.respell r) := by
  cases n <;> rfl

@[simp] theorem Node.child?_respell (n : Node) :
    (n.respell r).child? = n.child?.map (Section.respell r) := by
  cases n <;> rfl

@[simp] theorem MatchCase.isDefault_respell (c : MatchCase) : (c.respell r).isDefault = c.isDefault := by
  obtain ⟨pattern, consequence, range⟩ := c
  cases pattern with
  | atom value range => exact r.isDefault_atom value
  | _ => rfl

end

namespace Section

variable (r : Respelling) (s : Section)

@[simp] theorem kind_respell : (s.respell r).kind = s.kind := by cases s; rfl

@[simp] theorem range_respell : (s.respell r).range = r.place s.range := by cases s; rfl

@[simp] theorem parameters_respell :
    (s.respell r).parameters = s.parameters.map (Labelled.respell r) := by
  cases s; rfl

@[simp] theorem body_respell : (s.respell r).body = s.body.map (Node.respell r) := by
  obtain ⟨kind, identifier, parameters, body, range⟩ := s
  exact Node.respellAll_eq r body

@[simp] theorem name?_respell : (s.respell r).name? = s.name? := by
  obtain ⟨kind, identifier, parameters, body, range⟩ := s
  cases identifier <;> rfl

@[simp] theorem is_respell (kind : String) : (s.respell r).is kind = s.is kind := by simp [is]

@[simp] theorem isMessage_respell : (s.respell r).isMessage = s.isMessage := by simp [isMessage]

@[simp] theorem attributes_respell :
    (s.respell r).attributes = s.attributes.map (Attribute.respell r) := by
  simp only [attributes, body_respell, List.filterMap_map, List.map_filterMap, Function.comp_def,
    Node.attribute?_respell]

@[simp] theorem attribute?_respell (key : String) :
    (s.respell r).attribute? key = (s.attribute? key).map (Attribute.respell r) := by
  simp [attribute?, List.find?_map, Function.comp_def, Attribute.respell]

@[simp] theorem children_respell :
    (s.respell r).children = s.children.map (Section.respell r) := by
  simp only [children, body_respell, List.filterMap_map, List.map_filterMap, Function.comp_def,
    Node.child?_respell]

@[simp] theorem childrenOf_respell (kind : String) :
    (s.respell r).childrenOf kind = (s.childrenOf kind).map (Section.respell r) := by
  simp [childrenOf, List.filter_map, Function.comp_def]

@[simp] theorem positional?_respell :
    (s.respell r).positional? = s.positional?.map (Value.respell r) := by
  simp [positional?, List.find?_map, Function.comp_def, Labelled.respell]

@[simp] theorem named_respell : (s.respell r).named = s.named.map r.entry := by
  simp [named, List.filterMap_map, List.map_filterMap, Function.comp_def, Labelled.respell,
    Respelling.entry]

end Section

namespace Document

variable (r : Respelling) (doc : Document)

theorem gatherFrom_respell (kind : String) (s : Section) :
    gatherFrom kind (s.respell r) = (gatherFrom kind s).map (Section.respell r) := by
  simp only [gatherFrom, Section.is_respell, Section.childrenOf_respell, List.map_append]
  split <;> split <;> rfl

@[simp] theorem gather_respell (kind : String) :
    (doc.respell r).gather kind = (doc.gather kind).map (Section.respell r) := by
  simp only [gather, respell, List.flatMap_map, List.map_flatMap, gatherFrom_respell]

@[simp] theorem agents_respell : (doc.respell r).agents = doc.agents.map (Section.respell r) := by
  simp [agents, respell, List.filter_map, Function.comp_def]

end Document

end Dialogue
