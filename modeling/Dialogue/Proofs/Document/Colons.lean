import Dialogue.Proofs.Document.Respelling
import Mathlib.Data.List.Forall2

/-!
# Colons before atoms

An atom may be written with or without its colon. Here a document gains colons before some of its atoms,
anywhere in it, and both documents are respelt without colons to one and the same document.
-/
namespace Dialogue

/-! ## Gaining colons -/

/-- The second value is the first with a colon put before some of its atoms. -/
inductive Value.GainsColons : Value → Value → Prop
  | same (v : Value) : GainsColons v v
  | atom (name : String) (range : Option Range) :
    GainsColons (.atom name range) (.atom (":" ++ name) range)
  | list {items changed : List Value} (range : Option Range)
    (each : List.Forall₂ GainsColons items changed) :
    GainsColons (.list items range) (.list changed range)
  | dictionary {entries changed : List (String × Value)} (range : Option Range)
    (keys : changed.map Prod.fst = entries.map Prod.fst)
    (each : List.Forall₂ GainsColons (entries.map Prod.snd) (changed.map Prod.snd)) :
    GainsColons (.dictionary entries range) (.dictionary changed range)
  | contextualized {value changed : Value} {context around : List Parameter} (range : Option Range)
    (inside : GainsColons value changed)
    (labels : (around.map fun p => (p.key, p.range)) = context.map fun p => (p.key, p.range))
    (each : List.Forall₂ GainsColons (context.map Labelled.value) (around.map Labelled.value)) :
    GainsColons (.contextualized value context range) (.contextualized changed around range)

structure Labelled.GainsColons (p q : Parameter) : Prop where
  key : q.key = p.key
  value : p.value.GainsColons q.value
  range : q.range = p.range

structure Attribute.GainsColons (a b : Attribute) : Prop where
  key : b.key = a.key
  value : a.value.GainsColons b.value
  range : b.range = a.range

structure MatchCase.GainsColons (c d : MatchCase) : Prop where
  pattern : c.pattern.GainsColons d.pattern
  consequence : c.consequence.GainsColons d.consequence
  range : d.range = c.range

structure MatchBlock.GainsColons (m n : MatchBlock) : Prop where
  discriminant : m.discriminant.GainsColons n.discriminant
  cases : List.Forall₂ MatchCase.GainsColons m.cases n.cases
  range : n.range = m.range

structure DirectTransition.GainsColons (t u : DirectTransition) : Prop where
  operand : Option.Rel Value.GainsColons t.operand u.operand
  target : t.target.GainsColons u.target
  range : u.range = t.range

mutual

inductive Section.GainsColons : Section → Section → Prop
  | mk {parameters parameters' : List Parameter} {body body' : List Node} (kind : String)
    (identifier : Option Ident) (range : Option Range)
    (around : List.Forall₂ Labelled.GainsColons parameters parameters')
    (inside : List.Forall₂ Node.GainsColons body body') :
    Section.GainsColons ⟨kind, identifier, parameters, body, range⟩
      ⟨kind, identifier, parameters', body', range⟩

inductive Node.GainsColons : Node → Node → Prop
  | child {s t : Section} (gained : Section.GainsColons s t) : Node.GainsColons (.child s) (.child t)
  | attribute {a b : Attribute} (gained : a.GainsColons b) :
    Node.GainsColons (.attribute a) (.attribute b)
  | matchBlock {m n : MatchBlock} (gained : m.GainsColons n) :
    Node.GainsColons (.matchBlock m) (.matchBlock n)
  | transition {t u : DirectTransition} (gained : t.GainsColons u) :
    Node.GainsColons (.transition t) (.transition u)
  | value {v w : Value} (gained : v.GainsColons w) : Node.GainsColons (.value v) (.value w)

end

/-- The second document is the first with a colon put before some of its atoms. -/
structure Document.GainsColons (doc changed : Document) : Prop where
  sections : List.Forall₂ Section.GainsColons doc.sections changed.sections
  range : changed.range = doc.range

/-- An atom is written without a colon; other values always are. -/
def Value.isBare : Value → Bool
  | .atom name _ => !Text.startsWith name ":"
  | _ => true

/-! ## Losing them -/

/-- The atom without its colon. A second colon is no spelling of the first, so an atom with two keeps
both. -/
def withoutColon (value : String) : String :=
  match value.toList with
  | ':' :: rest => if rest.head? = some ':' then value else String.ofList rest
  | _ => value

theorem withoutColon_cases (value : String) :
    withoutColon value = value ∨
      ∃ rest : List Char, value = String.ofList (':' :: rest) ∧ rest.head? ≠ some ':' ∧
        withoutColon value = String.ofList rest := by
  unfold withoutColon
  split
  next rest spelt =>
    by_cases doubled : rest.head? = some ':'
    · exact Or.inl (if_pos doubled)
    · refine Or.inr ⟨rest, ?_, doubled, if_neg doubled⟩
      rw [← spelt, String.ofList_toList]
  next => exact Or.inl rfl

theorem atomName_withoutColon (value : String) :
    Value.atomName (withoutColon value) = Value.atomName value := by
  rcases withoutColon_cases value with kept | ⟨rest, spelt, _, dropped⟩
  · rw [kept]
  · rw [dropped, spelt, Value.atomName, Value.atomName, Text.dropLeading, Text.dropLeading,
      String.toList_ofList, String.toList_ofList]
    rfl

theorem isDefault_withoutColon (value : String) :
    (withoutColon value == "default" || withoutColon value == ":default") =
      (value == "default" || value == ":default") := by
  rcases withoutColon_cases value with kept | ⟨rest, spelt, single, dropped⟩
  · rw [kept]
  · have fallback : "default" = String.ofList ['d', 'e', 'f', 'a', 'u', 'l', 't'] := rfl
    have colon : ":default" = String.ofList [':', 'd', 'e', 'f', 'a', 'u', 'l', 't'] := rfl
    have notColon : rest ≠ [':', 'd', 'e', 'f', 'a', 'u', 'l', 't'] := by
      rintro rfl
      exact single rfl
    rw [Bool.eq_iff_iff, dropped, spelt, fallback, colon]
    simp only [Bool.or_eq_true, beq_iff_eq, String.ofList_inj]
    simp [notColon]

/-- Atoms without their colon, everything at its place. -/
def Respelling.bare : Respelling where
  atom := withoutColon
  place := id
  atomName_atom := atomName_withoutColon
  isDefault_atom := isDefault_withoutColon
  place_or _ _ := rfl

/-- One colon before an atom without one makes no difference. -/
theorem withoutColon_colon {name : String} (bare : Text.startsWith name ":" = false) :
    withoutColon (":" ++ name) = withoutColon name := by
  have spelt : (":" ++ name).toList = ':' :: name.toList := String.toList_append
  have single : name.toList.head? ≠ some ':' := by
    intro first
    obtain ⟨rest, spelt⟩ := List.head?_eq_some_iff.mp first
    simp [Text.startsWith, spelt] at bare
  have dropped : withoutColon (":" ++ name) = name := by
    rw [withoutColon, spelt]
    simp only [single, if_false, String.ofList_toList]
  rcases withoutColon_cases name with kept | ⟨rest, doubled, _⟩
  · rw [dropped, kept]
  · rw [doubled, String.toList_ofList] at single
    exact absurd rfl single

section

variable {α β : Type}

/-- What related members have in common, related lists have in common member by member. -/
theorem map_eq_of_related {R : α → α → Prop} {f : α → β} {xs ys : List α}
    (related : List.Forall₂ R xs ys) (each : ∀ x ∈ xs, ∀ y, R x y → f y = f x) :
    ys.map f = xs.map f := by
  induction related with
  | nil => rfl
  | @cons x y xs ys first rest ih =>
    rw [List.map_cons, List.map_cons, each x List.mem_cons_self y first,
      ih fun x member => each x (List.mem_cons_of_mem _ member)]

/-- Two lists of labelled data are equal when their labels and their data are. -/
theorem map_eq_of_parts {γ δ : Type} {label : α → β} {datum : α → γ} (build : β → γ → δ)
    {xs ys : List α} (labels : ys.map label = xs.map label) (data : ys.map datum = xs.map datum) :
    (ys.map fun y => build (label y) (datum y)) = xs.map fun x => build (label x) (datum x) := by
  induction xs generalizing ys with
  | nil =>
    rw [List.map_nil, List.map_eq_nil_iff] at labels
    rw [labels]
  | cons x xs ih =>
    obtain ⟨y, rest, rfl, first, others⟩ := List.map_eq_cons_iff.mp labels
    obtain ⟨same, alike⟩ := List.cons.inj data
    rw [List.map_cons, List.map_cons, ih others alike, first, same]

end

theorem Value.respell_gained {v w : Value} (gained : v.GainsColons w) (bare : v.Everywhere isBare) :
    w.respell .bare = v.respell .bare := by
  induction v using inner_induction generalizing w with
  | step v inside =>
    obtain ⟨here, deeper⟩ := (everywhere_iff isBare v).mp bare
    cases gained with
    | same => rfl
    | atom name range =>
      have single : Text.startsWith name ":" = false := by simpa [isBare] using here
      exact congrArg (Value.atom · range) (withoutColon_colon single)
    | list range each =>
      have items := map_eq_of_related each fun v member w gained =>
        inside v member gained (deeper v member)
      rw [respell, respell, respellItems_eq, respellItems_eq, items]
    | @dictionary entries changed range keys each =>
      have values := map_eq_of_related each fun v member w gained =>
        inside v member gained (deeper v member)
      rw [List.map_map, List.map_map] at values
      have both := map_eq_of_parts Prod.mk keys values
      rw [respell, respell, respellEntries_eq, respellEntries_eq]
      exact congrArg (Value.dictionary · range) both
    | @contextualized value changed context around range core labels each =>
      obtain ⟨first, others⟩ := List.forall_mem_cons.mp deeper
      have values := map_eq_of_related each fun v member w gained =>
        inside v (List.mem_cons_of_mem _ member) gained (others v member)
      rw [List.map_map, List.map_map] at values
      have both := map_eq_of_parts
        (fun (label : Option String × Option Range) v => Labelled.mk label.1 v label.2) labels values
      rw [respell, respell, respellContext_eq, respellContext_eq,
        inside value List.mem_cons_self core first]
      exact congrArg (Value.contextualized _ · range) both

theorem Labelled.respell_gained {p q : Parameter} (gained : p.GainsColons q)
    (bare : p.value.Everywhere Value.isBare) : q.respell .bare = p.respell .bare := by
  rw [Labelled.respell, Labelled.respell, gained.key, gained.range,
    Value.respell_gained gained.value bare]

theorem Attribute.respell_gained {a b : Attribute} (gained : a.GainsColons b)
    (bare : a.value.Everywhere Value.isBare) : b.respell .bare = a.respell .bare := by
  rw [Attribute.respell, Attribute.respell, gained.key, gained.range,
    Value.respell_gained gained.value bare]

theorem MatchCase.respell_gained {c d : MatchCase} (gained : c.GainsColons d)
    (bare : ∀ v ∈ c.values, v.isBare = true) : d.respell .bare = c.respell .bare := by
  obtain ⟨pattern, consequence⟩ := List.forall_mem_append.mp bare
  rw [MatchCase.respell, MatchCase.respell, gained.range,
    Value.respell_gained gained.pattern pattern,
    Value.respell_gained gained.consequence consequence]

theorem MatchBlock.respell_gained {m n : MatchBlock} (gained : m.GainsColons n)
    (bare : ∀ v ∈ m.values, v.isBare = true) : n.respell .bare = m.respell .bare := by
  obtain ⟨discriminant, cases⟩ := List.forall_mem_append.mp bare
  have each := map_eq_of_related gained.cases fun c member d gained =>
    MatchCase.respell_gained gained fun v inside =>
      cases v (List.mem_flatMap.mpr ⟨c, member, inside⟩)
  rw [MatchBlock.respell, MatchBlock.respell, gained.range, each,
    Value.respell_gained gained.discriminant discriminant]

theorem DirectTransition.respell_gained {t u : DirectTransition} (gained : t.GainsColons u)
    (bare : ∀ v ∈ t.values, v.isBare = true) : u.respell .bare = t.respell .bare := by
  obtain ⟨operand, target⟩ := List.forall_mem_append.mp bare
  have same : u.operand.map (Value.respell .bare) = t.operand.map (Value.respell .bare) := by
    obtain ⟨first, place, range⟩ := t
    obtain ⟨second, place', range'⟩ := u
    cases gained.operand with
    | none => rfl
    | some related =>
      exact congrArg some (Value.respell_gained related fun part inside =>
        operand part (List.mem_flatMap.mpr ⟨_, List.mem_singleton_self _, inside⟩))
  rw [DirectTransition.respell, DirectTransition.respell, gained.range, same,
    Value.respell_gained gained.target target]

theorem Node.respell_gained {n m : Node} (gained : n.GainsColons m)
    (bare : ∀ v ∈ n.values, v.isBare = true)
    (child : ∀ s, n.child? = some s → ∀ t, s.GainsColons t → t.respell .bare = s.respell .bare) :
    m.respell .bare = n.respell .bare := by
  cases gained with
  | child gained => exact congrArg Node.child (child _ rfl _ gained)
  | «attribute» gained => exact congrArg Node.attribute (Attribute.respell_gained gained bare)
  | matchBlock gained => exact congrArg Node.matchBlock (MatchBlock.respell_gained gained bare)
  | transition gained => exact congrArg Node.transition (DirectTransition.respell_gained gained bare)
  | value gained => exact congrArg Node.value (Value.respell_gained gained bare)

theorem Section.respell_gained {s t : Section} (gained : s.GainsColons t)
    (bare : ∀ v ∈ s.values, v.isBare = true) : t.respell .bare = s.respell .bare := by
  induction s using children_induction generalizing t with
  | step s inside =>
    obtain ⟨parametersBare, bodyBare⟩ := Section.forall_mem_values.mp bare
    cases gained with
    | @mk parameters parameters' body body' kind identifier range around within =>
      have parametersSame := map_eq_of_related around fun p member q gained =>
        Labelled.respell_gained gained (parametersBare p member)
      have bodySame := map_eq_of_related within fun n member m gained =>
        Node.respell_gained gained (bodyBare n member) fun c isChild d gained =>
          inside c (List.mem_filterMap.mpr ⟨n, member, isChild⟩) gained fun v listed =>
            bodyBare n member v (Node.mem_values_of_child isChild listed)
      rw [Section.respell, Section.respell, Node.respellAll_eq, Node.respellAll_eq, parametersSame,
        bodySame]

/-- A document whose atoms have no colon, and the document with colons before some of them, are respelt
to the same document. -/
theorem Document.respell_gained {doc changed : Document} (gained : doc.GainsColons changed)
    (bare : ∀ v ∈ doc.values, v.isBare = true) : changed.respell .bare = doc.respell .bare := by
  have each := map_eq_of_related gained.sections fun s member t gained =>
    Section.respell_gained gained fun v inside =>
      bare v (List.mem_flatMap.mpr ⟨s, member, inside⟩)
  rw [Document.respell, Document.respell, each, gained.range]

end Dialogue
