import Dialogue.Proofs.Json.Taken

/-!
# What decoders yield

A decoder yields a property when every value that it takes from any tree has it, be the tree well written or
not. Like forms, such properties are put together the way decoders are: of a record, from what its fields
yield.
-/
namespace Dialogue.Json

/-! ## Decoders -/

namespace Decoder

variable {α β : Type}

/-- Whatever the decoder yields has the property. -/
def Yields (d : Decoder α) (P : α → Prop) : Prop := ∀ origin tree a, d origin tree = .ok a → P a

theorem Yields.map {d : Decoder α} {f : α → β} {P : β → Prop} (each : d.Yields fun a => P (f a)) :
    (d.map f).Yields P := by
  intro origin tree b done
  obtain ⟨a, decoded, rfl⟩ := map_eq_ok done
  exact each origin tree a decoded

theorem Yields.optional {d : Decoder α} {P : α → Prop} (each : d.Yields P) :
    d.optional.Yields fun value => ∀ a ∈ value, P a := by
  intro origin tree value done a member
  unfold Decoder.optional at done
  split at done
  · cases done
    simp at member
  · obtain ⟨given, decoded, rfl⟩ := map_eq_ok done
    obtain rfl : given = a := Option.some.inj member
    exact each origin _ given decoded

theorem Yields.list {d : Decoder α} {P : α → Prop} (each : d.Yields P) :
    (list d).Yields fun values => ∀ a ∈ values, P a := by
  intro origin tree values done
  obtain ⟨items, rfl, done⟩ := list_ok done
  intro a member
  obtain ⟨item, _, decoded⟩ := mem_of_mapM_ok done member
  exact each _ item a decoded

theorem Yields.entries {d : Decoder α} {P : α → Prop} (each : d.Yields P) (origin : Origin)
    {trees : List (String × Json)} {values : List (String × α)}
    (done : entries d origin trees = .ok values) : ∀ entry ∈ values, P entry.2 := by
  induction trees generalizing values with
  | nil =>
    cases done
    simp
  | cons tree rest ih =>
    rw [Decoder.entries] at done
    obtain ⟨first, decoded, done⟩ := bind_eq_ok done
    obtain ⟨others, decodedRest, done⟩ := bind_eq_ok done
    obtain rfl : (tree.1, first) :: others = values := Except.ok.inj done
    exact List.forall_mem_cons.mpr ⟨each _ tree.2 first decoded, ih decodedRest⟩

theorem Yields.table {d : Decoder α} {P : α → Prop} (each : d.Yields P) :
    (table d).Yields fun t => ∀ entry ∈ t.entries, P entry.2 := by
  intro origin tree t done entry member
  unfold Decoder.table at done
  split at done
  · obtain ⟨values, decoded, rfl⟩ := map_eq_ok done
    have found := (Table.get?_eq_some_iff _ _ _).mpr member
    rw [Table.get?_ofLast] at found
    have listed := List.mem_reverse.mp (Table.mem_of_lookup_eq_some found)
    exact each.entries _ decoded _ listed
  · cases done

end Decoder

/-! ## Fields and records -/

namespace Fields

variable {α β : Type}

/-- Whatever the fields hold has the property, be they taken from an object or from an array. -/
structure Yields (fields : Fields α) (P : α → Prop) : Prop where
  object : ∀ origin entries a, fields.ofObject origin entries = .ok a → P a
  array : ∀ origin expected index items a rest,
    fields.ofArray origin expected index items = .ok (a, rest) → P a

theorem Yields.of_taken {fields : Fields α} {P : α → Prop}
    (each : ∀ origin tree a, fields.Taken origin 0 tree a → P a) : fields.Yields P :=
  ⟨fun origin _ a done => each origin _ a (.object done),
    fun origin expected index _ a _ done => each origin _ a (.array expected index done)⟩

theorem Yields.taken {fields : Fields α} {P : α → Prop} (each : fields.Yields P) {origin : Origin}
    {place : Nat} {tree : Json} {a : α} (taken : fields.Taken origin place tree a) : P a := by
  cases taken with
  | object read => exact each.object _ _ a read
  | array expected index read => exact each.array _ _ _ _ a _ read

theorem yields_of_forall {fields : Fields α} {P : α → Prop} (all : ∀ a, P a) : fields.Yields P :=
  ⟨fun _ _ a _ => all a, fun _ _ _ _ a _ _ => all a⟩

theorem Yields.imp {fields : Fields α} {P Q : α → Prop} (each : fields.Yields P)
    (weaker : ∀ a, P a → Q a) : fields.Yields Q :=
  ⟨fun origin entries a done => weaker a (each.object origin entries a done),
    fun origin expected index items a rest done =>
      weaker a (each.array origin expected index items a rest done)⟩

theorem yields_true (fields : Fields α) : fields.Yields fun _ => True :=
  yields_of_forall fun _ => trivial

theorem yields_field {name : String} {d : Decoder α} {default : Option α} {P : α → Prop}
    (each : d.Yields P) (absent : ∀ a ∈ default, P a) : (field name d default).Yields P := by
  refine .of_taken fun origin tree a taken => ?_
  rcases taken.field with ⟨_, given⟩ | ⟨part, _, decoded⟩
  · exact absent a given
  · exact each origin part a decoded

theorem yields_items {name : String} {d : Decoder α} {P : α → Prop} (each : d.Yields P) :
    (withDefault name (.list d) []).Yields fun values => ∀ a ∈ values, P a := by
  refine yields_field each.list ?_
  rintro _ ⟨⟩
  simp

theorem Yields.map {fields : Fields α} {f : α → β} {P : β → Prop}
    (each : fields.Yields fun a => P (f a)) : (f <$> fields).Yields P := by
  refine .of_taken fun origin tree b taken => ?_
  obtain ⟨a, held, rfl⟩ := taken.map
  exact each.taken held

theorem Yields.seq {fs : Fields (α → β)} {xs : Fields α} {P : β → Prop} (Q : α → Prop)
    (functions : fs.Yields fun f => ∀ a, Q a → P (f a)) (values : xs.Yields Q) :
    (fs <*> xs).Yields P := by
  constructor
  · intro origin entries b done
    change (apply fs xs).ofObject origin entries = _ at done
    simp only [apply] at done
    split at done
    · next f a first second =>
      cases done
      exact functions.object _ _ f first a (values.object _ _ a second)
    · cases done
    · cases done
    · cases done
  · intro origin expected index items b rest done
    obtain ⟨⟨f, behind⟩, first, done⟩ := bind_eq_ok done
    obtain ⟨⟨a, after⟩, second, done⟩ := bind_eq_ok done
    cases done
    exact functions.array _ _ _ _ f behind first a (values.array _ _ _ _ a rest second)

end Fields

namespace Decoder

variable {α : Type}

theorem yields_record {expected : String} {fields : Fields α} {P : α → Prop}
    (each : fields.Yields P) : (record expected fields).Yields P :=
  fun _ _ _ done => each.taken (record_ok done)

/-- A tag only chooses among the variants. -/
theorem variant_mem {variants : List (String × Decoder α)} {origin : Origin} {tree : Json}
    {d : Decoder α} (done : variant variants origin tree = .ok d) :
    ∃ name, (name, d) ∈ variants := by
  unfold variant at done
  split at done
  · next name =>
    split at done
    · next found =>
      cases done
      exact ⟨name, Table.mem_of_lookup_eq_some found⟩
    · cases done
  · split at done
    · next name _ found =>
      cases done
      exact ⟨name, List.mem_of_getElem? found⟩
    · cases done
  · cases done

theorem splitTag_mem {tag : String} {variants : List (String × Decoder α)} {origin : Origin}
    {found chosen : Option (Decoder α)} {entries content : List (String × Json)}
    (given : ∀ d ∈ found, ∃ name, (name, d) ∈ variants)
    (done : splitTag tag variants origin found entries = .ok (chosen, content)) :
    ∀ d ∈ chosen, ∃ name, (name, d) ∈ variants := by
  induction entries generalizing found content with
  | nil =>
    cases done
    exact given
  | cons entry rest ih =>
    obtain ⟨key, value⟩ := entry
    simp only [splitTag] at done
    split at done
    · split at done
      · cases done
      · obtain ⟨d, named, done⟩ := bind_eq_ok done
        refine ih (fun other member => ?_) done
        obtain rfl : d = other := Option.some.inj member
        exact variant_mem named
    · split at done
      · cases done
      · obtain ⟨⟨later, behind⟩, split, done⟩ := bind_eq_ok done
        cases done
        exact ih given split

theorem yields_tagged {tag name : String} {variants : List (String × Decoder α)} {P : α → Prop}
    (each : ∀ entry ∈ variants, entry.2.Yields P) : (tagged tag name variants).Yields P := by
  intro origin tree a done
  unfold tagged at done
  split at done
  · obtain ⟨⟨chosen, content⟩, split, done⟩ := bind_eq_ok done
    cases chosen with
    | none => cases done
    | some d =>
      obtain ⟨name, member⟩ := splitTag_mem (by simp) split d rfl
      exact each _ member _ _ _ done
  · cases done
  · obtain ⟨d, named, done⟩ := bind_eq_ok done
    obtain ⟨name, member⟩ := variant_mem named
    split at done
    · cases done
    · exact each _ member _ _ _ done
  · cases done

end Decoder

end Dialogue.Json
