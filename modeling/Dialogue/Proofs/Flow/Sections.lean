import Dialogue.Proofs.Check.Promises

/-!
# Compiled sections

Flows and states are compiled section by section into a table under their names. What is in such a table
comes from a section of that name, and when the names are given and distinct no section is left out.
-/
namespace Dialogue.Flow

/-- What becomes of named sections, by name; the first of a name counts. -/
def tableOf {α : Type} (build : Section → α) (sections : List Section) : Table α :=
  Table.ofFirst (sections.filterMap fun s => s.name?.map fun name => (name, build s))

theorem compileAll_eq_tableOf (doc : Document) :
    compileAll doc = tableOf compile (doc.gather "flow") := rfl

section
variable {α : Type} (build : Section → α)

theorem names_offered (sections : List Section) :
    (sections.filterMap fun s => s.name?.map fun name => (name, build s)).map Prod.fst =
      sections.filterMap Section.name? := by
  rw [List.map_filterMap]
  congr 1
  funext s
  cases s.name? <;> rfl

theorem mem_keys_tableOf (sections : List Section) (name : String) :
    name ∈ (tableOf build sections).keys ↔ name ∈ sections.filterMap Section.name? := by
  rw [tableOf, Table.mem_keys_ofFirst, names_offered]

theorem mem_entries_tableOf {sections : List Section} {name : String} {value : α}
    (member : (name, value) ∈ (tableOf build sections).entries) :
    ∃ s ∈ sections, s.name? = some name ∧ value = build s := by
  obtain ⟨s, listed, made⟩ := List.mem_filterMap.mp (Table.mem_entries_ofFirst member)
  obtain ⟨key, named, equal⟩ := Option.map_eq_some_iff.mp made
  cases equal
  exact ⟨s, listed, named, rfl⟩

/-- Under distinct names every section has its entry, in source order. -/
theorem entries_tableOf {sections : List Section} (named : Check.DistinctlyNamed [] sections) :
    (tableOf build sections).entries =
      sections.filterMap fun s => s.name?.map fun name => (name, build s) := by
  apply Table.entries_ofFirst_of_distinct
  rw [names_offered]
  exact named.names.2

theorem keys_tableOf {sections : List Section} (named : Check.DistinctlyNamed [] sections) :
    (tableOf build sections).keys.map some = sections.map Section.name? := by
  rw [Table.keys, entries_tableOf build named, names_offered]
  exact named.names.1

theorem get?_tableOf {sections : List Section} (named : Check.DistinctlyNamed [] sections)
    {s : Section} (member : s ∈ sections) :
    ∃ name, s.name? = some name ∧ (tableOf build sections).get? name = some (build s) := by
  have given : s.name? ∈ (sections.filterMap Section.name?).map some := by
    rw [named.names.1]
    exact List.mem_map.mpr ⟨s, member, rfl⟩
  obtain ⟨name, _, equal⟩ := List.mem_map.mp given
  refine ⟨name, equal.symm, ?_⟩
  rw [Table.get?_eq_some_iff, entries_tableOf build named]
  exact List.mem_filterMap.mpr ⟨s, member, by simp [← equal]⟩

end

/-! ## Flows -/

theorem mem_keys_compileStates (flow : Section) (name : String) :
    name ∈ (compileStates flow).keys ↔ name ∈ Check.declaredStates flow :=
  mem_keys_tableOf compileState (stateSections flow) name

/-- A flow that passed the checks starts with one of its states. -/
theorem initial_declared {flow : Section} (sound : Check.FlowSound flow) :
    (compile flow).initial ∈ (compile flow).states.keys := by
  obtain ⟨a, start, given, named, declared⟩ := sound.start
  have initial : (compile flow).initial = start := by
    simp [compile, startOf, given, named]
  rw [initial]
  exact (mem_keys_compileStates flow start).mpr declared

end Dialogue.Flow
