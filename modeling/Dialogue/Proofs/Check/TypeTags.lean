import Dialogue.Check.TypeTags

/-!
# Where type-tagged literals stand

The literals of a value, of a body and of a section are those of their parts, one part behind the other.
-/
namespace Dialogue.Check

theorem itemsTagUses_eq (items : List Value) : itemsTagUses items = items.flatMap tagUses := by
  induction items with
  | nil => rfl
  | cons item rest ih => rw [itemsTagUses, ih, List.flatMap_cons]

theorem entriesTagUses_eq (entries : List (String × Value)) :
    entriesTagUses entries = entries.flatMap fun entry => tagUses entry.2 := by
  induction entries with
  | nil => rfl
  | cons entry rest ih => rw [entriesTagUses, ih, List.flatMap_cons]

theorem contextTagUses_eq (context : List Parameter) :
    contextTagUses context = context.flatMap fun p => tagUses p.value := by
  induction context with
  | nil => rfl
  | cons p rest ih => rw [contextTagUses, ih, List.flatMap_cons]

theorem bodyTagUses_eq (body : List Node) : bodyTagUses body = body.flatMap nodeTagUses := by
  induction body with
  | nil => rfl
  | cons n rest ih => rw [bodyTagUses, ih, List.flatMap_cons]

theorem sectionTagUses_eq (s : Section) :
    sectionTagUses s =
      s.parameters.flatMap (fun p => tagUses p.value) ++ s.body.flatMap nodeTagUses := by
  obtain ⟨kind, identifier, parameters, body, range⟩ := s
  rw [sectionTagUses, bodyTagUses_eq]

end Dialogue.Check
