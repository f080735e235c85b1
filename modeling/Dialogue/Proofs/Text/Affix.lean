import Dialogue.Text.Blank

/-!
# Beginnings and endings of texts

A text begins or ends with another when it is that text with something behind or before it.
-/
namespace Dialogue.Text

theorem startsWith_iff (text start : String) :
    startsWith text start = true ↔ ∃ rest, text = start ++ rest := by
  unfold startsWith
  rw [List.isPrefixOf_iff_prefix]
  constructor
  · rintro ⟨rest, eq⟩
    exact ⟨String.ofList rest, String.toList_inj.mp (by simpa using eq.symm)⟩
  · rintro ⟨rest, rfl⟩
    exact ⟨rest.toList, by simp⟩

theorem endsWith_iff (text ending : String) :
    endsWith text ending = true ↔ ∃ stem, text = stem ++ ending := by
  unfold endsWith
  rw [List.isSuffixOf_iff_suffix]
  constructor
  · rintro ⟨stem, eq⟩
    exact ⟨String.ofList stem, String.toList_inj.mp (by simpa using eq.symm)⟩
  · rintro ⟨stem, rfl⟩
    exact ⟨stem.toList, by simp⟩

theorem withoutEnding?_append (stem ending : String) :
    withoutEnding? (stem ++ ending) ending = some stem := by
  have ends : endsWith (stem ++ ending) ending = true := (endsWith_iff _ _).mpr ⟨stem, rfl⟩
  simp [withoutEnding?, ends]

theorem withoutEnding?_eq_none {text ending : String} (other : endsWith text ending = false) :
    withoutEnding? text ending = none := by
  simp [withoutEnding?, other]

end Dialogue.Text
