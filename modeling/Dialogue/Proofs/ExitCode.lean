import Dialogue.ExitCode

/-!
# The gravest code

A code is known by the bounds on its gravity, and the gravest of some codes has the bounds that all of them
have. So it depends on which codes there are, and neither on their order nor on how they are grouped. It is
`success` only if every code is, and no error leads to `success`.
-/
namespace Dialogue.ExitCode

theorem gravity_injective {a b : ExitCode} (same : a.gravity = b.gravity) : a = b := by
  cases a <;> cases b <;> first | rfl | cases same

theorem eq_of_bounds {a b : ExitCode} (same : ∀ n, a.gravity ≤ n ↔ b.gravity ≤ n) : a = b :=
  gravity_injective
    (Nat.le_antisymm ((same _).mpr (Nat.le_refl _)) ((same _).mp (Nat.le_refl _)))

theorem gravity_worst_le_iff (a b : ExitCode) (n : Nat) :
    (worst a b).gravity ≤ n ↔ a.gravity ≤ n ∧ b.gravity ≤ n := by
  unfold worst
  split <;> omega

theorem eq_success_iff (code : ExitCode) : code = .success ↔ code.gravity ≤ 0 := by
  cases code <;> decide

theorem worst_eq_success_iff (a b : ExitCode) :
    worst a b = .success ↔ a = .success ∧ b = .success := by
  simp only [eq_success_iff, gravity_worst_le_iff]

/-! ## Many codes -/

theorem gravity_foldl_worst_le_iff (first : ExitCode) (codes : List ExitCode) (n : Nat) :
    (codes.foldl worst first).gravity ≤ n ↔ first.gravity ≤ n ∧ ∀ code ∈ codes, code.gravity ≤ n := by
  induction codes generalizing first with
  | nil => simp
  | cons code rest ih =>
    rw [List.foldl_cons, ih, gravity_worst_le_iff, List.forall_mem_cons, and_assoc]

/-- The gravest code is the least bound, since nothing is less grave than `success`. -/
theorem gravity_worstOf_le_iff (codes : List ExitCode) (n : Nat) :
    (worstOf codes).gravity ≤ n ↔ ∀ code ∈ codes, code.gravity ≤ n := by
  rw [worstOf, gravity_foldl_worst_le_iff]
  exact and_iff_right (Nat.zero_le n)

theorem foldl_worst_eq (first : ExitCode) (codes : List ExitCode) :
    codes.foldl worst first = worst first (worstOf codes) :=
  eq_of_bounds fun n => by
    rw [gravity_foldl_worst_le_iff, gravity_worst_le_iff, gravity_worstOf_le_iff]

theorem worstOf_append (codes others : List ExitCode) :
    worstOf (codes ++ others) = worst (worstOf codes) (worstOf others) := by
  rw [worstOf, List.foldl_append, foldl_worst_eq]
  rfl

theorem worstOf_perm {codes others : List ExitCode} (same : codes.Perm others) :
    worstOf codes = worstOf others :=
  eq_of_bounds fun n => by simp only [gravity_worstOf_le_iff, same.mem_iff]

theorem foldl_worst_mem (first : ExitCode) (codes : List ExitCode) :
    codes.foldl worst first ∈ first :: codes := by
  induction codes generalizing first with
  | nil => simp
  | cons code rest ih =>
    have either : worst first code = first ∨ worst first code = code := by
      unfold worst
      split <;> simp
    rcases List.mem_cons.mp (ih (worst first code)) with found | found
    · rw [List.foldl_cons, found]
      rcases either with same | same <;> simp [same]
    · exact List.mem_cons_of_mem _ (List.mem_cons_of_mem _ found)

/-! ## What findings lead to -/

theorem ofCategory_ne_success (c : Category) : ofCategory c ≠ .success := by
  cases c <;> simp [ofCategory]

theorem gravity_ofDiagnostics_le_iff (ds : List Diagnostic) (n : Nat) :
    (ofDiagnostics ds).gravity ≤ n ↔
      ∀ d ∈ ds, d.isError = true → (ofCategory d.category).gravity ≤ n := by
  simp only [ofDiagnostics, gravity_worstOf_le_iff, List.forall_mem_map, List.mem_filter, and_imp]

theorem ofDiagnostics_eq_success_iff (ds : List Diagnostic) :
    ofDiagnostics ds = .success ↔ ∀ d ∈ ds, d.isError = false := by
  rw [eq_success_iff, gravity_ofDiagnostics_le_iff]
  simp only [← eq_success_iff, ofCategory_ne_success, imp_false, Bool.not_eq_true]

theorem ofDiagnostics_append (ds others : List Diagnostic) :
    ofDiagnostics (ds ++ others) = worst (ofDiagnostics ds) (ofDiagnostics others) := by
  simp [ofDiagnostics, worstOf_append]

/-- The codes of parts make up the code of the whole. -/
theorem worstOf_map_ofDiagnostics {α : Type} (parts : List α) (found : α → List Diagnostic) :
    worstOf (parts.map fun part => ofDiagnostics (found part)) =
      ofDiagnostics (parts.flatMap found) := by
  refine eq_of_bounds fun n => ?_
  simp only [gravity_worstOf_le_iff, List.forall_mem_map, gravity_ofDiagnostics_le_iff,
    List.mem_flatMap]
  exact ⟨fun all d ⟨part, listed, member⟩ => all part listed d member,
    fun all part listed d member => all d ⟨part, listed, member⟩⟩

/-- Only errors have a say in where findings lead. -/
theorem ofDiagnostics_congr {ds others : List Diagnostic}
    (same : (ds.filter Diagnostic.isError).Perm (others.filter Diagnostic.isError)) :
    ofDiagnostics ds = ofDiagnostics others :=
  worstOf_perm (same.map _)

/-- Their order has none. -/
theorem ofDiagnostics_perm {ds others : List Diagnostic} (same : ds.Perm others) :
    ofDiagnostics ds = ofDiagnostics others :=
  ofDiagnostics_congr (same.filter _)

/-- Of an error, its category alone counts. -/
theorem ofDiagnostics_map {change : Diagnostic → Diagnostic}
    (kept : ∀ d, (change d).severity = d.severity ∧ (change d).category = d.category)
    (ds : List Diagnostic) : ofDiagnostics (ds.map change) = ofDiagnostics ds := by
  have errors : Diagnostic.isError ∘ change = Diagnostic.isError := by
    funext d
    rw [Function.comp, Diagnostic.isError, Diagnostic.isError, (kept d).1]
  unfold ofDiagnostics
  rw [List.filter_map, errors, List.map_map]
  congr 2
  funext d
  rw [Function.comp, (kept d).2]

end Dialogue.ExitCode
