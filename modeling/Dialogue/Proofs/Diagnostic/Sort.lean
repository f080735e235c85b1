import Dialogue.Diagnostic.Basic

/-!
# The order of findings

Findings are sorted by file, line and column. To sort one more finding is to put it in front of all that come
no earlier, which is why findings at one place keep their order and why leaving some out does not move the
others.
-/
namespace Dialogue.Diagnostic

namespace SortKey

/-- The first key comes no later than the second: by file, then by line, then by column. -/
def Precedes (a b : SortKey) : Prop :=
  a.file < b.file ∨
    a.file = b.file ∧ (a.line < b.line ∨ a.line = b.line ∧ a.column ≤ b.column)

theorem le_iff (a b : SortKey) : a.le b = true ↔ a.Precedes b := by
  unfold SortKey.le Precedes
  by_cases files : a.file = b.file
  · have together : ¬ a.file < b.file := by
      rw [files]
      exact String.lt_irrefl _
    rw [or_iff_right together]
    by_cases lines : a.line = b.line <;> simp [files, lines]
  · simp [files]

theorem le_refl (a : SortKey) : a.le a = true :=
  (le_iff a a).mpr (Or.inr ⟨rfl, Or.inr ⟨rfl, Nat.le_refl _⟩⟩)

theorem le_trans {a b c : SortKey} (first : a.le b = true) (second : b.le c = true) :
    a.le c = true := by
  rw [le_iff] at first second ⊢
  rcases first with file | ⟨file, place⟩
  · rcases second with later | ⟨same, _⟩
    · exact Or.inl (String.lt_trans file later)
    · exact Or.inl (same ▸ file)
  · rcases second with later | ⟨same, further⟩
    · exact Or.inl (file ▸ later)
    · exact Or.inr ⟨file.trans same, by omega⟩

theorem le_total (a b : SortKey) : (a.le b || b.le a) = true := by
  rw [Bool.or_eq_true, le_iff, le_iff]
  rcases Std.lt_trichotomy a.file b.file with before | same | after
  · exact Or.inl (Or.inl before)
  · have place : (a.line < b.line ∨ a.line = b.line ∧ a.column ≤ b.column) ∨
        b.line < a.line ∨ b.line = a.line ∧ b.column ≤ a.column := by omega
    exact place.imp (fun earlier => Or.inr ⟨same, earlier⟩) (fun later => Or.inr ⟨same.symm, later⟩)
  · exact Or.inr (Or.inl after)

end SortKey

/-- The comparison by which findings are sorted. -/
def notAfter (a b : Diagnostic) : Bool := a.sortKey.le b.sortKey

theorem notAfter_trans (a b c : Diagnostic) : notAfter a b = true → notAfter b c = true →
    notAfter a c = true := SortKey.le_trans

theorem notAfter_total (a b : Diagnostic) : (notAfter a b || notAfter b a) = true :=
  SortKey.le_total a.sortKey b.sortKey

theorem sort_perm (ds : List Diagnostic) : (sort ds).Perm ds := List.mergeSort_perm ds notAfter

theorem sort_pairwise (ds : List Diagnostic) : (sort ds).Pairwise fun a b => notAfter a b = true :=
  List.pairwise_mergeSort notAfter_trans notAfter_total ds

/-- One more finding goes between those that come before it and the others. -/
theorem sort_cons (d : Diagnostic) (ds : List Diagnostic) :
    sort ds = (sort ds).filter (fun b => !notAfter d b) ++ (sort ds).filter (notAfter d) ∧
      sort (d :: ds) =
        (sort ds).filter (fun b => !notAfter d b) ++ d :: (sort ds).filter (notAfter d) := by
  obtain ⟨before, behind, inserted, without, earlier⟩ :=
    List.mergeSort_cons notAfter_trans notAfter_total d ds
  have ordered : (before ++ d :: behind).Pairwise fun a b => notAfter a b = true := by
    rw [← inserted]
    exact sort_pairwise (d :: ds)
  have later : ∀ b ∈ behind, notAfter d b = true :=
    (List.pairwise_cons.mp (List.pairwise_append.mp ordered).2.1).1
  have first : (before ++ behind).filter (fun b => !notAfter d b) = before := by
    have all : before.filter (fun b => !notAfter d b) = before := List.filter_eq_self.mpr earlier
    have noLater : behind.filter (fun b => !notAfter d b) = [] := by
      simpa [List.filter_eq_nil_iff] using later
    rw [List.filter_append, all, noLater, List.append_nil]
  have second : (before ++ behind).filter (notAfter d) = behind := by
    have all : behind.filter (notAfter d) = behind := List.filter_eq_self.mpr later
    have noEarlier : before.filter (notAfter d) = [] := by
      simpa [List.filter_eq_nil_iff] using earlier
    rw [List.filter_append, all, noEarlier, List.nil_append]
  have whole : sort ds = before ++ behind := without
  rw [whole, first, second]
  exact ⟨rfl, inserted⟩

/-- Findings with the same key keep their order. -/
theorem filter_sort (ds : List Diagnostic) (key : SortKey) :
    (sort ds).filter (fun d => d.sortKey = key) = ds.filter fun d => d.sortKey = key := by
  induction ds with
  | nil => simp [sort]
  | cons d rest ih =>
    obtain ⟨split, inserted⟩ := sort_cons d rest
    rw [inserted, List.filter_append, List.filter_cons, List.filter_cons, ← ih]
    by_cases here : d.sortKey = key
    · -- Nothing with this key comes before `d`, and everything with it comes no earlier.
      have noEarlier : ((sort rest).filter (fun b => !notAfter d b)).filter
          (fun b => b.sortKey = key) = [] := by
        simp only [List.filter_filter, List.filter_eq_nil_iff, Bool.and_eq_true, decide_eq_true_eq,
          Bool.not_eq_true', not_and]
        rintro b _ rfl
        simp [notAfter, here, SortKey.le_refl]
      have all : ((sort rest).filter (notAfter d)).filter (fun b => b.sortKey = key) =
          (sort rest).filter fun b => b.sortKey = key := by
        rw [List.filter_filter]
        refine List.filter_congr fun b _ => ?_
        by_cases same : b.sortKey = key
        · simp [notAfter, here, same, SortKey.le_refl]
        · simp [same]
      simp [here, noEarlier, all]
    · simp only [here, decide_false, Bool.false_eq_true, if_false]
      rw [← List.filter_append, ← split]

/-- Leaving findings out does not move the others. -/
theorem sort_sublist {part all : List Diagnostic} (kept : part.Sublist all) :
    (sort part).Sublist (sort all) := by
  induction kept with
  | slnil => exact List.Sublist.refl _
  | @cons part all d _ ih =>
    obtain ⟨split, inserted⟩ := sort_cons d all
    rw [inserted]
    refine ih.trans ?_
    conv => lhs; rw [split]
    exact (List.Sublist.refl _).append (List.sublist_cons_self _ _)
  | @cons_cons part all d _ ih =>
    rw [(sort_cons d part).2, (sort_cons d all).2]
    exact (ih.filter _).append ((ih.filter _).cons_cons d)

end Dialogue.Diagnostic
