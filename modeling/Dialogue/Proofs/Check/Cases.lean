import Dialogue.Check.References

/-!
# Repeated cases of a match block

The cases of a block are told apart by being the default or by the text of their pattern. Reading from the
first case on, a case is reported when its key has been met before. So nothing is reported when the keys
are distinct, and of two cases with the same key the later one is.
-/
namespace Dialogue.Check

/-- What tells a case apart from the others of its block. -/
inductive CaseKey where
  | fallback
  | pattern (text : String)
  deriving DecidableEq, Repr

namespace CaseKey

/-- The key as findings name it. -/
def label : CaseKey → String
  | .fallback => ":default"
  | .pattern text => text

/-- Whether the key has been met, by the patterns seen and by whether there was a default. -/
def Met (seen : List String) (hasDefault : Bool) : CaseKey → Prop
  | .fallback => hasDefault = true
  | .pattern text => text ∈ seen

end CaseKey

def caseKey? (c : MatchCase) : Option CaseKey :=
  if c.isDefault then some .fallback else c.pattern.canonicalText?.map .pattern

theorem caseKey?_eq_fallback_iff (c : MatchCase) :
    caseKey? c = some .fallback ↔ c.isDefault = true := by
  unfold caseKey?
  cases c.isDefault <;> simp

theorem caseKey?_eq_pattern_iff (c : MatchCase) (text : String) :
    caseKey? c = some (.pattern text) ↔
      c.isDefault = false ∧ c.pattern.canonicalText? = some text := by
  unfold caseKey?
  cases c.isDefault <;> simp

/-- The finding on a case that comes too late. -/
def repeatFinding (block : MatchBlock) (c : MatchCase) (key : CaseKey) : Finding :=
  ⟨.duplicateMatchCase key.label, c.range.or block.range⟩

/-- The step over one case: it is reported if its key has been met, and the key is met from then on. -/
theorem repeatedCases_cons (block : MatchBlock) (seen : List String) (hasDefault : Bool)
    (c : MatchCase) (rest : List MatchCase) :
    ∃ new seen' hasDefault', repeatedCases block seen hasDefault (c :: rest) =
        new ++ repeatedCases block seen' hasDefault' rest ∧
      (∀ f, f ∈ new ↔
        ∃ key, caseKey? c = some key ∧ key.Met seen hasDefault ∧ f = repeatFinding block c key) ∧
      ∀ key, key.Met seen' hasDefault' ↔ key.Met seen hasDefault ∨ caseKey? c = some key := by
  cases fallback : c.isDefault with
  | true =>
    have own := (caseKey?_eq_fallback_iff c).mpr fallback
    refine ⟨_, seen, true, by simp only [repeatedCases, fallback, if_true]; rfl, ?_, ?_⟩
    · intro f
      cases hasDefault <;> simp [own, CaseKey.Met, repeatFinding, CaseKey.label]
    · intro key
      cases key <;> simp [own, CaseKey.Met]
  | false =>
    cases text : c.pattern.canonicalText? with
    | none =>
      have own : caseKey? c = none := by simp [caseKey?, fallback, text]
      refine ⟨[], seen, hasDefault, by simp [repeatedCases, fallback, text], ?_, ?_⟩
      · simp [own]
      · simp [own]
    | some pattern =>
      have own := (caseKey?_eq_pattern_iff c pattern).mpr ⟨fallback, text⟩
      refine ⟨_, pattern :: seen, hasDefault,
        by simp only [repeatedCases, fallback, text, Bool.false_eq_true, if_false]; rfl, ?_, ?_⟩
      · intro f
        by_cases taken : pattern ∈ seen <;>
          simp [own, taken, CaseKey.Met, repeatFinding, CaseKey.label]
      · intro key
        cases key with
        | fallback => simp [own, CaseKey.Met]
        | pattern other => simp [own, CaseKey.Met, eq_comm, or_comm]

theorem met_case_reported {block : MatchBlock} {seen : List String} {hasDefault : Bool}
    {cases : List MatchCase} {c : MatchCase} {key : CaseKey} (member : c ∈ cases)
    (own : caseKey? c = some key) (met : key.Met seen hasDefault) :
    repeatFinding block c key ∈ repeatedCases block seen hasDefault cases := by
  induction cases generalizing seen hasDefault with
  | nil => simp at member
  | cons d rest ih =>
    obtain ⟨new, seen', hasDefault', equal, reported, noted⟩ :=
      repeatedCases_cons block seen hasDefault d rest
    rw [equal]
    rcases List.mem_cons.mp member with rfl | later
    · exact List.mem_append_left _ ((reported _).mpr ⟨key, own, met, rfl⟩)
    · exact List.mem_append_right _ (ih later ((noted key).mpr (Or.inl met)))

/-- Of two cases with the same key the later one is reported. -/
theorem repeated_case_reported {block : MatchBlock} {seen : List String} {hasDefault : Bool}
    {cases : List MatchCase} {first c : MatchCase} {key : CaseKey}
    (pair : [first, c].Sublist cases) (firstOwn : caseKey? first = some key)
    (own : caseKey? c = some key) :
    repeatFinding block c key ∈ repeatedCases block seen hasDefault cases := by
  induction cases generalizing seen hasDefault with
  | nil => simp at pair
  | cons d rest ih =>
    obtain ⟨new, seen', hasDefault', equal, _, noted⟩ :=
      repeatedCases_cons block seen hasDefault d rest
    rw [equal]
    apply List.mem_append_right
    cases pair with
    | cons _ later => exact ih later
    | cons_cons _ single =>
      have member : c ∈ rest := List.singleton_sublist.mp single
      exact met_case_reported member own ((noted key).mpr (Or.inr firstOwn))

/-- Distinct keys that have not been met give no finding. -/
theorem repeatedCases_eq_nil {block : MatchBlock} {seen : List String} {hasDefault : Bool}
    {cases : List MatchCase} (distinct : (cases.filterMap caseKey?).Nodup)
    (fresh : ∀ key ∈ cases.filterMap caseKey?, ¬key.Met seen hasDefault) :
    repeatedCases block seen hasDefault cases = [] := by
  induction cases generalizing seen hasDefault with
  | nil => rfl
  | cons c rest ih =>
    obtain ⟨new, seen', hasDefault', equal, reported, noted⟩ :=
      repeatedCases_cons block seen hasDefault c rest
    have nothing : new = [] := by
      apply List.eq_nil_iff_forall_not_mem.mpr
      intro f member
      obtain ⟨key, own, met, _⟩ := (reported f).mp member
      exact fresh key (List.mem_filterMap.mpr ⟨c, by simp, own⟩) met
    rw [equal, nothing, List.nil_append]
    have tail : (rest.filterMap caseKey?).Sublist ((c :: rest).filterMap caseKey?) :=
      (List.sublist_cons_self c rest).filterMap caseKey?
    refine ih (distinct.sublist tail) ?_
    intro key member met
    rcases (noted key).mp met with old | own
    · exact fresh key (tail.subset member) old
    · rw [List.filterMap_cons, own] at distinct
      exact (List.nodup_cons.mp distinct).1 member

end Dialogue.Check
