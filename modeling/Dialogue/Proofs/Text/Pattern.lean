import Dialogue.Text.Pattern

/-!
# What patterns match

A pattern stands for a set of texts (`Matches`). Matching by derivatives decides this set: the derivative of a
pattern by a character matches what the pattern matches behind that character.
-/
namespace Dialogue.Text.Pattern

/-- The texts that a pattern stands for. -/
inductive Matches : Pattern → List Char → Prop
  | empty : Matches .empty []
  | one {accepts : Char → Bool} {c : Char} : accepts c = true → Matches (.one accepts) [c]
  | seq {p q : Pattern} {xs ys : List Char} :
      Matches p xs → Matches q ys → Matches (.seq p q) (xs ++ ys)
  | left {p q : Pattern} {xs : List Char} : Matches p xs → Matches (.alt p q) xs
  | right {p q : Pattern} {xs : List Char} : Matches q xs → Matches (.alt p q) xs
  | done {p : Pattern} : Matches (.star p) []
  | again {p : Pattern} {xs ys : List Char} :
      Matches p xs → Matches (.star p) ys → Matches (.star p) (xs ++ ys)

/-! ## Inversion -/

@[simp] theorem not_matches_nothing (xs : List Char) : ¬Matches .nothing xs := by
  intro matched
  cases matched

@[simp] theorem matches_empty_iff (xs : List Char) : Matches .empty xs ↔ xs = [] := by
  constructor
  · intro matched
    cases matched
    rfl
  · rintro rfl
    exact .empty

@[simp] theorem matches_one_iff (accepts : Char → Bool) (xs : List Char) :
    Matches (.one accepts) xs ↔ ∃ c, accepts c = true ∧ xs = [c] := by
  constructor
  · intro matched
    cases matched with
    | one accepted => exact ⟨_, accepted, rfl⟩
  · rintro ⟨c, accepted, rfl⟩
    exact .one accepted

@[simp] theorem matches_char_iff (c : Char) (xs : List Char) : Matches (char c) xs ↔ xs = [c] := by
  simp [char]

theorem matches_seq_iff (p q : Pattern) (zs : List Char) :
    Matches (.seq p q) zs ↔ ∃ xs ys, zs = xs ++ ys ∧ Matches p xs ∧ Matches q ys := by
  constructor
  · intro matched
    cases matched with
    | seq first second => exact ⟨_, _, rfl, first, second⟩
  · rintro ⟨xs, ys, rfl, first, second⟩
    exact .seq first second

theorem matches_alt_iff (p q : Pattern) (xs : List Char) :
    Matches (.alt p q) xs ↔ Matches p xs ∨ Matches q xs := by
  constructor
  · intro matched
    cases matched with
    | left here => exact Or.inl here
    | right here => exact Or.inr here
  · rintro (here | here)
    · exact .left here
    · exact .right here

/-- A repetition that matches something has a first part that matches something. -/
theorem matches_star_cons_iff (p : Pattern) (c : Char) (zs : List Char) :
    Matches (.star p) (c :: zs) ↔
      ∃ xs ys, zs = xs ++ ys ∧ Matches p (c :: xs) ∧ Matches (.star p) ys := by
  constructor
  · generalize whole : Pattern.star p = repeated
    generalize text : c :: zs = cs
    intro matched
    induction matched with
    | done => cases text
    | @again p' xs ys first later _ ih =>
      cases whole
      cases xs with
      | nil => exact ih rfl text
      | cons x xs =>
        cases text
        exact ⟨xs, ys, rfl, first, later⟩
    | _ => cases whole
  · rintro ⟨xs, ys, rfl, first, later⟩
    exact .again first later

/-! ## Derivatives -/

theorem nullable_iff (p : Pattern) : p.nullable = true ↔ Matches p [] := by
  induction p with
  | nothing => simp [nullable]
  | empty => simp [nullable]
  | one accepts => simp [nullable]
  | seq p q first second =>
    simp only [nullable, Bool.and_eq_true, first, second, matches_seq_iff, List.nil_eq,
      List.append_eq_nil_iff]
    constructor
    · exact fun ⟨here, there⟩ => ⟨[], [], ⟨rfl, rfl⟩, here, there⟩
    · rintro ⟨_, _, ⟨rfl, rfl⟩, here, there⟩
      exact ⟨here, there⟩
  | alt p q first second => simp only [nullable, Bool.or_eq_true, first, second, matches_alt_iff]
  | star p _ => exact ⟨fun _ => .done, fun _ => rfl⟩

theorem matches_thenBy_iff (p q : Pattern) (xs : List Char) :
    Matches (p.thenBy q) xs ↔ Matches (.seq p q) xs := by
  unfold thenBy
  split
  · simp [matches_seq_iff]
  · simp only [matches_seq_iff, matches_empty_iff]
    constructor
    · exact fun matched => ⟨[], xs, rfl, rfl, matched⟩
    · rintro ⟨_, _, rfl, rfl, matched⟩
      exact matched
  · exact Iff.rfl

theorem matches_orElse_iff (p q : Pattern) (xs : List Char) :
    Matches (p.orElse q) xs ↔ Matches (.alt p q) xs := by
  unfold orElse
  split <;> simp [matches_alt_iff]

theorem matches_derive_iff (c : Char) (p : Pattern) (xs : List Char) :
    Matches (p.derive c) xs ↔ Matches p (c :: xs) := by
  induction p generalizing xs with
  | nothing => simp [derive]
  | empty => simp [derive]
  | one accepts =>
    rw [derive, matches_one_iff]
    constructor
    · intro matched
      split at matched
      next accepted => exact ⟨c, accepted, by rw [(matches_empty_iff xs).mp matched]⟩
      next => exact absurd matched (not_matches_nothing xs)
    · rintro ⟨_, accepted, rfl, rfl⟩
      rw [if_pos accepted]
      exact .empty
  | seq p q first second =>
    -- the character belongs to the first part, unless that part is empty
    have split : Matches (.seq p q) (c :: xs) ↔
        Matches (.seq (p.derive c) q) xs ∨ p.nullable = true ∧ Matches (q.derive c) xs := by
      simp only [matches_seq_iff, first, second, nullable_iff]
      constructor
      · rintro ⟨xs', ys, text, here, there⟩
        rcases List.cons_eq_append_iff.mp text with ⟨rfl, rfl⟩ | ⟨xs'', rfl, rfl⟩
        · exact Or.inr ⟨here, there⟩
        · exact Or.inl ⟨xs'', ys, rfl, here, there⟩
      · rintro (⟨xs', ys, rfl, here, there⟩ | ⟨here, there⟩)
        · exact ⟨c :: xs', ys, rfl, here, there⟩
        · exact ⟨[], c :: xs, rfl, here, there⟩
    rw [split, derive]
    by_cases skipped : p.nullable = true <;>
      simp [skipped, matches_orElse_iff, matches_alt_iff, matches_thenBy_iff]
  | alt p q first second => simp only [derive, matches_orElse_iff, matches_alt_iff, first, second]
  | star p ih => simp only [derive, matches_thenBy_iff, matches_seq_iff, ih, matches_star_cons_iff]

/-- Matching decides what a pattern stands for. -/
theorem isMatch_iff (p : Pattern) (s : String) : p.isMatch s = true ↔ p.Matches s.toList := by
  unfold isMatch
  generalize s.toList = cs
  induction cs generalizing p with
  | nil => exact nullable_iff p
  | cons c rest ih => exact (ih (p.derive c)).trans (matches_derive_iff c p rest)

/-! ## Repeated characters -/

theorem matches_star_one_iff (accepts : Char → Bool) (xs : List Char) :
    Matches (.star (.one accepts)) xs ↔ ∀ c ∈ xs, accepts c = true := by
  induction xs with
  | nil => simp [Matches.done]
  | cons c rest ih =>
    rw [matches_star_cons_iff, List.forall_mem_cons, ← ih]
    simp only [matches_one_iff, List.cons.injEq]
    constructor
    · rintro ⟨_, _, rfl, ⟨_, accepted, rfl, rfl⟩, later⟩
      exact ⟨accepted, later⟩
    · rintro ⟨accepted, later⟩
      exact ⟨[], rest, rfl, ⟨c, accepted, rfl, rfl⟩, later⟩

/-- A character and then others. -/
theorem matches_headed_iff (head tail : Char → Bool) (xs : List Char) :
    Matches (.seq (.one head) (.star (.one tail))) xs ↔
      ∃ c rest, xs = c :: rest ∧ head c = true ∧ ∀ d ∈ rest, tail d = true := by
  simp only [matches_seq_iff, matches_one_iff, matches_star_one_iff]
  constructor
  · rintro ⟨_, rest, rfl, ⟨c, accepted, rfl⟩, later⟩
    exact ⟨c, rest, rfl, accepted, later⟩
  · rintro ⟨c, rest, rfl, accepted, later⟩
    exact ⟨[c], rest, rfl, ⟨c, accepted, rfl⟩, later⟩

theorem matches_plus_one_iff (accepts : Char → Bool) (xs : List Char) :
    Matches (plus (.one accepts)) xs ↔ xs ≠ [] ∧ ∀ c ∈ xs, accepts c = true := by
  rw [plus, matches_headed_iff]
  constructor
  · rintro ⟨c, rest, rfl, accepted, later⟩
    exact ⟨List.cons_ne_nil _ _, List.forall_mem_cons.mpr ⟨accepted, later⟩⟩
  · rintro ⟨nonempty, all⟩
    obtain ⟨c, rest, rfl⟩ := List.exists_cons_of_ne_nil nonempty
    obtain ⟨accepted, later⟩ := List.forall_mem_cons.mp all
    exact ⟨c, rest, rfl, accepted, later⟩

/-! ## Joined parts -/

theorem intercalate_cons_eq (separator : Char) (first : List Char) (rest : List (List Char)) :
    [separator].intercalate (first :: rest) = first ++ rest.flatMap (separator :: ·) := by
  induction rest generalizing first with
  | nil => simp
  | cons next rest ih =>
    rw [List.intercalate_cons_cons, ih, List.flatMap_cons, List.append_assoc]
    rfl

theorem matches_behind_iff (separator : Char) (p : Pattern) (xs : List Char) :
    Matches (.seq (char separator) p) xs ↔ ∃ part, xs = separator :: part ∧ Matches p part := by
  simp only [matches_seq_iff, matches_char_iff]
  constructor
  · rintro ⟨_, part, rfl, rfl, matched⟩
    exact ⟨part, rfl, matched⟩
  · rintro ⟨part, rfl, matched⟩
    exact ⟨[separator], part, rfl, rfl, matched⟩

theorem matches_star_behind_iff (separator : Char) (p : Pattern) (xs : List Char) :
    Matches (.star (.seq (char separator) p)) xs ↔
      ∃ parts : List (List Char), xs = parts.flatMap (separator :: ·) ∧
        ∀ part ∈ parts, Matches p part := by
  constructor
  -- each round of the repetition gives one part
  · generalize whole : Pattern.star (.seq (char separator) p) = repeated
    intro matched
    induction matched with
    | done => exact ⟨[], rfl, by simp⟩
    | again first later _ ih =>
      cases whole
      obtain ⟨part, rfl, here⟩ := (matches_behind_iff separator p _).mp first
      obtain ⟨parts, rfl, there⟩ := ih rfl
      exact ⟨part :: parts, rfl, List.forall_mem_cons.mpr ⟨here, there⟩⟩
    | _ => cases whole
  · rintro ⟨parts, rfl, all⟩
    induction parts with
    | nil => exact .done
    | cons part parts ih =>
      obtain ⟨here, there⟩ := List.forall_mem_cons.mp all
      exact .again ((matches_behind_iff separator p _).mpr ⟨part, rfl, here⟩) (ih there)

/-- A pattern and then others, each behind a separator, match parts that are joined by the separator. -/
theorem matches_joined_iff (separator : Char) (p q : Pattern) (xs : List Char) :
    Matches (.seq p (.star (.seq (char separator) q))) xs ↔
      ∃ first rest, xs = [separator].intercalate (first :: rest) ∧ Matches p first ∧
        ∀ part ∈ rest, Matches q part := by
  simp only [matches_seq_iff, matches_star_behind_iff, intercalate_cons_eq]
  constructor
  · rintro ⟨first, _, rfl, here, rest, rfl, there⟩
    exact ⟨first, rest, rfl, here, there⟩
  · rintro ⟨first, rest, rfl, here, there⟩
    exact ⟨first, _, rfl, here, rest, rfl, there⟩

end Dialogue.Text.Pattern
