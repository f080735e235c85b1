import Dialogue.Proofs.Json.Decode
import Mathlib.Data.List.Forall2

/-!
# Where decoded values come from

A record that was decoded tells of each of its fields where it was found: in the entry of its name or in the item at
its place, or else nowhere, and then the field is its default. Each decoder is inverted once here; what is said of
decoded values elsewhere follows from that.
-/
namespace Dialogue.Json

theorem bind_eq_ok {ε α β : Type} {first : Except ε α} {next : α → Except ε β} {b : β}
    (done : (first >>= next) = .ok b) : ∃ a, first = .ok a ∧ next a = .ok b := by
  cases first with
  | error e => cases done
  | ok a => exact ⟨a, rfl, done⟩

theorem map_eq_ok {ε α β : Type} {f : α → β} {first : Except ε α} {b : β}
    (done : f <$> first = .ok b) : ∃ a, first = .ok a ∧ f a = b := by
  cases first with
  | error e => cases done
  | ok a => exact ⟨a, rfl, Except.ok.inj done⟩

/-! ## Lists that are read item by item -/

section Lists

variable {ε α β γ : Type} {f : α → Except ε β} {items : List α} {results : List β} {b : β}

theorem forall₂_of_mapM_ok (done : items.mapM f = .ok results) :
    List.Forall₂ (fun a b => f a = .ok b) items results := by
  induction items generalizing results with
  | nil =>
    cases done
    exact .nil
  | cons item rest ih =>
    rw [List.mapM_cons] at done
    obtain ⟨first, now, done⟩ := bind_eq_ok done
    obtain ⟨others, later, done⟩ := bind_eq_ok done
    cases done
    exact .cons now (ih later)

theorem getElem?_of_mapM_ok (done : items.mapM f = .ok results) {i : Nat} (found : results[i]? = some b) :
    ∃ a, items[i]? = some a ∧ f a = .ok b := by
  have pairs := forall₂_of_mapM_ok done
  obtain ⟨inside, rfl⟩ := List.getElem?_eq_some_iff.mp found
  have listed : i < items.length := pairs.length_eq ▸ inside
  exact ⟨items[i], List.getElem?_eq_getElem listed, pairs.get listed inside⟩

/-- The first result of a kind comes from the first item of that kind, and where there is none there is no such
item. -/
theorem find?_of_mapM_ok {p : α → Bool} {q : β → Bool} (alike : ∀ a b, f a = .ok b → p a = q b)
    (done : items.mapM f = .ok results) : (items.find? p).mapM f = .ok (results.find? q) := by
  have pairs := forall₂_of_mapM_ok done
  clear done
  induction pairs with
  | nil => rfl
  | @cons item result _ _ now _ ih =>
    rw [List.find?_cons, List.find?_cons, alike item result now]
    cases q result with
    | true =>
      change some <$> f item = .ok (some result)
      rw [now]
      rfl
    | false => exact ih

theorem mem_of_mapM_ok (done : items.mapM f = .ok results) (member : b ∈ results) :
    ∃ a ∈ items, f a = .ok b := by
  obtain ⟨i, found⟩ := List.mem_iff_getElem?.mp member
  obtain ⟨a, listed, read⟩ := getElem?_of_mapM_ok done found
  exact ⟨a, List.mem_of_getElem? listed, read⟩

theorem mapM_some_of_mapM_ok {g : α → Option γ} {h : β → γ}
    (each : ∀ a b, f a = .ok b → g a = some (h b)) (done : items.mapM f = .ok results) :
    items.mapM g = some (results.map h) := by
  have pairs := forall₂_of_mapM_ok done
  clear done
  induction pairs with
  | nil => rfl
  | cons now _ ih =>
    rw [List.mapM_cons, each _ _ now, ih]
    rfl

end Lists

/-- What a tree holds for a field: the first entry of its name or, in an array, the item at its place. -/
def member (tree : Json) (place : Nat) (name : String) : Option Json :=
  match tree with
  | .obj entries => Table.lookup name entries
  | .arr items => items[place]?
  | _ => none

/-! ## Fields -/

namespace Fields

variable {α β : Type}

/-- The fields were read off a tree and held `a`. `place` is the place of the first of them in an array. -/
inductive Taken (fields : Fields α) (origin : Origin) (place : Nat) : Json → α → Prop
  | object {entries : List (String × Json)} {a : α} (read : fields.ofObject origin entries = .ok a) :
    Taken fields origin place (.obj entries) a
  | array {items rest : List Json} {a : α} (expected : String) (index : Nat)
    (read : fields.ofArray origin expected index (items.drop place) = .ok (a, rest)) :
    Taken fields origin place (.arr items) a

/-- In an array the fields take one item each, as long as there are any. -/
def Sequential (fields : Fields α) : Prop :=
  ∀ origin expected index items a rest,
    fields.ofArray origin expected index items = .ok (a, rest) → rest = items.drop fields.names.length

theorem locate?_value (name : String) (start : Nat) (entries : List (String × Json)) :
    (locate? name start entries).map Occurrence.value = Table.lookup name entries := by
  induction entries generalizing start with
  | nil => rfl
  | cons entry rest ih =>
    obtain ⟨key, value⟩ := entry
    by_cases same : key = name
    · simp [locate?, Table.lookup, same]
    · simp [locate?, Table.lookup, same, ih]

theorem field_ofArray {name : String} {d : Decoder α} {default : Option α} {origin : Origin}
    {expected : String} {index : Nat} {items rest : List Json} {a : α}
    (done : (field name d default).ofArray origin expected index items = .ok (a, rest)) :
    (items = [] ∧ default = some a ∧ rest = []) ∨ ∃ item, items = item :: rest ∧ d origin item = .ok a := by
  simp only [field] at done
  split at done
  · split at done
    · cases done
      exact Or.inl ⟨rfl, rfl, rfl⟩
    · cases done
  · next item behind =>
    obtain ⟨taken, decoded, done⟩ := bind_eq_ok done
    cases done
    exact Or.inr ⟨item, rfl, decoded⟩

/-- A field is decoded from what the tree holds for it; if that is nothing, it is its default. -/
theorem Taken.field {name : String} {d : Decoder α} {default : Option α} {origin : Origin} {place : Nat}
    {tree : Json} {a : α} (taken : (Fields.field name d default).Taken origin place tree a) :
    (tree.member place name = none ∧ default = some a) ∨
      ∃ part, tree.member place name = some part ∧ d origin part = .ok a := by
  cases taken with
  | @object entries a read =>
    have found := locate?_value name 0 entries
    simp only [Fields.field] at read
    split at read
    · next missing =>
      rw [missing] at found
      split at read
      · cases read
        exact Or.inl ⟨found.symm, rfl⟩
      · cases read
    · next occurrence located =>
      rw [located] at found
      split at read
      · cases read
      · cases read
      · next decoded _ =>
        cases read
        exact Or.inr ⟨occurrence.value, found.symm, decoded⟩
  | @array items rest a expected index read =>
    have found : items[place]? = (items.drop place).head? := List.head?_drop.symm
    rcases field_ofArray read with ⟨empty, absent, _⟩ | ⟨item, front, decoded⟩
    · rw [empty] at found
      exact Or.inl ⟨found, absent⟩
    · rw [front] at found
      exact Or.inr ⟨item, found, decoded⟩

theorem Taken.map {fields : Fields α} {f : α → β} {origin : Origin} {place : Nat} {tree : Json} {b : β}
    (taken : (f <$> fields).Taken origin place tree b) :
    ∃ a, fields.Taken origin place tree a ∧ f a = b := by
  cases taken with
  | object read =>
    obtain ⟨a, held, rfl⟩ := map_eq_ok read
    exact ⟨a, .object held, rfl⟩
  | array expected index read =>
    obtain ⟨⟨a, behind⟩, held, done⟩ := bind_eq_ok read
    cases done
    exact ⟨a, .array expected index held, rfl⟩

/-- Of two groups of fields the second stands behind the first. -/
theorem Taken.seq {fs : Fields (α → β)} {xs : Fields α} {origin : Origin} {place : Nat} {tree : Json}
    {b : β} (taken : (fs <*> xs).Taken origin place tree b) :
    ∃ f a, fs.Taken origin place tree f ∧
      (fs.Sequential → xs.Taken origin (place + fs.names.length) tree a) ∧ f a = b := by
  cases taken with
  | @object entries b read =>
    change (apply fs xs).ofObject origin entries = _ at read
    simp only [apply] at read
    split at read
    · next f a first second =>
      cases read
      exact ⟨f, a, .object first, fun _ => .object second, rfl⟩
    · cases read
    · cases read
    · cases read
  | @array items rest b expected index read =>
    obtain ⟨⟨f, behind⟩, first, read⟩ := bind_eq_ok read
    obtain ⟨⟨a, after⟩, second, read⟩ := bind_eq_ok read
    cases read
    refine ⟨f, a, .array expected index first, fun sequential => ?_, rfl⟩
    rw [sequential _ _ _ _ _ _ first, List.drop_drop] at second
    exact .array expected _ second

theorem sequential_field (name : String) (d : Decoder α) (default : Option α) :
    (field name d default).Sequential := by
  intro origin expected index items a rest done
  rcases field_ofArray done with ⟨rfl, _, rfl⟩ | ⟨item, rfl, _⟩
  · rfl
  · rfl

theorem Sequential.map {fields : Fields α} (f : α → β) (sequential : fields.Sequential) :
    (f <$> fields).Sequential := by
  intro origin expected index items b rest done
  obtain ⟨⟨a, behind⟩, held, done⟩ := bind_eq_ok done
  cases done
  exact sequential _ _ _ _ _ _ held

theorem Sequential.seq {fs : Fields (α → β)} {xs : Fields α} (left : fs.Sequential)
    (right : xs.Sequential) : (fs <*> xs).Sequential := by
  intro origin expected index items b rest done
  obtain ⟨⟨f, behind⟩, first, done⟩ := bind_eq_ok done
  obtain ⟨⟨a, after⟩, second, done⟩ := bind_eq_ok done
  cases done
  rw [right _ _ _ _ _ _ second, left _ _ _ _ _ _ first, List.drop_drop]
  exact congrArg (items.drop ·) (List.length_append ..).symm

end Fields

/-! ## Decoders -/

namespace Decoder

variable {α β : Type}

theorem text_ok {origin : Origin} {tree : Json} {s : String} (done : text origin tree = .ok s) :
    tree = .str s := by
  unfold text textAs at done
  split at done
  · cases done
    rfl
  · cases done

theorem list_ok {d : Decoder α} {origin : Origin} {tree : Json} {values : List α}
    (done : list d origin tree = .ok values) :
    ∃ items, tree = .arr items ∧ items.mapM (d origin.enter) = .ok values := by
  unfold list at done
  split at done
  · exact ⟨_, rfl, done⟩
  · cases done

theorem keyed_ok {variants : List (String × Decoder α)} {origin : Origin} {tree : Json} {a : α}
    (done : keyed variants origin tree = .ok a) :
    ∃ key part d, tree = .obj [(key, part)] ∧ Table.lookup key variants = some d ∧
      d origin.enter part = .ok a := by
  unfold keyed at done
  split at done
  · obtain ⟨_, _, done⟩ := bind_eq_ok done
    cases done
  · next key part =>
    obtain ⟨d, chosen, done⟩ := bind_eq_ok done
    dsimp only at chosen
    split at chosen
    · next found =>
      cases chosen
      exact ⟨key, part, d, rfl, found, done⟩
    · cases chosen
  · cases done
  · cases done

theorem record_ok {expected : String} {fields : Fields α} {origin : Origin} {tree : Json} {a : α}
    (done : record expected fields origin tree = .ok a) : fields.Taken origin.enter 0 tree a := by
  unfold record at done
  split at done
  · unfold settleFields at done
    split at done
    · next read _ =>
      cases done
      exact .object read
    · cases done
    · cases done
    · cases done
  · dsimp only at done
    split at done
    · cases done
    · next read =>
      split at done
      · cases done
      · cases done
        exact .array _ _ read
  · cases done

end Decoder

end Dialogue.Json
