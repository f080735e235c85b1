import Dialogue.Table

/-!
# Reading and filling tables

A table that is filled entry by entry, the first of a name counting, has the names of all entries in the
order in which they come up first, holds nothing that was not offered, and drops nothing when the names
are distinct. When the last of a name counts instead, a look-up reads the entries from the end.
-/
namespace Dialogue.Table

variable {α : Type}

/-! ## Reading -/

@[simp] theorem keys_empty : (empty : Table α).keys = [] := rfl

theorem contains_iff (t : Table α) (name : String) : t.contains name = true ↔ name ∈ t.keys := by
  simp [contains]

theorem mem_of_lookup_eq_some {name : String} {value : α} {entries : List (String × α)}
    (found : lookup name entries = some value) : (name, value) ∈ entries := by
  induction entries with
  | nil => simp [lookup] at found
  | cons entry rest ih =>
    obtain ⟨key, old⟩ := entry
    by_cases equal : key = name
    · simp only [lookup, equal, if_true, Option.some.injEq] at found
      simp [equal, found]
    · simp only [lookup, equal, if_false] at found
      exact List.mem_cons_of_mem _ (ih found)

theorem lookup_eq_some_of_mem {name : String} {value : α} {entries : List (String × α)}
    (distinct : (entries.map Prod.fst).Nodup) (member : (name, value) ∈ entries) :
    lookup name entries = some value := by
  induction entries with
  | nil => simp at member
  | cons entry rest ih =>
    obtain ⟨key, old⟩ := entry
    obtain ⟨fresh, later⟩ := List.nodup_cons.mp distinct
    rcases List.mem_cons.mp member with first | member
    · cases first
      simp [lookup]
    · have different : key ≠ name := by
        intro equal
        subst equal
        exact fresh (List.mem_map.mpr ⟨_, member, rfl⟩)
      simp only [lookup, different, if_false]
      exact ih later member

/-- What a look-up finds is an entry, and every entry is found. -/
theorem get?_eq_some_iff (t : Table α) (name : String) (value : α) :
    t.get? name = some value ↔ (name, value) ∈ t.entries :=
  ⟨mem_of_lookup_eq_some, lookup_eq_some_of_mem t.distinct⟩

theorem lookup_append (name : String) (first second : List (String × α)) :
    lookup name (first ++ second) = (lookup name first).or (lookup name second) := by
  induction first with
  | nil => rfl
  | cons entry rest ih =>
    obtain ⟨key, value⟩ := entry
    by_cases equal : key = name
    · simp [lookup, equal]
    · simp [lookup, equal, ih]

theorem lookup_eq_none_iff (name : String) (entries : List (String × α)) :
    lookup name entries = none ↔ name ∉ entries.map Prod.fst := by
  induction entries with
  | nil => simp [lookup]
  | cons entry rest ih =>
    obtain ⟨key, value⟩ := entry
    by_cases equal : key = name
    · simp [lookup, equal]
    · simp [lookup, equal, ih, Ne.symm equal]

theorem lookup_eq_find? (name : String) (entries : List (String × α)) :
    lookup name entries = (entries.find? fun entry => entry.1 = name).map Prod.snd := by
  induction entries with
  | nil => rfl
  | cons entry rest ih =>
    by_cases equal : entry.1 = name
    · simp [lookup, equal]
    · simp [lookup, equal, ih]

/-! ## Filling -/

theorem entries_add_of_fresh {t : Table α} {name : String} (value : α) (fresh : name ∉ t.keys) :
    (t.add name value).entries = t.entries ++ [(name, value)] := by
  unfold keys at fresh
  rw [add, dif_pos fresh]

theorem add_of_mem {t : Table α} {name : String} (value : α) (taken : name ∈ t.keys) :
    t.add name value = t := by
  unfold keys at taken
  rw [add, dif_neg (not_not_intro taken)]

theorem mem_keys_add (t : Table α) (name key : String) (value : α) :
    key ∈ (t.add name value).keys ↔ key ∈ t.keys ∨ key = name := by
  by_cases taken : name ∈ t.keys
  · rw [add_of_mem value taken]
    constructor
    · exact Or.inl
    · rintro (member | rfl)
      · exact member
      · exact taken
  · simp only [keys, entries_add_of_fresh value taken, List.map_append, List.mem_append,
      List.map_cons, List.map_nil, List.mem_singleton]

theorem mem_entries_add {t : Table α} {name : String} {value : α} {entry : String × α}
    (member : entry ∈ (t.add name value).entries) : entry ∈ t.entries ∨ entry = (name, value) := by
  by_cases taken : name ∈ t.keys
  · rw [add_of_mem value taken] at member
    exact Or.inl member
  · simpa [entries_add_of_fresh value taken] using member

/-- An entry that is offered goes behind those that are there. -/
theorem entries_prefix_add (t : Table α) (name : String) (value : α) :
    t.entries <+: (t.add name value).entries := by
  by_cases taken : name ∈ t.keys
  · simp [add_of_mem value taken]
  · rw [entries_add_of_fresh value taken]
    exact List.prefix_append _ _

/-- An entry that is offered counts when the name has none. -/
theorem get?_add (t : Table α) (name key : String) (value : α) :
    (t.add name value).get? key = (t.get? key).or (lookup key [(name, value)]) := by
  by_cases taken : name ∈ t.keys
  · rw [add_of_mem value taken]
    by_cases equal : name = key
    · subst equal
      have known : t.get? name ≠ none := by
        rw [get?, ne_eq, lookup_eq_none_iff]
        exact not_not_intro taken
      obtain ⟨old, found⟩ := Option.ne_none_iff_exists'.mp known
      simp [found]
    · simp [lookup, equal]
  · rw [get?, entries_add_of_fresh value taken, lookup_append, get?]

/-- Offers entries to a table one after the other. -/
def addAll (t : Table α) (entries : List (String × α)) : Table α :=
  entries.foldl (fun t entry => t.add entry.1 entry.2) t

theorem ofFirst_eq_addAll (entries : List (String × α)) : ofFirst entries = empty.addAll entries :=
  rfl

@[simp] theorem addAll_nil (t : Table α) : t.addAll [] = t := rfl

theorem addAll_cons (t : Table α) (entry : String × α) (rest : List (String × α)) :
    t.addAll (entry :: rest) = (t.add entry.1 entry.2).addAll rest := rfl

theorem addAll_append (t : Table α) (first second : List (String × α)) :
    t.addAll (first ++ second) = (t.addAll first).addAll second :=
  List.foldl_append

theorem mem_keys_addAll (t : Table α) (entries : List (String × α)) (key : String) :
    key ∈ (t.addAll entries).keys ↔ key ∈ t.keys ∨ key ∈ entries.map Prod.fst := by
  induction entries generalizing t with
  | nil => simp
  | cons entry rest ih =>
    rw [addAll_cons, ih, mem_keys_add, List.map_cons, List.mem_cons, or_assoc]

/-- The new names follow in the order in which each is offered first. -/
theorem keys_addAll (t : Table α) (entries : List (String × α)) :
    (t.addAll entries).keys = t.keys ++ ((entries.map Prod.fst).removeAll t.keys).eraseDups := by
  induction entries generalizing t with
  | nil => simp [List.removeAll]
  | cons entry rest ih =>
    rw [addAll_cons, ih, List.map_cons]
    by_cases taken : entry.1 ∈ t.keys
    · simp [add_of_mem entry.2 taken, List.removeAll, taken]
    · -- the name is the next key, and is taken for all that is offered after it
      have grown : (t.add entry.1 entry.2).keys = t.keys ++ [entry.1] := by
        simp [keys, entries_add_of_fresh entry.2 taken]
      have passed : (rest.map Prod.fst).removeAll (t.keys ++ [entry.1]) =
          ((rest.map Prod.fst).removeAll t.keys).filter fun name => !name == entry.1 := by
        rw [List.removeAll, List.removeAll, List.filter_filter]
        refine List.filter_congr fun name _ => ?_
        by_cases equal : name = entry.1 <;> simp [equal]
      have first : (entry.1 :: rest.map Prod.fst).removeAll t.keys =
          entry.1 :: (rest.map Prod.fst).removeAll t.keys := by
        simp [List.removeAll, taken]
      rw [grown, passed, first, List.eraseDups_cons, List.append_assoc, List.singleton_append]

theorem mem_entries_addAll {t : Table α} {entries : List (String × α)} {entry : String × α}
    (member : entry ∈ (t.addAll entries).entries) : entry ∈ t.entries ∨ entry ∈ entries := by
  induction entries generalizing t with
  | nil => exact Or.inl member
  | cons first rest ih =>
    rw [addAll_cons] at member
    rcases ih member with before | later
    · rcases mem_entries_add before with old | new
      · exact Or.inl old
      · exact Or.inr (by simp [new])
    · exact Or.inr (List.mem_cons_of_mem _ later)

/-- Entries with new and distinct names are all kept, in their order. -/
theorem entries_addAll_of_distinct (t : Table α) (entries : List (String × α))
    (distinct : (entries.map Prod.fst).Nodup)
    (fresh : ∀ name ∈ entries.map Prod.fst, name ∉ t.keys) :
    (t.addAll entries).entries = t.entries ++ entries := by
  induction entries generalizing t with
  | nil => simp
  | cons entry rest ih =>
    obtain ⟨different, later⟩ := List.nodup_cons.mp distinct
    have firstFresh : entry.1 ∉ t.keys := fresh entry.1 (by simp)
    have restFresh : ∀ name ∈ rest.map Prod.fst, name ∉ (t.add entry.1 entry.2).keys := by
      intro name member taken
      rcases (mem_keys_add t entry.1 name entry.2).mp taken with old | rfl
      · exact fresh name (List.mem_cons_of_mem _ member) old
      · exact different member
    rw [addAll_cons, ih _ later restFresh, entries_add_of_fresh _ firstFresh]
    simp

/-- Of what is offered, the first entry of a new name counts. -/
theorem get?_addAll (t : Table α) (entries : List (String × α)) (key : String) :
    (t.addAll entries).get? key = (t.get? key).or (lookup key entries) := by
  induction entries generalizing t with
  | nil => simp [lookup]
  | cons entry rest ih =>
    rw [addAll_cons, ih, get?_add, Option.or_assoc, ← lookup_append, List.singleton_append]

theorem entries_addAll_sublist (t : Table α) (entries : List (String × α)) :
    (t.addAll entries).entries.Sublist (t.entries ++ entries) := by
  induction entries generalizing t with
  | nil => simp
  | cons entry rest ih =>
    rw [addAll_cons]
    refine (ih _).trans ?_
    by_cases taken : entry.1 ∈ t.keys
    · rw [add_of_mem _ taken]
      exact (List.sublist_cons_self entry rest).append_left t.entries
    · have grown : (t.add entry.1 entry.2).entries ++ rest = t.entries ++ entry :: rest := by
        rw [entries_add_of_fresh _ taken, List.append_assoc, List.singleton_append]
      exact grown ▸ List.Sublist.refl _

theorem mem_keys_ofFirst (entries : List (String × α)) (key : String) :
    key ∈ (ofFirst entries).keys ↔ key ∈ entries.map Prod.fst := by
  rw [ofFirst_eq_addAll, mem_keys_addAll]
  simp

theorem keys_ofFirst (entries : List (String × α)) :
    (ofFirst entries).keys = (entries.map Prod.fst).eraseDups := by
  have all : (entries.map Prod.fst).removeAll [] = entries.map Prod.fst :=
    List.filter_eq_self.mpr (by simp)
  rw [ofFirst_eq_addAll, keys_addAll, keys_empty, List.nil_append, all]

theorem mem_entries_ofFirst {entries : List (String × α)} {entry : String × α}
    (member : entry ∈ (ofFirst entries).entries) : entry ∈ entries := by
  rw [ofFirst_eq_addAll] at member
  simpa using mem_entries_addAll member

theorem entries_ofFirst_of_distinct (entries : List (String × α))
    (distinct : (entries.map Prod.fst).Nodup) : (ofFirst entries).entries = entries := by
  rw [ofFirst_eq_addAll, entries_addAll_of_distinct _ _ distinct (by simp)]
  rfl

theorem get?_ofFirst (entries : List (String × α)) (key : String) :
    (ofFirst entries).get? key = lookup key entries := by
  rw [ofFirst_eq_addAll, get?_addAll]
  rfl

/-- An entry is lost exactly when two have the same name. -/
theorem size_ofFirst_iff (entries : List (String × α)) :
    (ofFirst entries).size = entries.length ↔ (entries.map Prod.fst).Nodup := by
  constructor
  · intro whole
    have kept : (ofFirst entries).entries = entries :=
      (entries_addAll_sublist empty entries).eq_of_length whole
    have distinct := (ofFirst entries).distinct
    rwa [kept] at distinct
  · intro distinct
    rw [size, entries_ofFirst_of_distinct entries distinct]

/-! ## Overwriting -/

theorem lookup_replace (name key : String) (value : α) {entries : List (String × α)}
    (taken : name ∈ entries.map Prod.fst) :
    lookup key (replace name value entries) = if name = key then some value else lookup key entries := by
  induction entries with
  | nil => simp at taken
  | cons entry rest ih =>
    obtain ⟨first, old⟩ := entry
    by_cases here : first = name
    · subst here
      by_cases equal : first = key <;> simp [replace, lookup, equal]
    · have later : name ∈ rest.map Prod.fst := by
        simpa [Ne.symm here] using taken
      by_cases found : first = key
      · subst found
        simp [replace, lookup, here, Ne.symm here]
      · simp [replace, lookup, here, found, ih later]

theorem get?_insert (t : Table α) (name key : String) (value : α) :
    (t.insert name value).get? key = if name = key then some value else t.get? key := by
  unfold insert
  split
  next fresh =>
    rw [get?, lookup_append, get?]
    by_cases equal : name = key
    · subst equal
      rw [(lookup_eq_none_iff _ _).mpr fresh]
      simp [lookup]
    · simp [lookup, equal]
  next taken => exact lookup_replace name key value (Classical.not_not.mp taken)

/-- Writes entries to a table one after the other. -/
def insertAll (t : Table α) (entries : List (String × α)) : Table α :=
  entries.foldl (fun t entry => t.insert entry.1 entry.2) t

theorem get?_insertAll (t : Table α) (entries : List (String × α)) (key : String) :
    (t.insertAll entries).get? key = (lookup key entries.reverse).or (t.get? key) := by
  induction entries generalizing t with
  | nil => rfl
  | cons entry rest ih =>
    have step : t.insertAll (entry :: rest) = (t.insert entry.1 entry.2).insertAll rest := rfl
    rw [step, ih, get?_insert, List.reverse_cons, lookup_append, Option.or_assoc]
    by_cases equal : entry.1 = key <;> simp [lookup, equal]

/-- The last entry of a name counts. -/
theorem get?_ofLast (entries : List (String × α)) (key : String) :
    (ofLast entries).get? key = lookup key entries.reverse := by
  have found := get?_insertAll empty entries key
  have nothing : (empty : Table α).get? key = none := rfl
  rwa [nothing, Option.or_none] at found

/-- A name that is taken keeps its place. -/
theorem keys_insert_of_mem {t : Table α} {name : String} (value : α) (taken : name ∈ t.keys) :
    (t.insert name value).keys = t.keys := by
  unfold keys at taken
  rw [insert, dif_neg (not_not_intro taken), keys, keys_replace, keys]

theorem entries_insert_of_fresh {t : Table α} {name : String} (value : α) (fresh : name ∉ t.keys) :
    (t.insert name value).entries = t.entries ++ [(name, value)] := by
  unfold keys at fresh
  rw [insert, dif_pos fresh]

/-- Entries with new and distinct names overwrite nothing. -/
theorem entries_insertAll_of_distinct (t : Table α) (entries : List (String × α))
    (distinct : ((t.entries ++ entries).map Prod.fst).Nodup) :
    (t.insertAll entries).entries = t.entries ++ entries := by
  induction entries generalizing t with
  | nil => simp [insertAll]
  | cons entry rest ih =>
    have fresh : entry.1 ∉ t.keys := by
      intro taken
      rw [List.map_append, List.map_cons] at distinct
      exact (List.nodup_append.mp distinct).2.2 _ taken _ (by simp) rfl
    have step : t.insertAll (entry :: rest) = (t.insert entry.1 entry.2).insertAll rest := rfl
    have moved : (t.insert entry.1 entry.2).entries ++ rest = t.entries ++ entry :: rest := by
      rw [entries_insert_of_fresh _ fresh, List.append_assoc, List.singleton_append]
    rw [step, ih _ (by rwa [moved]), moved]

/-- Whether an entry is written or only offered makes no difference to the order of the names. -/
theorem keys_insert_eq_add {t u : Table α} (same : t.keys = u.keys) (name : String) (value : α) :
    (t.insert name value).keys = (u.add name value).keys := by
  by_cases taken : name ∈ t.keys
  · rw [keys_insert_of_mem value taken, add_of_mem value (same ▸ taken), same]
  · have fresh : name ∉ u.keys := same ▸ taken
    rw [keys, entries_insert_of_fresh value taken, keys, entries_add_of_fresh value fresh,
      List.map_append, List.map_append]
    exact congrArg (· ++ _) same

theorem keys_insertAll_eq_addAll {t u : Table α} (same : t.keys = u.keys)
    (entries : List (String × α)) : (t.insertAll entries).keys = (u.addAll entries).keys := by
  induction entries generalizing t u with
  | nil => exact same
  | cons entry rest ih => exact ih (keys_insert_eq_add same entry.1 entry.2)

/-- Each name stands where it is written first. -/
theorem keys_ofLast (entries : List (String × α)) :
    (ofLast entries).keys = (entries.map Prod.fst).eraseDups := by
  rw [← keys_ofFirst]
  exact keys_insertAll_eq_addAll rfl entries

/-- What is written first and what is offered after it together stand where each name comes up first. -/
theorem keys_addAll_ofLast (written offered : List (String × α)) :
    ((ofLast written).addAll offered).keys = ((written ++ offered).map Prod.fst).eraseDups := by
  have known (names : List String) : (offered.map Prod.fst).removeAll names.eraseDups =
      (offered.map Prod.fst).removeAll names := by
    refine List.filter_congr fun name _ => ?_
    simp [List.mem_eraseDups]
  rw [keys_addAll, keys_ofLast, known, List.map_append, List.eraseDups_append]

theorem ext {s t : Table α} (same : s.entries = t.entries) : s = t := by
  cases s
  cases t
  cases same
  rfl

theorem ofLast_entries (t : Table α) : ofLast t.entries = t :=
  ext (entries_insertAll_of_distinct empty t.entries t.distinct)

/-! ## Taking out -/

theorem lookup_filter_ne (name key : String) (entries : List (String × α)) :
    lookup key (entries.filter fun entry => entry.1 != name) =
      if name = key then none else lookup key entries := by
  induction entries with
  | nil => simp [lookup]
  | cons entry rest ih =>
    obtain ⟨first, value⟩ := entry
    by_cases here : first = name
    · subst here
      rw [List.filter_cons_of_neg (by simp), ih]
      by_cases equal : first = key <;> simp [lookup, equal]
    · by_cases found : first = key
      · subst found
        simp [lookup, here, Ne.symm here]
      · simp [lookup, here, found, ih]

theorem keys_erase (t : Table α) (name : String) :
    (t.erase name).keys = t.keys.filter fun key => key != name := by
  rw [keys, erase, keys, List.filter_map]
  rfl

theorem get?_erase (t : Table α) (name key : String) :
    (t.erase name).get? key = if name = key then none else t.get? key :=
  lookup_filter_ne name key t.entries

end Dialogue.Table
