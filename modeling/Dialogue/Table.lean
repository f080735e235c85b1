/-!
# Tables that keep the order of their keys

A table maps names to values and remembers the order in which the names arrived. Writing to a name
that is already there keeps its place. The keys of a table are distinct by construction.

Every ordered map of the program is such a table; how a map finds its keys is not modelled.
-/
namespace Dialogue

structure Table (α : Type) where
  entries : List (String × α)
  distinct : (entries.map Prod.fst).Nodup

namespace Table

variable {α β : Type}

def empty : Table α := ⟨[], List.nodup_nil⟩

instance : Inhabited (Table α) := ⟨empty⟩

instance : EmptyCollection (Table α) := ⟨empty⟩

def keys (t : Table α) : List String := t.entries.map Prod.fst

def values (t : Table α) : List α := t.entries.map Prod.snd

/-- The value that the first entry of `name` holds. -/
def lookup (name : String) : List (String × α) → Option α
  | [] => none
  | (key, value) :: rest => if key = name then some value else lookup name rest

def get? (t : Table α) (name : String) : Option α := lookup name t.entries

def contains (t : Table α) (name : String) : Bool := t.keys.contains name

def isEmpty (t : Table α) : Bool := t.entries.isEmpty

def size (t : Table α) : Nat := t.entries.length

/-- Puts `value` where `name` stands. -/
def replace (name : String) (value : α) : List (String × α) → List (String × α)
  | [] => []
  | (key, old) :: rest =>
    if key = name then (key, value) :: rest else (key, old) :: replace name value rest

theorem keys_replace (name : String) (value : α) (entries : List (String × α)) :
    (replace name value entries).map Prod.fst = entries.map Prod.fst := by
  induction entries with
  | nil => rfl
  | cons entry rest ih =>
    obtain ⟨key, old⟩ := entry
    by_cases h : key = name <;> simp [replace, h, ih]

theorem distinct_concat {entries : List (String × α)} {name : String} (value : α)
    (distinct : (entries.map Prod.fst).Nodup) (fresh : name ∉ entries.map Prod.fst) :
    ((entries ++ [(name, value)]).map Prod.fst).Nodup := by
  rw [List.map_append]
  refine List.nodup_append.2 ⟨distinct, by simp, ?_⟩
  intro a member b single
  simp only [List.map_cons, List.map_nil, List.mem_singleton] at single
  subst single
  intro equal
  exact fresh (equal ▸ member)

/-- Adds an entry at the end unless the name is taken. -/
def add (t : Table α) (name : String) (value : α) : Table α :=
  if fresh : name ∉ t.entries.map Prod.fst then
    ⟨t.entries ++ [(name, value)], distinct_concat value t.distinct fresh⟩
  else t

/-- Writes an entry: in its place when the name is taken, else at the end. -/
def insert (t : Table α) (name : String) (value : α) : Table α :=
  if fresh : name ∉ t.entries.map Prod.fst then
    ⟨t.entries ++ [(name, value)], distinct_concat value t.distinct fresh⟩
  else ⟨replace name value t.entries, by rw [keys_replace]; exact t.distinct⟩

/-- Takes a name out; the others keep their order. -/
def erase (t : Table α) (name : String) : Table α :=
  ⟨t.entries.filter (fun entry => entry.1 != name),
    List.Pairwise.sublist (List.Sublist.map _ (List.filter_sublist)) t.distinct⟩

/-- The first value of each name wins. -/
def ofFirst (entries : List (String × α)) : Table α :=
  entries.foldl (fun t entry => t.add entry.1 entry.2) empty

/-- The last value of each name wins, at the place of the first. -/
def ofLast (entries : List (String × α)) : Table α :=
  entries.foldl (fun t entry => t.insert entry.1 entry.2) empty

@[simp] theorem entries_empty : (empty : Table α).entries = [] := rfl

end Table

end Dialogue
