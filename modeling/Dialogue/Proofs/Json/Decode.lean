import Dialogue.Json.Decode
import Dialogue.Proofs.Table

/-!
# Decoding what was written

A decoder accepts a tree as the form of a value when it takes the tree back to that value, whether the
tree is at hand, comes from a text or was read ahead. Forms are put together the way decoders are: a field
that is left out is the form of its default, and the entries of a record are the forms of its fields in
their order.
-/
namespace Dialogue.Json

/-! ## Trees without faults -/

/-- Induction over a tree: of a list and of an object, what is to be shown holds of all that they hold. -/
@[elab_as_elim, induction_eliminator]
theorem tree_induction {motive : Json → Prop} (null : motive .null) (bool : ∀ b, motive (.bool b))
    (int : ∀ n, motive (.int n)) (float : ∀ x, motive (.float x)) (str : ∀ s, motive (.str s))
    (arr : ∀ items, (∀ item ∈ items, motive item) → motive (.arr items))
    (obj : ∀ entries, (∀ entry ∈ entries, motive entry.2) → motive (.obj entries))
    (cut : ∀ read skipped, motive (.cut read skipped))
    (stray : ∀ read skipped, motive (.stray read skipped)) : ∀ tree, motive tree
  | .null => null
  | .bool b => bool b
  | .int n => int n
  | .float x => float x
  | .str s => str s
  | .cut read skipped => cut read skipped
  | .stray read skipped => stray read skipped
  | .arr items => arr items fun item _ =>
      tree_induction null bool int float str arr obj cut stray item
  | .obj entries => obj entries fun (key, value) member =>
      have smaller : sizeOf value < 1 + sizeOf entries := by
        have inside := List.sizeOf_lt_of_mem member
        rw [Prod.mk.sizeOf_spec] at inside
        omega
      tree_induction null bool int float str arr obj cut stray value

mutual

/-- The parts of a tree that hold no others, in their order. -/
def scalars : Json → List Json
  | .arr items => scalarsItems items
  | .obj entries => scalarsEntries entries
  | leaf => [leaf]

def scalarsItems : List Json → List Json
  | [] => []
  | item :: rest => item.scalars ++ scalarsItems rest

def scalarsEntries : List (String × Json) → List Json
  | [] => []
  | (_, value) :: rest => value.scalars ++ scalarsEntries rest

end

theorem scalars_arr (items : List Json) : (Json.arr items).scalars = items.flatMap scalars := by
  rw [scalars]
  induction items with
  | nil => rfl
  | cons item rest ih => rw [scalarsItems, ih, List.flatMap_cons]

theorem scalars_obj (entries : List (String × Json)) :
    (Json.obj entries).scalars = entries.flatMap fun entry => entry.2.scalars := by
  rw [scalars]
  induction entries with
  | nil => rfl
  | cons entry rest ih => rw [scalarsEntries, ih, List.flatMap_cons]

/-- A scalar that is no fault. An integer has at most 64 bits. -/
def IsSound : Json → Prop
  | .int n => -9223372036854775808 ≤ n ∧ n < 18446744073709551616
  | .cut _ _ | .stray _ _ => False
  | _ => True

/-- A tree in which no fault stands. -/
def Plain (tree : Json) : Prop := ∀ leaf ∈ tree.scalars, leaf.IsSound

@[simp] theorem plain_arr (items : List Json) : (Json.arr items).Plain ↔ ∀ item ∈ items, item.Plain := by
  simp only [Plain, scalars_arr, List.mem_flatMap]
  exact ⟨fun all item member leaf inside => all leaf ⟨item, member, inside⟩,
    fun all leaf ⟨item, member, inside⟩ => all item member leaf inside⟩

@[simp] theorem plain_obj (entries : List (String × Json)) :
    (Json.obj entries).Plain ↔ ∀ entry ∈ entries, entry.2.Plain := by
  simp only [Plain, scalars_obj, List.mem_flatMap]
  exact ⟨fun all entry member leaf inside => all leaf ⟨entry, member, inside⟩,
    fun all leaf ⟨entry, member, inside⟩ => all entry member leaf inside⟩

theorem plain_leaf {leaf : Json} (alone : leaf.scalars = [leaf]) : leaf.Plain ↔ leaf.IsSound := by
  simp [Plain, alone]

@[simp] theorem plain_null : Json.null.Plain := (plain_leaf rfl).mpr trivial

@[simp] theorem plain_bool (b : Bool) : (Json.bool b).Plain := (plain_leaf rfl).mpr trivial

@[simp] theorem plain_str (s : String) : (Json.str s).Plain := (plain_leaf rfl).mpr trivial

@[simp] theorem plain_float (x : Float) : (Json.float x).Plain := (plain_leaf rfl).mpr trivial

theorem plain_int (n : Int) :
    (Json.int n).Plain ↔ -9223372036854775808 ≤ n ∧ n < 18446744073709551616 := plain_leaf rfl

@[simp] theorem not_plain_cut (read : Fault) (skipped : Option Fault) : ¬ (cut read skipped).Plain :=
  fun plain => (plain_leaf rfl).mp plain

@[simp] theorem not_plain_stray (read : Fault) (skipped : Option Fault) :
    ¬ (stray read skipped).Plain :=
  fun plain => (plain_leaf rfl).mp plain

theorem skipItems?_eq_none {items : List Json} (clean : ∀ item ∈ items, item.skipFault? = none) :
    skipItems? items = none := by
  induction items with
  | nil => rfl
  | cons item rest ih =>
    obtain ⟨here, later⟩ := List.forall_mem_cons.mp clean
    rw [skipItems?, here, ih later]
    rfl

theorem skipEntries?_eq_none {entries : List (String × Json)}
    (clean : ∀ entry ∈ entries, entry.2.skipFault? = none) : skipEntries? entries = none := by
  induction entries with
  | nil => rfl
  | cons entry rest ih =>
    obtain ⟨here, later⟩ := List.forall_mem_cons.mp clean
    rw [skipEntries?, here, ih later]
    rfl

/-- Nothing keeps the reader from passing over a tree without faults. -/
theorem skipFault?_of_plain {tree : Json} (plain : tree.Plain) : tree.skipFault? = none := by
  induction tree with
  | null | bool | int | float | str => simp [skipFault?]
  | cut read skipped => exact absurd plain (not_plain_cut read skipped)
  | stray read skipped => exact absurd plain (not_plain_stray read skipped)
  | arr items ih =>
    rw [plain_arr] at plain
    rw [skipFault?, skipItems?_eq_none fun item member => ih item member (plain item member)]
  | obj entries ih =>
    rw [plain_obj] at plain
    rw [skipFault?, skipEntries?_eq_none fun entry member => ih entry member (plain entry member)]

theorem depth_lt_arr {items : List Json} {item : Json} (member : item ∈ items) :
    item.depth < (Json.arr items).depth := by
  rw [depth]
  induction items with
  | nil => simp at member
  | cons first rest ih =>
    rw [depthItems]
    rcases List.mem_cons.mp member with rfl | later
    · omega
    · have deeper := ih later
      omega

theorem depth_lt_obj {entries : List (String × Json)} {entry : String × Json}
    (member : entry ∈ entries) : entry.2.depth < (Json.obj entries).depth := by
  rw [depth]
  induction entries with
  | nil => simp at member
  | cons first rest ih =>
    rw [depthEntries]
    rcases List.mem_cons.mp member with rfl | later
    · omega
    · have deeper := ih later
      omega

/-! ## Origins -/

/-- A tree that its origin does not keep from being read. Only a text can be nested too deeply. -/
def Origin.Admits (origin : Origin) (tree : Json) : Prop := origin.readAhead? tree = none

theorem admits_text (depth : Nat) (tree : Json) :
    (Origin.text depth).Admits tree ↔ tree.readFault? (maxNesting - depth) = none := Iff.rfl

theorem itemsFault?_eq_none {budget : Nat} {items : List Json}
    (clean : itemsFault? budget items = none) : ∀ item ∈ items, item.readFault? budget = none := by
  induction items with
  | nil => simp
  | cons item rest ih =>
    simp only [itemsFault?, Option.orElse_eq_or, Option.or_eq_none_iff] at clean
    exact List.forall_mem_cons.mpr ⟨clean.1, ih clean.2⟩

theorem entriesFault?_eq_none {budget : Nat} {entries : List (String × Json)}
    (clean : entriesFault? budget entries = none) :
    ∀ entry ∈ entries, entry.2.readFault? budget = none := by
  induction entries with
  | nil => simp
  | cons entry rest ih =>
    simp only [entriesFault?, Option.orElse_eq_or, Option.or_eq_none_iff] at clean
    exact List.forall_mem_cons.mpr ⟨clean.1, ih clean.2⟩

namespace Origin.Admits

variable {origin : Origin}

/-- What a tree holds is admitted where the tree is. -/
theorem items {items : List Json} (admitted : origin.Admits (.arr items)) :
    ∀ item ∈ items, origin.enter.Admits item := by
  cases origin with
  | value | buffered => exact fun _ _ => rfl
  | text depth =>
    rw [admits_text] at admitted
    cases remaining : maxNesting - depth with
    | zero => simp [remaining, readFault?] at admitted
    | succ budget =>
      rw [remaining, readFault?] at admitted
      have inner : maxNesting - (depth + 1) = budget := by omega
      simpa only [enter, admits_text, inner] using itemsFault?_eq_none admitted

theorem entries {entries : List (String × Json)} (admitted : origin.Admits (.obj entries)) :
    ∀ entry ∈ entries, origin.enter.Admits entry.2 := by
  cases origin with
  | value | buffered => exact fun _ _ => rfl
  | text depth =>
    rw [admits_text] at admitted
    cases remaining : maxNesting - depth with
    | zero => simp [remaining, readFault?] at admitted
    | succ budget =>
      rw [remaining, readFault?] at admitted
      have inner : maxNesting - (depth + 1) = budget := by omega
      simpa only [enter, admits_text, inner] using entriesFault?_eq_none admitted

end Origin.Admits

theorem passOver?_of_plain (origin : Origin) {tree : Json} (plain : tree.Plain) :
    origin.passOver? tree = none := by
  cases origin with
  | value | buffered => rfl
  | text depth => exact skipFault?_of_plain plain

/-! ## Forms of values -/

namespace Decoder

variable {α β : Type}

/-- A tree without faults that is decoded to `a` wherever it is admitted. -/
structure Accepts (d : Decoder α) (tree : Json) (a : α) : Prop where
  plain : tree.Plain
  decoded : ∀ origin, origin.Admits tree → d origin tree = .ok a

theorem accepts_text (s : String) : text.Accepts (.str s) s := ⟨plain_str s, fun _ _ => rfl⟩

theorem accepts_flag (b : Bool) : flag.Accepts (.bool b) b := ⟨plain_bool b, fun _ _ => rfl⟩

theorem accepts_double {x : Float} (finite : x.isFinite = true) : double.Accepts (.number x) x := by
  rw [Json.number, if_pos finite]
  exact ⟨plain_float x, fun _ _ => rfl⟩

theorem accepts_natural (expected : String) (bound : Nat) {n : Nat} (below : n < bound)
    (fits : n < 18446744073709551616) : (natural expected bound).Accepts (.nat n) n := by
  refine ⟨?_, fun origin _ => ?_⟩
  · rw [Json.nat, plain_int]
    omega
  · have inside : (n : Int) < (bound : Int) := by omega
    simp [natural, Json.nat, inside]

theorem accepts_any {tree : Json} (plain : tree.Plain) : any.Accepts tree tree := by
  refine ⟨plain, fun origin admitted => ?_⟩
  simp only [any, show origin.readAhead? tree = none from admitted]

theorem accepts_oneOf {variants : List (String × α)} {name : String} {a : α}
    (known : Table.lookup name variants = some a) : (oneOf variants).Accepts (.str name) a := by
  refine ⟨plain_str name, fun origin _ => ?_⟩
  simp only [oneOf, known]

theorem Accepts.map {d : Decoder α} {tree : Json} {a : α} (f : α → β) (form : d.Accepts tree a) :
    (d.map f).Accepts tree (f a) := by
  refine ⟨form.plain, fun origin admitted => ?_⟩
  simp only [Decoder.map, form.decoded origin admitted, Except.map]

theorem accepts_word (n : UInt64) : word.Accepts (.nat n.toNat) n := by
  have form := (accepts_natural "usize" (Nat.pow 2 64) n.toNat_lt n.toNat_lt).map UInt64.ofNat
  rwa [UInt64.ofNat_toNat] at form

theorem accepts_keyed {variants : List (String × Decoder α)} {key : String} {d : Decoder α}
    {tree : Json} {a : α} (known : Table.lookup key variants = some d) (form : d.Accepts tree a) :
    (keyed variants).Accepts (.obj [(key, tree)]) a := by
  refine ⟨by simpa using form.plain, fun origin admitted => ?_⟩
  have inner := form.decoded origin.enter (admitted.entries (key, tree) (by simp))
  simp only [keyed, known, bind, Except.bind, inner]

theorem Accepts.optional {d : Decoder α} {tree : Json} {a : α} (form : d.Accepts tree a)
    (present : tree ≠ .null) : d.optional.Accepts tree (some a) := by
  refine ⟨form.plain, fun origin admitted => ?_⟩
  unfold Decoder.optional
  split
  · contradiction
  · rw [form.decoded origin admitted]
    rfl

theorem accepts_list {d : Decoder α} {encode : α → Json} (items : List α)
    (forms : ∀ a ∈ items, d.Accepts (encode a) a) :
    (list d).Accepts (.arr (items.map encode)) items := by
  refine ⟨?_, fun origin admitted => ?_⟩
  · simpa using fun a member => (forms a member).plain
  · have inner : ∀ a ∈ items, d origin.enter (encode a) = .ok a := fun a member =>
      (forms a member).decoded _ (admitted.items _ (List.mem_map_of_mem member))
    change (items.map encode).mapM (d origin.enter) = .ok items
    clear forms admitted
    induction items with
    | nil => rfl
    | cons a rest ih =>
      rw [List.map_cons, List.mapM_cons, inner a (by simp),
        ih fun other member => inner other (by simp [member])]
      rfl

theorem accepts_table {d : Decoder α} (encode : α → Json) {t : Table α}
    (forms : ∀ entry ∈ t.entries, d.Accepts (encode entry.2) entry.2) :
    (table d).Accepts (.obj (t.entries.map fun entry => (entry.1, encode entry.2))) t := by
  refine ⟨?_, fun origin admitted => ?_⟩
  · rw [plain_obj, List.forall_mem_map]
    exact fun entry member => (forms entry member).plain
  · have inner : ∀ entry ∈ t.entries, d origin.enter (encode entry.2) = .ok entry.2 :=
      fun entry member => (forms entry member).decoded _
        (admitted.entries _ (List.mem_map.mpr ⟨entry, member, rfl⟩))
    have whole : entries d origin.enter (t.entries.map fun entry => (entry.1, encode entry.2)) =
        .ok t.entries := by
      generalize t.entries = listed at inner
      induction listed with
      | nil => rfl
      | cons entry rest ih =>
        rw [List.map_cons, entries, inner entry (by simp),
          ih fun other member => inner other (by simp [member])]
        rfl
    change Table.ofLast <$> entries d origin.enter _ = _
    rw [whole]
    exact congrArg Except.ok (Table.ofLast_entries t)

end Decoder

/-! ## Fields -/

/-- What is left out has no key. -/
@[simp] theorem mem_optional_entry (key name : String) (tree : Json) (value : Option Json) :
    (key, tree) ∈ entry? name value ↔ key = name ∧ value = some tree := by
  cases value with
  | none => simp [ entry?]
  | some given => simp [ entry?, eq_comm]

@[simp] theorem mem_list_entry (key name : String) (tree : Json) (items : List Json) :
    (key, tree) ∈ entryList name items ↔ key = name ∧ items ≠ [] ∧ tree = .arr items := by
  cases items with
  | nil => simp [entryList]
  | cons item rest => simp [entryList]

namespace Fields

variable {α β : Type}

/-- The entries are how the fields are written when they hold `a`: no fault stands in them, they come in
the order of the fields, and `a` is found in every object that has them for these fields. -/
structure Encodes (fields : Fields α) (entries : List (String × Json)) (a : α) : Prop where
  plain : ∀ entry ∈ entries, entry.2.Plain
  keys : (entries.map Prod.fst).Sublist fields.names
  decoded : fields.names.Nodup → ∀ origin whole, (whole.map Prod.fst).Nodup →
    (∀ entry ∈ whole, origin.Admits entry.2) →
    (∀ name ∈ fields.names, Table.lookup name whole = Table.lookup name entries) →
    fields.ofObject origin whole = .ok a

theorem placeOf?_eq_none {name : String} {entries : List (String × Json)}
    (absent : name ∉ entries.map Prod.fst) (place : Nat) : placeOf? name place entries = none := by
  induction entries generalizing place with
  | nil => rfl
  | cons entry rest ih =>
    simp only [List.map_cons, List.mem_cons, not_or] at absent
    rw [placeOf?, if_neg (Ne.symm absent.1), ih absent.2]

/-- Among distinct keys a field is found where it is, and only there. -/
theorem locate?_eq (name : String) {entries : List (String × Json)}
    (distinct : (entries.map Prod.fst).Nodup) (start : Nat) :
    ∃ place, locate? name start entries =
      (Table.lookup name entries).map fun value => ⟨place, value, none⟩ := by
  induction entries generalizing start with
  | nil => exact ⟨0, rfl⟩
  | cons entry rest ih =>
    obtain ⟨key, value⟩ := entry
    obtain ⟨fresh, later⟩ := List.nodup_cons.mp distinct
    by_cases equal : key = name
    · subst equal
      exact ⟨start, by simp [locate?, Table.lookup, placeOf?_eq_none fresh]⟩
    · obtain ⟨place, found⟩ := ih later (start + 1)
      exact ⟨place, by simp [locate?, Table.lookup, equal, found]⟩

theorem encodes_field {name : String} {d : Decoder α} {tree : Json} {a : α} (default : Option α)
    (form : d.Accepts tree a) : (field name d default).Encodes [(name, tree)] a := by
  refine ⟨by simpa using form.plain, by simp [field], ?_⟩
  intro _ origin whole distinct admitted same
  have found : Table.lookup name whole = some tree := by
    rw [same name (by simp [field])]
    simp [Table.lookup]
  obtain ⟨place, located⟩ := locate?_eq name distinct 0
  have read := form.decoded origin (admitted _ (Table.mem_of_lookup_eq_some found))
  simp only [field, located, found, Option.map_some, read]

theorem encodes_absent (name : String) (d : Decoder α) (a : α) :
    (field name d (some a)).Encodes [] a := by
  refine ⟨by simp, by simp, ?_⟩
  intro _ origin whole distinct _ same
  have missing : Table.lookup name whole = none := same name (by simp [field])
  obtain ⟨place, located⟩ := locate?_eq name distinct 0
  simp only [field, located, missing, Option.map_none]

theorem encodes_maybe_of {name : String} {d : Decoder α} {encode : α → Json} (value : Option α)
    (form : ∀ a ∈ value, d.Accepts (encode a) a) (present : ∀ a, encode a ≠ .null) :
    (maybe name d).Encodes ( entry? name (value.map encode)) value := by
  cases value with
  | none => exact encodes_absent name d.optional none
  | some a => exact encodes_field (some none) ((form a rfl).optional (present a))

theorem encodes_maybe {name : String} {d : Decoder α} {encode : α → Json} (value : Option α)
    (form : ∀ a, d.Accepts (encode a) a) (present : ∀ a, encode a ≠ .null) :
    (maybe name d).Encodes ( entry? name (value.map encode)) value :=
  encodes_maybe_of value (fun a _ => form a) present

theorem encodes_items {name : String} {d : Decoder α} {encode : α → Json} (items : List α)
    (forms : ∀ a ∈ items, d.Accepts (encode a) a) :
    (withDefault name (.list d) []).Encodes (entryList name (items.map encode)) items := by
  cases items with
  | nil => exact encodes_absent name (.list d) []
  | cons a rest => exact encodes_field (some []) (Decoder.accepts_list (a :: rest) forms)

theorem Encodes.map {fields : Fields α} {entries : List (String × Json)} {a : α} (f : α → β)
    (encoded : fields.Encodes entries a) : (f <$> fields).Encodes entries (f a) := by
  refine ⟨encoded.plain, encoded.keys, ?_⟩
  intro distinct origin whole keys admitted same
  have read := encoded.decoded distinct origin whole keys admitted same
  change (fields.ofObject origin whole).map f = _
  rw [read]
  rfl

theorem lookup_eq_none_of_disjoint {entries : List (String × Json)} {names : List String}
    {name : String} (keys : (entries.map Prod.fst).Sublist names) (other : name ∉ names) :
    Table.lookup name entries = none :=
  (Table.lookup_eq_none_iff name entries).mpr fun member => other (keys.subset member)

/-- The entries of two groups of fields do not get in each other's way. -/
theorem Encodes.seq {fs : Fields (α → β)} {xs : Fields α} {first second : List (String × Json)}
    {f : α → β} {a : α} (left : fs.Encodes first f) (right : xs.Encodes second a) :
    (fs <*> xs).Encodes (first ++ second) (f a) := by
  refine ⟨?_, ?_, ?_⟩
  · intro entry member
    rcases List.mem_append.mp member with member | member
    · exact left.plain entry member
    · exact right.plain entry member
  · rw [List.map_append]
    exact left.keys.append right.keys
  · intro distinct origin whole keys admitted same
    obtain ⟨leftDistinct, rightDistinct, apart⟩ := List.nodup_append.mp distinct
    have readLeft : fs.ofObject origin whole = .ok f := by
      refine left.decoded leftDistinct origin whole keys admitted fun name member => ?_
      have other : name ∉ xs.names := fun inside => apart name member name inside rfl
      rw [same name (List.mem_append_left _ member), Table.lookup_append,
        lookup_eq_none_of_disjoint right.keys other, Option.or_none]
    have readRight : xs.ofObject origin whole = .ok a := by
      refine right.decoded rightDistinct origin whole keys admitted fun name member => ?_
      have other : name ∉ fs.names := fun inside => apart name inside name member rfl
      rw [same name (List.mem_append_right _ member), Table.lookup_append,
        lookup_eq_none_of_disjoint left.keys other, Option.none_or]
    change (apply fs xs).ofObject origin whole = _
    simp only [apply, readLeft, readRight]

end Fields

/-- Entries without faults can be passed over, whatever they are called. -/
theorem unknownFault?_eq_none (origin : Origin) (known : List String)
    {entries : List (String × Json)} (plain : ∀ entry ∈ entries, entry.2.Plain) (place : Nat) :
    unknownFault? origin known place entries = none := by
  induction entries generalizing place with
  | nil => rfl
  | cons entry rest ih =>
    obtain ⟨key, value⟩ := entry
    have here : value.Plain := plain (key, value) (by simp)
    have later := fun place => ih (fun other member => plain other (by simp [member])) place
    simp only [unknownFault?, later, passOver?_of_plain origin here]
    split
    · rfl
    · split
      · exact absurd here (not_plain_stray _ _)
      · rfl

namespace Decoder

variable {α : Type}

/-- The form of a record, with entries behind it that are none of its fields. -/
theorem decode_record (expected : String) {fields : Fields α} {entries : List (String × Json)}
    {a : α} (encoded : fields.Encodes entries a) (names : fields.names.Nodup)
    (others : List (String × Json)) (distinct : ((entries ++ others).map Prod.fst).Nodup)
    (plain : ∀ entry ∈ others, entry.2.Plain)
    (foreign : ∀ name ∈ others.map Prod.fst, name ∉ fields.names) (origin : Origin)
    (admitted : origin.Admits (.obj (entries ++ others))) :
    record expected fields origin (.obj (entries ++ others)) = .ok a := by
  have allPlain : ∀ entry ∈ entries ++ others, entry.2.Plain := fun entry member =>
    (List.mem_append.mp member).elim (encoded.plain entry) (plain entry)
  have read : fields.ofObject origin.enter (entries ++ others) = .ok a := by
    refine encoded.decoded names _ _ distinct admitted.entries fun name member => ?_
    have absent : Table.lookup name others = none :=
      (Table.lookup_eq_none_iff name others).mpr fun inside => foreign name inside member
    rw [Table.lookup_append, absent, Option.or_none]
  simp only [record, read, unknownFault?_eq_none _ _ allPlain, settleFields]

theorem accepts_record {expected : String} {fields : Fields α} {entries : List (String × Json)}
    {a : α} (encoded : fields.Encodes entries a) (names : fields.names.Nodup) :
    (record expected fields).Accepts (.obj entries) a := by
  refine ⟨(plain_obj entries).mpr encoded.plain, fun origin admitted => ?_⟩
  have alone := decode_record expected encoded names []
  rw [List.append_nil] at alone
  exact alone (names.sublist encoded.keys) (by simp) (by simp) origin admitted

/-- Entries without the tag are kept as they are. -/
theorem splitTag_untagged {tag : String} (variants : List (String × Decoder α)) {origin : Origin}
    (found : Option (Decoder α)) {entries : List (String × Json)}
    (untagged : tag ∉ entries.map Prod.fst) (admitted : ∀ entry ∈ entries, origin.Admits entry.2) :
    splitTag tag variants origin found entries = .ok (found, entries) := by
  induction entries with
  | nil => rfl
  | cons entry rest ih =>
    obtain ⟨key, value⟩ := entry
    simp only [List.map_cons, List.mem_cons, not_or] at untagged
    have readable : origin.readAhead? value = none := admitted (key, value) (by simp)
    have later := ih untagged.2 fun other member => admitted other (by simp [member])
    simp only [splitTag, Ne.symm untagged.1, if_false, readable, later]
    rfl

/-- The form of a value that names its kind in front of its fields. -/
theorem accepts_tagged {tag kind name : String} {variants : List (String × Decoder α)}
    {d : Decoder α} {entries : List (String × Json)} {a : α}
    (known : Table.lookup kind variants = some d) (form : d.Accepts (.obj entries) a)
    (untagged : tag ∉ entries.map Prod.fst) :
    (tagged tag name variants).Accepts (.obj ((tag, .str kind) :: entries)) a := by
  refine ⟨?_, fun origin admitted => ?_⟩
  · rw [plain_obj, List.forall_mem_cons]
    exact ⟨plain_str kind, (plain_obj entries).mp form.plain⟩
  · have inside : ∀ entry ∈ entries, origin.enter.Admits entry.2 :=
      (List.forall_mem_cons.mp admitted.entries).2
    have named : variant variants origin.enter (.str kind) = .ok d := by
      simp only [variant, known]
    have split : splitTag tag variants origin.enter none ((tag, .str kind) :: entries) =
        .ok (some d, entries) := by
      simp only [splitTag, if_true, named]
      exact splitTag_untagged variants (some d) untagged inside
    have content : d .buffered (.obj entries) = .ok a := form.decoded .buffered rfl
    simp only [tagged, split]
    exact content

end Decoder

end Dialogue.Json
