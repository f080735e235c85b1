import Dialogue.Files.Path
import Mathlib.Data.List.Basic

/-!
# Where paths lead

A path is read off its pieces: a root or a dot in front, and then the pieces that count. A name joined to
a directory adds one component, and the parent of a path lacks its last one. The names to follow from the
root on, in which the working directory, dots and ways up are resolved, tell apart what the spelling of paths
does not.
-/
namespace Dialogue.Text

theorem split_ne_nil (separator : Char) (text : List Char) : split separator text ≠ [] := by
  cases text with
  | nil => simp [split]
  | cons c rest =>
    unfold split
    split
    · simp
    · split <;> simp

/-- A separator ends the pieces of what stands before it. -/
theorem split_append (separator : Char) (before after : List Char) :
    split separator (before ++ separator :: after) =
      split separator before ++ split separator after := by
  induction before with
  | nil => simp [split]
  | cons c rest ih =>
    by_cases h : c = separator
    · simp [split, h, ih]
    · obtain ⟨piece, later, pieces⟩ := List.exists_cons_of_ne_nil (split_ne_nil separator rest)
      simp [split, h, ih, pieces]

theorem split_of_not_mem {separator : Char} {text : List Char} (free : separator ∉ text) :
    split separator text = [text] := by
  induction text with
  | nil => rfl
  | cons c rest ih =>
    obtain ⟨other, free⟩ := not_or.mp (mt List.mem_cons.mpr free)
    simp [split, Ne.symm other, ih free]

theorem not_mem_of_mem_split (separator : Char) (text : List Char) :
    ∀ piece ∈ split separator text, separator ∉ piece := by
  induction text with
  | nil => simp [split]
  | cons c rest ih =>
    obtain ⟨piece, later, pieces⟩ := List.exists_cons_of_ne_nil (split_ne_nil separator rest)
    rw [pieces] at ih
    by_cases h : c = separator
    · simpa [split, h, pieces] using ih
    · simpa [split, h, pieces, Ne.symm h] using ih

/-- Joined pieces are found again, unless there are none. -/
theorem split_join {separator : Char} {pieces : List (List Char)} (given : pieces ≠ [])
    (free : ∀ piece ∈ pieces, separator ∉ piece) :
    split separator (join (String.singleton separator) (pieces.map String.ofList)).toList = pieces := by
  induction pieces with
  | nil => exact absurd rfl given
  | cons piece rest ih =>
    cases rest with
    | nil => simpa [join] using split_of_not_mem (free piece (by simp))
    | cons next rest =>
      have later := ih (by simp) fun p mem => free p (List.mem_cons_of_mem _ mem)
      have front := split_of_not_mem (free piece (by simp))
      simp only [List.map_cons] at later ⊢
      simp [join, split_append, front, later]

end Dialogue.Text

namespace Dialogue.Path

open Text

theorem component?_eq_none_iff (piece : List Char) :
    component? piece = none ↔ piece = [] ∨ piece = ['.'] := by
  unfold component?
  by_cases idle : piece = [] ∨ piece = ['.']
  · simp [idle]
  · by_cases up : piece = ['.', '.'] <;> simp [idle, up]

/-- What the first piece adds in front of the components that the pieces stand for. -/
def front (pieces : List (List Char)) : List Component :=
  if pieces.head? = some [] ∧ pieces.tail ≠ [] then [.root]
  else if pieces.head? = some ['.'] then [.current]
  else []

/-- The components of pieces. -/
def ofPieces (pieces : List (List Char)) : List Component := front pieces ++ pieces.filterMap component?

theorem pieces_ne_nil (path : String) : pieces path ≠ [] := split_ne_nil '/' path.toList

theorem isAbsolute_iff (path : String) :
    isAbsolute path = true ↔ (pieces path).head? = some [] ∧ (pieces path).tail ≠ [] := by
  unfold isAbsolute startsWith pieces
  cases path.toList with
  | nil => simp [split]
  | cons c rest =>
    obtain ⟨piece, later, pieces⟩ := List.exists_cons_of_ne_nil (split_ne_nil '/' rest)
    by_cases h : c = '/'
    · simp [split, h, pieces]
    · simp [split, h, pieces, Ne.symm h]

theorem components_eq (path : String) : components path = ofPieces (pieces path) := by
  have absolute := isAbsolute_iff path
  unfold components ofPieces front
  cases given : pieces path with
  | nil => exact absurd given (pieces_ne_nil path)
  | cons first rest =>
    rw [given] at absolute
    by_cases h : isAbsolute path = true
    · obtain ⟨isEmpty, more⟩ := absolute.mp h
      cases Option.some.inj isEmpty
      simp [h, component?, show rest ≠ [] from more]
    · have relative : ¬(first = [] ∧ rest ≠ []) := by simpa using mt absolute.mpr h
      by_cases dot : first = ['.']
      · simp [h, dot, component?]
      · cases own : component? first <;> simp [h, dot, relative, own]

theorem front_append {pieces : List (List Char)} (later : List (List Char)) (given : pieces ≠ [])
    (more : pieces ≠ [[]]) : front (pieces ++ later) = front pieces := by
  obtain ⟨first, rest, rfl⟩ := List.exists_cons_of_ne_nil given
  by_cases h : first = []
  · have : rest ≠ [] := by simpa [h] using more
    simp [front, h, this]
  · simp [front, h]

/-- The last piece of several is never the one in front. -/
theorem front_snoc {pieces : List (List Char)} (given : pieces ≠ []) (last other : List Char) :
    front (pieces ++ [last]) = front (pieces ++ [other]) := by
  obtain ⟨first, rest, rfl⟩ := List.exists_cons_of_ne_nil given
  simp [front]

/-- A name that is a piece of a path and stands for itself. -/
structure IsName (name : String) : Prop where
  free : '/' ∉ name.toList
  counts : component? name.toList = some (.name name)

theorem IsName.pieces_eq {name : String} (isName : IsName name) : pieces name = [name.toList] :=
  split_of_not_mem isName.free

theorem IsName.not_absolute {name : String} (isName : IsName name) : isAbsolute name = false := by
  have := mt (isAbsolute_iff name).mp
  simpa [isName.pieces_eq] using this

theorem IsName.front_eq {name : String} (isName : IsName name) : front [name.toList] = [] := by
  have counts := isName.counts
  by_cases dot : name.toList = ['.']
  · simp [dot, component?] at counts
  · simp [front, dot]

theorem pieces_append_slash (directory name : String) :
    pieces (directory ++ "/" ++ name) = pieces directory ++ pieces name := by
  simpa [pieces] using split_append '/' directory.toList name.toList

theorem pieces_eq_single_nil_iff (path : String) : pieces path = [[]] ↔ path = "" := by
  constructor
  · intro h
    unfold pieces at h
    cases chars : path.toList with
    | nil => exact String.toList_eq_nil_iff.mp chars
    | cons c rest =>
      rw [chars] at h
      obtain ⟨piece, later, pieces⟩ := List.exists_cons_of_ne_nil (split_ne_nil '/' rest)
      by_cases slash : c = '/'
      · simp [split, slash, pieces] at h
      · simp [split, slash, pieces] at h
  · rintro rfl
    rfl

theorem pieces_slash (directory : String) : pieces (directory ++ "/") = pieces directory ++ [[]] := by
  have := pieces_append_slash directory ""
  rwa [String.append_empty] at this

/-- A slash at the end does not matter. -/
theorem components_slash {directory : String} (given : directory ≠ "") :
    components (directory ++ "/") = components directory := by
  have more : pieces directory ≠ [[]] := mt (pieces_eq_single_nil_iff directory).mp given
  rw [components_eq, components_eq, pieces_slash, ofPieces, ofPieces,
    front_append _ (pieces_ne_nil directory) more]
  simp [component?]

/-- A name after a slash is one more component. -/
theorem components_slash_name (directory : String) {name : String} (isName : IsName name) :
    components (directory ++ "/" ++ name) = components (directory ++ "/") ++ [.name name] := by
  have single : [name.toList].filterMap component? = [.name name] :=
    List.filterMap_cons_some isName.counts
  rw [components_eq, components_eq, pieces_slash, pieces_append_slash, isName.pieces_eq, ofPieces,
    ofPieces, front_snoc (pieces_ne_nil directory) name.toList [], List.filterMap_append, single]
  simp [component?]

/-- A name that is joined to a directory is one more component. -/
theorem components_join (directory : String) {name : String} (isName : IsName name) :
    components (join directory name) = components directory ++ [.name name] := by
  unfold join
  rw [isName.not_absolute]
  by_cases empty : directory = ""
  · have single : [name.toList].filterMap component? = [.name name] :=
      List.filterMap_cons_some isName.counts
    have alone : components name = [.name name] := by
      rw [components_eq, isName.pieces_eq, ofPieces, isName.front_eq, single, List.nil_append]
    simpa [empty, show components "" = [] from rfl] using alone
  · have given : directory.isEmpty = false := by simpa using empty
    rw [given]
    by_cases slash : endsWith directory "/" = true
    · obtain ⟨before, eq⟩ := List.isSuffixOf_iff_suffix.mp slash
      have spelled : directory = String.ofList before ++ "/" :=
        String.toList_inj.mp (by simpa using eq.symm)
      have joined := components_slash_name (String.ofList before) isName
      rw [← spelled] at joined
      simpa [slash] using joined
    · simpa [slash, components_slash empty] using components_slash_name directory isName

/-- What is taken off the end counts for nothing. -/
theorem filterMap_trimmed (absolute : Bool) (pieces : List (List Char)) :
    (trimmed absolute pieces).reverse.filterMap component? =
      pieces.reverse.filterMap component? := by
  induction pieces with
  | nil => rfl
  | cons piece before ih =>
    unfold trimmed
    split
    next idle =>
      have uncounted : component? piece = none := (component?_eq_none_iff piece).mpr (by grind)
      have single : [piece].filterMap component? = [] := List.filterMap_cons_none uncounted
      rw [List.reverse_cons, List.filterMap_append, single, List.append_nil, ih]
    next => rfl

theorem trimmed_suffix (absolute : Bool) (pieces : List (List Char)) :
    trimmed absolute pieces <:+ pieces := by
  induction pieces with
  | nil => exact List.suffix_refl _
  | cons piece before ih =>
    unfold trimmed
    split
    · exact ih.trans (List.suffix_cons _ _)
    · exact List.suffix_refl _

/-- The first piece is kept, unless all are taken off. -/
theorem getLast?_trimmed {absolute : Bool} {pieces : List (List Char)}
    (kept : trimmed absolute pieces ≠ []) :
    (trimmed absolute pieces).getLast? = pieces.getLast? := by
  induction pieces with
  | nil => rfl
  | cons piece before ih =>
    unfold trimmed at kept ⊢
    split
    next idle =>
      rw [if_pos idle] at kept
      have : before ≠ [] := by rintro rfl; exact kept rfl
      rw [ih kept, List.getLast?_cons_of_ne_nil this]
    next => rfl

/-- A dot in front of a relative path is not taken off. -/
theorem dot_not_trimmed {pieces : List (List Char)} (gone : trimmed false pieces = []) :
    pieces.getLast? ≠ some ['.'] := by
  induction pieces with
  | nil => simp
  | cons piece before ih =>
    unfold trimmed at gone
    split at gone
    next idle =>
      cases before with
      | nil =>
        have : piece = [] := by simpa using idle
        simp [this]
      | cons next rest => simpa using ih gone
    next => simp at gone

/-- What is left ends with a piece that counts, or is a dot in front of a relative path. -/
theorem trimmed_eq_cons {absolute : Bool} {pieces before : List (List Char)} {last : List Char}
    (kept : trimmed absolute pieces = last :: before) :
    (∃ c, component? last = some c) ∨ (absolute = false ∧ last = ['.'] ∧ before = []) := by
  induction pieces with
  | nil => simp [trimmed] at kept
  | cons piece rest ih =>
    unfold trimmed at kept
    split at kept
    next => exact ih kept
    next counts =>
      obtain ⟨rfl, rfl⟩ := List.cons.inj kept
      cases own : component? piece with
      | some c => exact .inl ⟨c, rfl⟩
      | none =>
        have := (component?_eq_none_iff piece).mp own
        exact .inr (by grind)

/-- The component that a path ends with, and what is left of its pieces. -/
theorem components_of_trimmed {absolute : Bool} {pieces before : List (List Char)} {last : List Char}
    {c : Component} (kept : trimmed absolute pieces.reverse = last :: before)
    (counts : component? last = some c) :
    pieces.filterMap component? =
      (trimmed absolute before).reverse.filterMap component? ++ [c] := by
  have single : [last].filterMap component? = [c] := List.filterMap_cons_some counts
  have := filterMap_trimmed absolute pieces.reverse
  rw [kept, List.reverse_reverse, List.reverse_cons, List.filterMap_append, single] at this
  rw [filterMap_trimmed, this]

theorem fileName?_eq_some_iff (path name : String) :
    fileName? path = some name ↔ ∃ before, components path = before ++ [.name name] := by
  unfold fileName?
  constructor
  · intro h
    split at h
    next text last =>
      cases Option.some.inj h
      exact ⟨_, (List.dropLast_append_getLast? _ last).symm⟩
    next => cases h
  · rintro ⟨before, eq⟩
    simp [eq]

/-- Only names come from pieces, and each is a name of its own. -/
theorem IsName.of_component? {piece : List Char} {name : String} (free : '/' ∉ piece)
    (counts : component? piece = some (.name name)) : IsName name := by
  have spelled : name = String.ofList piece := by
    unfold component? at counts
    grind
  subst spelled
  exact ⟨by simpa using free, by simpa using counts⟩

/-- The text of pieces that are joined is made of them. -/
theorem pieces_join {kept : List (List Char)} (given : kept ≠ [])
    (free : ∀ piece ∈ kept, '/' ∉ piece) :
    pieces (Text.join "/" (kept.map String.ofList)) = kept :=
  split_join given free

/-- Joined pieces count for what they do apart. -/
theorem filterMap_pieces_join {kept : List (List Char)} (free : ∀ piece ∈ kept, '/' ∉ piece) :
    (pieces (Text.join "/" (kept.map String.ofList))).filterMap component? =
      kept.filterMap component? := by
  by_cases given : kept = []
  · subst given
    rfl
  · rw [pieces_join given free]

theorem ofPieces_absolute {body : List (List Char)} (given : body ≠ []) :
    ofPieces ([] :: body) = .root :: body.filterMap component? := by
  simp [ofPieces, front, given, component?]

theorem components_slash_text (text : String) :
    components ("/" ++ text) = .root :: (pieces text).filterMap component? := by
  have parts : pieces ("/" ++ text) = [] :: pieces text := by
    simpa [show pieces "" = [[]] from rfl] using pieces_append_slash "" text
  rw [components_eq, parts, ofPieces_absolute (pieces_ne_nil text)]

theorem front_ne_name (pieces : List (List Char)) (leading : List Component) (name : String) :
    front pieces ≠ leading ++ [.name name] := by
  unfold front
  split
  · cases leading <;> simp
  · split
    · cases leading <;> simp
    · simp

/-- In front of a relative path there is a dot or nothing. -/
theorem front_relative {pieces : List (List Char)}
    (relative : ¬(pieces.head? = some [] ∧ pieces.tail ≠ [])) :
    front pieces = if pieces.head? = some ['.'] then [.current] else [] := if_neg relative

section Parent

variable {path name : String} {leading : List Component} {absolute : Bool}
  {given before : List (List Char)} {last : List Char}

/-- The pieces of a parent are pieces of the path. -/
theorem free_of_trimmed (kept : trimmed absolute given.reverse = last :: before)
    (free : ∀ piece ∈ given, '/' ∉ piece) :
    ∀ piece ∈ (trimmed absolute before).reverse, '/' ∉ piece := by
  intro piece mem
  have inBefore := (trimmed_suffix absolute before).mem (List.mem_reverse.mp mem)
  have inKept : piece ∈ trimmed absolute given.reverse := by simp [kept, inBefore]
  exact free piece (List.mem_reverse.mp ((trimmed_suffix absolute _).mem inKept))

/-- The first piece of a relative path is the first piece of its parent, or there is no dot in front. -/
theorem front_of_trimmed (relative : ¬(given.head? = some [] ∧ given.tail ≠ []))
    (kept : trimmed false given.reverse = last :: before) {c : Component}
    (counts : component? last = some c) :
    front given =
      if trimmed false before = [] then [] else front (trimmed false before).reverse := by
  have first : (last :: before).getLast? = given.head? := by
    have := getLast?_trimmed (kept ▸ List.cons_ne_nil last before)
    rwa [kept, List.getLast?_reverse] at this
  rw [front_relative relative]
  cases before with
  | nil =>
    have : last ≠ ['.'] := by
      rintro rfl
      simp [component?] at counts
    simp [← first, trimmed, this]
  | cons next rest =>
    rw [List.getLast?_cons_cons] at first
    by_cases gone : trimmed false (next :: rest) = []
    · simpa [gone, ← first] using dot_not_trimmed gone
    · have same : (trimmed false (next :: rest)).reverse.head? = given.head? := by
        rw [List.head?_reverse, getLast?_trimmed gone, first]
      -- A relative path of two pieces or more does not start with an empty one.
      have more : given.tail ≠ [] := by
        have short := (trimmed_suffix false given.reverse).length_le
        rw [kept, List.length_reverse, List.length_cons, List.length_cons] at short
        intro tail
        have := congrArg List.length tail
        rw [List.length_tail, List.length_nil] at this
        omega
      have notEmpty : given.head? ≠ some [] := fun h => relative ⟨h, more⟩
      rw [if_neg gone, front_relative (fun h => notEmpty (same ▸ h.1)), same]

theorem components_parent_absolute (isRoot : isAbsolute path = true)
    (ends : components path = leading ++ [.name name]) :
    components path = components ((parent? path).getD "") ++ [.name name] := by
  obtain ⟨isEmpty, more⟩ := (isAbsolute_iff path).mp isRoot
  obtain ⟨first, body, parts⟩ := List.exists_cons_of_ne_nil (pieces_ne_nil path)
  rw [parts] at isEmpty more
  cases Option.some.inj isEmpty
  change body ≠ [] at more
  have free : ∀ piece ∈ [] :: body, '/' ∉ piece := parts ▸ not_mem_of_mem_split '/' path.toList
  rw [components_eq, parts, ofPieces_absolute more] at ends ⊢
  unfold parent?
  simp only [isRoot, parts, if_true, List.drop_succ_cons, List.drop_zero]
  cases kept : trimmed true body.reverse with
  | nil =>
    -- Nothing but the root is left, and that is no name.
    have nothing := filterMap_trimmed true body.reverse
    rw [kept, List.reverse_reverse] at nothing
    rw [← nothing] at ends
    cases leading <;> simp at ends
  | cons last before =>
    obtain ⟨c, counts⟩ : ∃ c, component? last = some c := by
      simpa using trimmed_eq_cons kept
    rw [components_of_trimmed kept counts, ← List.cons_append] at ends ⊢
    have isLast : c = .name name := List.singleton_inj.mp (List.append_inj' ends rfl).2
    have inside := free_of_trimmed kept fun piece mem => free piece (List.mem_cons_of_mem _ mem)
    rw [Option.getD_some, components_slash_text, filterMap_pieces_join inside, isLast]

theorem components_parent_relative (relative : isAbsolute path = false)
    (ends : components path = leading ++ [.name name]) :
    components path = components ((parent? path).getD "") ++ [.name name] := by
  have notRoot : ¬((pieces path).head? = some [] ∧ (pieces path).tail ≠ []) := by
    simpa [relative] using mt (isAbsolute_iff path).mpr
  have free : ∀ piece ∈ pieces path, '/' ∉ piece := not_mem_of_mem_split '/' path.toList
  rw [components_eq, ofPieces] at ends ⊢
  unfold parent?
  simp only [relative, Bool.false_eq_true, if_false]
  cases kept : trimmed false (pieces path).reverse with
  | nil =>
    have nothing := filterMap_trimmed false (pieces path).reverse
    rw [kept, List.reverse_reverse] at nothing
    rw [← nothing] at ends
    exact absurd ends (by simpa using front_ne_name (pieces path) leading name)
  | cons last before =>
    obtain ⟨c, counts⟩ | ⟨-, rfl, rfl⟩ := trimmed_eq_cons kept
    · rw [components_of_trimmed kept counts, ← List.append_assoc] at ends ⊢
      have isLast : c = .name name := List.singleton_inj.mp (List.append_inj' ends rfl).2
      have inside := free_of_trimmed kept free
      rw [front_of_trimmed notRoot kept counts, isLast, Option.getD_some]
      congr 1
      by_cases gone : trimmed false before = []
      · simp [gone]
        rfl
      · rw [if_neg gone, String.empty_append, components_eq, pieces_join (by simpa using gone) inside,
          ofPieces]
    · -- A dot alone is no name.
      have nothing := filterMap_trimmed false (pieces path).reverse
      rw [kept, List.reverse_reverse] at nothing
      rw [← nothing] at ends
      exact absurd ends (by simpa [component?] using front_ne_name (pieces path) leading name)

/-- The parent of a path that leads to a name has all components but that name. -/
theorem components_parent (named : fileName? path = some name) :
    components path = components ((parent? path).getD "") ++ [.name name] := by
  obtain ⟨leading, ends⟩ := (fileName?_eq_some_iff path name).mp named
  cases isRoot : isAbsolute path with
  | true => exact components_parent_absolute isRoot ends
  | false => exact components_parent_relative isRoot ends

end Parent

/-- What a path leads to by name is a name. -/
theorem IsName.of_fileName? {path name : String} (named : fileName? path = some name) :
    IsName name := by
  obtain ⟨leading, ends⟩ := (fileName?_eq_some_iff path name).mp named
  have mem : Component.name name ∈ front (pieces path) ++ (pieces path).filterMap component? := by
    rw [← ofPieces, ← components_eq, ends]
    simp
  rcases List.mem_append.mp mem with inFront | counted
  · unfold front at inFront
    grind
  · obtain ⟨piece, inPieces, counts⟩ := List.mem_filterMap.mp counted
    exact .of_component? (not_mem_of_mem_split '/' path.toList piece inPieces) counts

/-- Without a slash, what is longer than two dots is a name. -/
theorem IsName.of_length {name : String} (free : '/' ∉ name.toList) (long : 2 < name.toList.length) :
    IsName name := by
  refine ⟨free, ?_⟩
  unfold component?
  have notEmpty : name.toList ≠ [] := by rintro h; simp [h] at long
  have notDot : name.toList ≠ ['.'] := by rintro h; simp [h] at long
  have notUp : name.toList ≠ ['.', '.'] := by rintro h; simp [h] at long
  simp [notEmpty, notDot, notUp]

/-- The names to follow after one more component. The root is its own parent. -/
def Component.follow (names : List String) : Component → List String
  | .root => []
  | .current => names
  | .parent => names.dropLast
  | .name text => names ++ [text]

/-- The names to follow from the root on for a path, in the working directory `home`. -/
def place (home : List String) (path : String) : List String :=
  (components path).foldl Component.follow home

theorem place_join (home : List String) (directory : String) {name : String} (isName : IsName name) :
    place home (join directory name) = place home directory ++ [name] := by
  unfold place
  rw [components_join directory isName, List.foldl_append]
  rfl

theorem place_of_fileName? (home : List String) {path name : String}
    (named : fileName? path = some name) :
    place home path = place home ((parent? path).getD "") ++ [name] := by
  unfold place
  rw [components_parent named, List.foldl_append]
  rfl

end Dialogue.Path
