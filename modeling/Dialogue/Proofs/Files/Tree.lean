import Dialogue.Files.Tree
import Dialogue.Proofs.Files.Path

/-!
# What steps on a file tree change

A write changes the file that its path leads to and no other, and directories that are made hold no
files. So a program over a file tree changes files at most where it writes.
-/
namespace Dialogue.FileTree

/-- The bytes of the file at the end of a list of names. -/
def fileAt (tree : FileTree) (names : List String) : Option ByteArray :=
  match find names tree with
  | .ok (.file content) => some content
  | _ => none

@[simp] theorem fileAt_directory_nil (entries : List (String × FileTree)) :
    fileAt (.directory entries) [] = none := rfl

theorem fileAt_directory_cons (entries : List (String × FileTree)) (name : String)
    (rest : List String) :
    fileAt (.directory entries) (name :: rest) =
      (Table.lookup name entries).bind (fileAt · rest) := by
  unfold fileAt
  cases found : Table.lookup name entries <;> simp [find, found]

@[simp] theorem fileAt_empty (names : List String) : fileAt empty names = none := by
  cases names with
  | nil => rfl
  | cons name rest => rw [empty, fileAt_directory_cons, Table.lookup, Option.bind_none]

theorem fileAt_file (content : ByteArray) (names : List String) :
    fileAt (.file content) names = if names = [] then some content else none := by
  cases names <;> rfl

theorem lookup_putEntry (name other : String) (t : FileTree) (entries : List (String × FileTree)) :
    Table.lookup other (putEntry name t entries) =
      if name = other then some t else Table.lookup other entries := by
  induction entries with
  | nil => simp [putEntry, Table.lookup]
  | cons entry rest ih =>
    obtain ⟨key, old⟩ := entry
    by_cases h : key = name
    · by_cases same : name = other <;> simp [putEntry, Table.lookup, h, same]
    · by_cases first : key = other
      · subst first
        simp [putEntry, Table.lookup, h, Ne.symm h]
      · simp [putEntry, Table.lookup, h, first, ih]

/-- An entry that is put changes the files below its name. -/
theorem fileAt_putEntry (name : String) (t : FileTree) (entries : List (String × FileTree))
    (other : String) (rest : List String) :
    fileAt (.directory (putEntry name t entries)) (other :: rest) =
      if name = other then fileAt t rest else fileAt (.directory entries) (other :: rest) := by
  rw [fileAt_directory_cons, lookup_putEntry]
  by_cases same : name = other
  · simp [same]
  · simp [same, fileAt_directory_cons]

/-- A write changes one file. -/
theorem fileAt_writeAt {content : ByteArray} {written : List String} {tree after : FileTree}
    (done : writeAt content written tree = .ok after) (names : List String) :
    fileAt after names = if names = written then some content else fileAt tree names := by
  fun_induction writeAt content written tree generalizing after names with
  | case1 => cases done
  | case2 => cases done
  | case3 => cases done
  | case4 name entries free =>
    cases done
    cases names with
    | nil => simp
    | cons other rest =>
      rw [fileAt_putEntry, fileAt_file, fileAt_directory_cons]
      by_cases same : name = other
      · subst same
        cases found : Table.lookup name entries with
        | none => simp
        | some t =>
          cases t with
          | file old => cases rest <;> simp [fileAt_file]
          | directory inner => exact absurd found (free inner)
      · simp [same, Ne.symm same]
  | case5 name next rest entries t found ih =>
    cases inner : writeAt content (next :: rest) t with
    | error fault => simp [inner, bind, Except.bind] at done
    | ok made =>
      simp only [inner, bind, Except.bind, Except.ok.injEq] at done
      subst done
      cases names with
      | nil => simp
      | cons other below =>
        rw [fileAt_putEntry, ih inner, fileAt_directory_cons]
        by_cases same : name = other
        · simp [← same, found]
        · simp [same, Ne.symm same]
  | case6 => cases done

/-- Directories that are made hold no files. -/
theorem fileAt_makeAt {made : List String} {tree after : FileTree}
    (done : makeAt made tree = .ok after) (names : List String) :
    fileAt after names = fileAt tree names := by
  fun_induction makeAt made tree generalizing after names with
  | case1 => cases done; rfl
  | case2 => cases done
  | case3 => cases done
  | case4 name rest entries ih =>
    cases inner : makeAt rest ((Table.lookup name entries).getD empty) with
    | error fault => simp [inner, bind, Except.bind] at done
    | ok t =>
      simp only [inner, bind, Except.bind, Except.ok.injEq] at done
      subst done
      cases names with
      | nil => rfl
      | cons other below =>
        rw [fileAt_putEntry, ih inner, fileAt_directory_cons]
        by_cases same : name = other
        · cases found : Table.lookup name entries <;> simp [← same, found]
        · simp [same]

theorem fileAt_makeFrom {tree after : FileTree} {start : List String}
    {components : List Path.Component} (done : makeFrom tree start components = .ok after)
    (names : List String) : fileAt after names = fileAt tree names := by
  fun_induction makeFrom tree start components generalizing after with
  | case1 => exact fileAt_makeAt done names
  | case2 tree start rest ih => exact ih done
  | case3 tree start rest ih => exact ih done
  | case4 tree start text rest ih => exact ih done
  | case5 => cases done
  | case6 => cases done
  | case7 tree start rest made making _ ih => rw [ih done, fileAt_makeAt making]

/-- The names that a path resolves to do not depend on the tree. -/
theorem resolveFrom_eq {tree : FileTree} {start names : List String}
    {components : List Path.Component} (done : resolveFrom tree start components = .ok names) :
    names = components.foldl Path.Component.follow start := by
  fun_induction resolveFrom tree start components with
  | case1 => cases done; rfl
  | case2 start rest ih => exact ih done
  | case3 start rest ih => exact ih done
  | case4 start text rest ih => exact ih done
  | case5 start rest entries found ih => exact ih done
  | case6 => cases done
  | case7 => cases done

theorem fileAt_write {home : List String} {tree after : FileTree} {path text : String}
    (done : write home tree path text = .ok after) (names : List String) :
    fileAt after names =
      if names = Path.place home path then some text.toUTF8 else fileAt tree names := by
  unfold write resolve at done
  by_cases empty : path.isEmpty = true
  · simp [empty, bind, Except.bind] at done
  · cases found : resolveFrom tree home (Path.components path) with
    | error fault => simp [empty, found, bind, Except.bind] at done
    | ok target =>
      simp only [empty, found, bind, Except.bind] at done
      rw [fileAt_writeAt done, resolveFrom_eq found, Path.place]

theorem fileAt_makeDirectories {home : List String} {tree after : FileTree} {path : String}
    (done : makeDirectories home tree path = .ok after) (names : List String) :
    fileAt after names = fileAt tree names := by
  unfold makeDirectories at done
  split at done
  · cases done; rfl
  · exact fileAt_makeFrom done names

/-! ## Before and after -/

/-- Files have changed at most at the given places. -/
def Within (places : List (List String)) (before after : FileTree) : Prop :=
  ∀ names, names ∉ places → after.fileAt names = before.fileAt names

/-- The given files are there. -/
def Holds (tree : FileTree) (files : List (List String × ByteArray)) : Prop :=
  ∀ file ∈ files, tree.fileAt file.1 = some file.2

section Steps

variable {places later : List (List String)} {files : List (List String × ByteArray)}
  {before between after : FileTree}

theorem Within.refl (places : List (List String)) (tree : FileTree) : Within places tree tree :=
  fun _ _ => rfl

theorem Within.mono (changed : Within places before after) (sub : places ⊆ later) :
    Within later before after :=
  fun names free => changed names fun mem => free (sub mem)

theorem Within.trans (first : Within places before between) (second : Within later between after) :
    Within (places ++ later) before after := by
  intro names free
  rw [List.mem_append, not_or] at free
  rw [second names free.2, first names free.1]

/-- What is there stays there, unless it is written over. -/
theorem Holds.within (held : Holds before files) (changed : Within places before after)
    (disjoint : List.Disjoint (files.map Prod.fst) places) : Holds after files := by
  intro file mem
  rw [changed file.1 (disjoint (List.mem_map.mpr ⟨file, mem, rfl⟩)), held file mem]

theorem write_within (home : List String) (path text : String) (tree : FileTree) :
    ∃ result after, ((host home).write path text).run tree = (result, after) ∧
      Within [Path.place home path] tree after ∧
      (result = .ok () → after.fileAt (Path.place home path) = some text.toUTF8) := by
  cases done : write home tree path text with
  | error fault =>
    exact ⟨.error fault, tree, by simp [StateT.run, host, update, done], .refl _ _, by simp⟩
  | ok after =>
    refine ⟨.ok (), after, by simp [StateT.run, host, update, done], fun names free => ?_, fun _ => ?_⟩
    · rw [fileAt_write done, if_neg (by simpa using free)]
    · rw [fileAt_write done, if_pos rfl]

theorem makeDirectories_within (home : List String) (path : String) (tree : FileTree) :
    ∃ result after, ((host home).makeDirectories path).run tree = (result, after) ∧
      Within [] tree after := by
  cases done : makeDirectories home tree path with
  | error fault => exact ⟨.error fault, tree, by simp [StateT.run, host, update, done], .refl _ _⟩
  | ok after =>
    exact ⟨.ok (), after, by simp [StateT.run, host, update, done],
      fun names _ => fileAt_makeDirectories done names⟩

end Steps

end Dialogue.FileTree
