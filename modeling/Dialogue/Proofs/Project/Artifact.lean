import Dialogue.Project.Artifact
import Dialogue.Proofs.Files.Path
import Dialogue.Proofs.Text.Affix
import Mathlib.Data.List.Nodup

/-!
# Where compiled agents go

Each file that a compilation writes has the name of the document, with another ending, in the directory
of the document or in the one that was asked for. The documents of one run get in each other's way only
in ways that their names tell. Directories are compared as places, so that a relative path, an absolute one
and one with dots or ways up in it count as one when they lead to one directory from where the run starts.
-/
namespace Dialogue.Project

open Text

theorem Artifact.ending_inj {s t : String} {a b : Artifact} (same : s ++ a.ending = t ++ b.ending) :
    s = t ∧ a = b := by
  have last := congrArg (fun name : String => name.toList.getLast?) same
  cases a <;> cases b
  · exact ⟨(String.append_left_inj _).mp same, rfl⟩
  · simp [Artifact.ending] at last
  · simp [Artifact.ending] at last
  · exact ⟨(String.append_left_inj _).mp same, rfl⟩

theorem Artifact.ofFormat_ne_nil (format : OutputFormat) : ofFormat format ≠ [] := by
  cases format <;> decide

theorem Artifact.nodup_ofFormat (format : OutputFormat) : (ofFormat format).Nodup := by
  cases format <;> decide

theorem Artifact.json_mem_ofFormat (format : OutputFormat) :
    .json ∈ ofFormat format ↔ format.wantsJson = true := by
  cases format <;> decide

/-! ## Names -/

section Names

variable {path name stem : String}

theorem isSource_iff (path : String) :
    isSource path = true ↔ ∃ stem, Path.fileName? path = some (stem ++ sourceEnding) := by
  unfold isSource
  cases Path.fileName? path <;> simp [endsWith_iff]

theorem outputStem_eq (named : Path.fileName? path = some name) :
    outputStem path =
      ((withoutEnding? name sourceEnding).or (withoutEnding? name ".json")).getD name := by
  unfold outputStem
  rw [named, Option.getD_some]
  dsimp only
  cases withoutEnding? name sourceEnding <;> rfl

theorem outputStem_of_source (named : Path.fileName? path = some (stem ++ sourceEnding)) :
    outputStem path = stem := by
  rw [outputStem_eq named, withoutEnding?_append, Option.some_or, Option.getD_some]

theorem outputStem_of_json (named : Path.fileName? path = some (stem ++ ".json"))
    (other : isSource path = false) : outputStem path = stem := by
  have noSource : endsWith (stem ++ ".json") sourceEnding = false := by
    simpa [isSource, named] using other
  rw [outputStem_eq named, withoutEnding?_eq_none noSource, withoutEnding?_append, Option.none_or,
    Option.getD_some]

theorem outputStem_of_other (named : Path.fileName? path = some name) (other : isSource path = false)
    (notJson : endsWith name ".json" = false) : outputStem path = name := by
  have noSource : endsWith name sourceEnding = false := by simpa [isSource, named] using other
  rw [outputStem_eq named, withoutEnding?_eq_none noSource, withoutEnding?_eq_none notJson,
    Option.none_or, Option.getD_none]

/-- The name of the output is the beginning of the name of the document. -/
theorem outputStem_start (named : Path.fileName? path = some name) :
    ∃ rest, name = outputStem path ++ rest := by
  cases source : isSource path with
  | true =>
    obtain ⟨stem, given⟩ := (isSource_iff path).mp source
    cases named.symm.trans given
    exact ⟨sourceEnding, by rw [outputStem_of_source given]⟩
  | false =>
    cases json : endsWith name ".json" with
    | true =>
      obtain ⟨stem, rfl⟩ := (endsWith_iff name ".json").mp json
      exact ⟨".json", by rw [outputStem_of_json named source]⟩
    | false => exact ⟨"", by rw [outputStem_of_other named source json, String.append_empty]⟩

theorem free_outputStem (path : String) : '/' ∉ (outputStem path).toList := by
  cases named : Path.fileName? path with
  | none =>
    have unnamed : outputStem path = "agent" := by
      unfold outputStem
      rw [named]
      decide
    rw [unnamed]
    decide
  | some name =>
    obtain ⟨rest, eq⟩ := outputStem_start named
    have free := (Path.IsName.of_fileName? named).free
    rw [eq, String.toList_append, List.mem_append, not_or] at free
    exact free.1

theorem Artifact.isName {stem : String} (free : '/' ∉ stem.toList) (a : Artifact) :
    Path.IsName (stem ++ a.ending) := by
  cases a
  · exact .of_length (by simpa [Artifact.ending] using free) (by simp [Artifact.ending])
  · exact .of_length (by simpa [Artifact.ending] using free) (by simp [Artifact.ending])

/-- The directory that the files of a document go to. -/
def outputDirectory (output : OutputOptions) (path : String) : String :=
  output.directory.getD ((Path.parent? path).getD "")

/-- The name that the files of a document share. -/
def artifactStem (output : OutputOptions) (path : String) : String :=
  (outputPlace output.directory path).2

/-- The paths of the files that come of a document. -/
def artifactPaths (output : OutputOptions) (path : String) : List String :=
  (Artifact.ofFormat output.format).map
    (Artifact.path (outputDirectory output path) (artifactStem output path))

/-- A document is where it would be written over when the directory is its own, in the same spelling, and
its name ends as the output does. -/
theorem same_json_iff (named : Path.fileName? path = some name) (directory : String) :
    Path.same (Artifact.path directory (outputStem path) .json) path = true ↔
      Path.components directory = Path.components ((Path.parent? path).getD "") ∧
        outputStem path ++ ".json" = name := by
  have isName : Path.IsName (outputStem path ++ ".json") := Artifact.json.isName (free_outputStem path)
  unfold Path.same Artifact.path
  rw [beq_iff_eq, Artifact.ending, Path.components_join directory isName, Path.components_parent named]
  constructor
  · intro spelled
    obtain ⟨directories, names⟩ := List.append_inj' spelled (by simp)
    exact ⟨directories, Path.Component.name.inj (List.singleton_inj.mp names)⟩
  · rintro ⟨directories, names⟩
    rw [directories, names]

theorem artifactStem_def (output : OutputOptions) (path : String) :
    artifactStem output path =
      if Path.same (Artifact.path (outputDirectory output path) (outputStem path) .json) path = true
      then outputStem path ++ ".compiled" else outputStem path := by
  unfold artifactStem outputPlace outputDirectory
  dsimp only

theorem artifactStem_eq (output : OutputOptions) (named : Path.fileName? path = some name) :
    artifactStem output path =
      if Path.components (outputDirectory output path) = Path.components ((Path.parent? path).getD "") ∧
          outputStem path ++ ".json" = name
      then outputStem path ++ ".compiled" else outputStem path := by
  have guard := same_json_iff named (outputDirectory output path)
  rw [artifactStem_def]
  by_cases h :
      Path.same (Artifact.path (outputDirectory output path) (outputStem path) .json) path = true
  · rw [if_pos (guard.mp h), if_pos h]
  · rw [if_neg (mt guard.mpr h), if_neg h]

theorem free_artifactStem (output : OutputOptions) (path : String) :
    '/' ∉ (artifactStem output path).toList := by
  rw [artifactStem_def]
  split
  · simpa using free_outputStem path
  · exact free_outputStem path

theorem place_artifact (home : List String) (output : OutputOptions) (path : String) (a : Artifact) :
    Path.place home (a.path (outputDirectory output path) (artifactStem output path)) =
      Path.place home (outputDirectory output path) ++ [artifactStem output path ++ a.ending] := by
  rw [Artifact.path, Path.place_join home _ (Artifact.isName (free_artifactStem output path) a)]

/-- The files of a document are in one directory and differ in their endings. -/
theorem places_artifactPaths (home : List String) (output : OutputOptions) (path : String) :
    (artifactPaths output path).map (Path.place home) =
      (Artifact.ofFormat output.format).map fun a =>
        Path.place home (outputDirectory output path) ++ [artifactStem output path ++ a.ending] := by
  unfold artifactPaths
  rw [List.map_map]
  refine List.map_congr_left fun a _ => ?_
  rw [Function.comp_apply, place_artifact]

end Names

/-! ## Runs that keep their files apart -/

/-- A run that starts in `home`, finds the documents `inputs` and compiles those in `compiled` writes no
file twice and none over a document. -/
structure Clear (home : List String) (output : OutputOptions) (inputs compiled : List String) :
    Prop where
  apart : ((compiled.flatMap (artifactPaths output)).map (Path.place home)).Nodup
  spared : ∀ artifact ∈ compiled.flatMap (artifactPaths output), ∀ path ∈ inputs,
    Path.place home artifact ≠ Path.place home path

section Clear

variable (home : List String) (output : OutputOptions) {inputs compiled : List String}

/-- Two documents write one file when their files share directory and name. -/
theorem disjoint_artifacts_iff (p q : String) :
    List.Disjoint ((artifactPaths output p).map (Path.place home)) ((artifactPaths output q).map (Path.place home)) ↔
      (Path.place home (outputDirectory output p) = Path.place home (outputDirectory output q) →
        artifactStem output p ≠ artifactStem output q) := by
  rw [places_artifactPaths, places_artifactPaths]
  constructor
  · intro disjoint directories stems
    obtain ⟨a, mem⟩ := List.exists_mem_of_ne_nil _ (Artifact.ofFormat_ne_nil output.format)
    refine disjoint (List.mem_map.mpr ⟨a, mem, rfl⟩) (List.mem_map.mpr ⟨a, mem, ?_⟩)
    rw [directories, stems]
  · intro differ names first second
    obtain ⟨a, -, rfl⟩ := List.mem_map.mp first
    obtain ⟨b, -, eq⟩ := List.mem_map.mp second
    obtain ⟨directories, last⟩ := List.append_inj' eq (by simp)
    exact differ directories.symm (Artifact.ending_inj (List.singleton_inj.mp last)).1.symm

theorem nodup_artifacts (path : String) : ((artifactPaths output path).map (Path.place home)).Nodup := by
  rw [places_artifactPaths]
  refine (Artifact.nodup_ofFormat output.format).map fun a b eq => ?_
  obtain ⟨-, last⟩ := List.append_inj' eq (by simp)
  exact (Artifact.ending_inj (List.singleton_inj.mp last)).2

theorem apart_iff :
    ((compiled.flatMap (artifactPaths output)).map (Path.place home)).Nodup ↔
      compiled.Pairwise fun p q =>
        Path.place home (outputDirectory output p) = Path.place home (outputDirectory output q) →
          artifactStem output p ≠ artifactStem output q := by
  rw [List.map_flatMap, List.nodup_flatMap]
  constructor
  · rintro ⟨-, disjoint⟩
    exact disjoint.imp fun {p q} h => (disjoint_artifacts_iff home output p q).mp h
  · intro differ
    exact ⟨fun p _ => nodup_artifacts home output p,
      differ.imp fun {p q} h => (disjoint_artifacts_iff home output p q).mpr h⟩

/-- A file is written over a document when it has the name of the document, in its directory. -/
theorem spared_iff (named : ∀ q ∈ inputs, ∃ name, Path.fileName? q = some name) :
    (∀ artifact ∈ compiled.flatMap (artifactPaths output), ∀ q ∈ inputs,
        Path.place home artifact ≠ Path.place home q) ↔
      ∀ p ∈ compiled, ∀ q ∈ inputs, ∀ a ∈ Artifact.ofFormat output.format,
        Path.fileName? q = some (artifactStem output p ++ a.ending) →
          Path.place home (outputDirectory output p) ≠ (Path.place home q).dropLast := by
  constructor
  · intro spared p first q second a wanted namedQ directories
    refine spared _ (List.mem_flatMap.mpr ⟨p, first, List.mem_map.mpr ⟨a, wanted, rfl⟩⟩) q second ?_
    rw [place_artifact, Path.place_of_fileName? home namedQ, directories, Path.place_of_fileName? home namedQ,
      List.dropLast_concat]
  · intro differ artifact mem q second eq
    obtain ⟨p, first, written⟩ := List.mem_flatMap.mp mem
    obtain ⟨a, wanted, rfl⟩ := List.mem_map.mp written
    obtain ⟨n, namedQ⟩ := named q second
    rw [place_artifact, Path.place_of_fileName? home namedQ] at eq
    obtain ⟨directories, last⟩ := List.append_inj' eq (by simp)
    refine differ p first q second a wanted (namedQ.trans ?_) ?_
    · rw [List.singleton_inj.mp last]
    · rw [directories, Path.place_of_fileName? home namedQ, List.dropLast_concat]

theorem sourceEnding_eq : sourceEnding = ".ast" ++ Artifact.json.ending := by decide

/-- What is compiled from a document goes by the name of the document. -/
theorem artifactStem_of_source {path stem : String}
    (named : Path.fileName? path = some (stem ++ sourceEnding)) : artifactStem output path = stem := by
  have other : stem ++ ".json" ≠ stem ++ sourceEnding := fun same =>
    absurd ((String.append_right_inj _).mp same) (by decide)
  rw [artifactStem_eq output named, outputStem_of_source named, if_neg fun guard => other guard.2]

/-- The file that has the name of a document ends as JSON, and comes of a document with one ending
more. -/
theorem artifact_named_source_iff {p stem other : String} {a : Artifact}
    (named : Path.fileName? p = some (stem ++ sourceEnding)) :
    other ++ sourceEnding = artifactStem output p ++ a.ending ↔
      a = .json ∧ stem = other ++ ".ast" := by
  rw [artifactStem_of_source output named, sourceEnding_eq, ← String.append_assoc]
  constructor
  · intro same
    obtain ⟨stems, endings⟩ := Artifact.ending_inj same
    exact ⟨endings.symm, stems.symm⟩
  · rintro ⟨rfl, rfl⟩
    rfl

/-- Documents are found by their names, so beside each other they write different files. -/
theorem apart_sources_iff (sources : ∀ p ∈ compiled, isSource p = true)
    (distinct : (compiled.map (Path.place home)).Nodup) :
    ((compiled.flatMap (artifactPaths output)).map (Path.place home)).Nodup ↔
      (output.directory.isSome = true → (compiled.map Path.fileName?).Nodup) := by
  have named : ∀ p ∈ compiled, ∃ stem, Path.fileName? p = some (stem ++ sourceEnding) := fun p mem =>
    (isSource_iff p).mp (sources p mem)
  have stems : ∀ p ∈ compiled, ∀ q ∈ compiled,
      (artifactStem output p = artifactStem output q ↔ Path.fileName? p = Path.fileName? q) := by
    intro p first q second
    obtain ⟨m, namedP⟩ := named p first
    obtain ⟨n, namedQ⟩ := named q second
    rw [artifactStem_of_source output namedP, artifactStem_of_source output namedQ, namedP, namedQ,
      Option.some_inj, String.append_left_inj]
  rw [apart_iff, List.Nodup, List.pairwise_map]
  rw [List.Nodup, List.pairwise_map] at distinct
  cases given : output.directory with
  | none =>
    refine iff_of_true ?_ (by simp)
    refine distinct.imp_of_mem fun {p q} first second differ directories same => differ ?_
    obtain ⟨m, namedP⟩ := named p first
    have namedQ := ((stems p first q second).mp same).symm.trans namedP
    rw [outputDirectory, outputDirectory, given, Option.getD_none, Option.getD_none] at directories
    rw [Path.place_of_fileName? home namedP, Path.place_of_fileName? home namedQ, directories]
  | some directory =>
    have one : ∀ p, outputDirectory output p = directory := fun p => by
      rw [outputDirectory, given, Option.getD_some]
    constructor
    · intro pairwise _
      refine pairwise.imp_of_mem fun {p q} first second differ => ?_
      exact mt (stems p first q second).mpr (differ (by rw [one, one]))
    · intro names
      refine (names rfl).imp_of_mem fun {p q} first second differ _ => ?_
      exact mt (stems p first q second).mp differ

theorem spared_sources_iff (sources : ∀ p ∈ inputs, isSource p = true)
    (part : ∀ p ∈ compiled, p ∈ inputs) :
    (∀ artifact ∈ compiled.flatMap (artifactPaths output), ∀ q ∈ inputs,
        Path.place home artifact ≠ Path.place home q) ↔
      (output.format.wantsJson = true → ∀ p ∈ compiled, ∀ q ∈ inputs, ∀ stem,
        Path.fileName? p = some (stem ++ ".ast" ++ sourceEnding) →
        Path.fileName? q = some (stem ++ sourceEnding) →
        Path.place home (outputDirectory output p) ≠ (Path.place home q).dropLast) := by
  have named : ∀ p ∈ inputs, ∃ stem, Path.fileName? p = some (stem ++ sourceEnding) := fun p mem =>
    (isSource_iff p).mp (sources p mem)
  have isNamed : ∀ p ∈ inputs, ∃ name, Path.fileName? p = some name := fun p mem =>
    (named p mem).imp' (· ++ sourceEnding) fun _ h => h
  rw [spared_iff home output isNamed]
  constructor
  · intro differ wanted p first q second stem namedP namedQ
    refine differ p first q second .json ((Artifact.json_mem_ofFormat _).mpr wanted) ?_
    rw [namedQ, (artifact_named_source_iff output namedP).mpr ⟨rfl, rfl⟩]
  · intro differ p first q second a wanted same
    obtain ⟨m, namedP⟩ := named p (part p first)
    obtain ⟨n, namedQ⟩ := named q second
    rw [namedQ, Option.some_inj, artifact_named_source_iff output namedP] at same
    obtain ⟨rfl, rfl⟩ := same
    exact differ ((Artifact.json_mem_ofFormat _).mp wanted) p first q second n namedP namedQ

/-- Documents that are found by their names keep out of each other's way: no two of one name go to one
directory, and none is where the output of another goes, which then has one ending more. -/
structure SourcesClear (home : List String) (output : OutputOptions) (inputs compiled : List String) :
    Prop where
  names : output.directory.isSome = true → (compiled.map Path.fileName?).Nodup
  stacked : output.format.wantsJson = true → ∀ p ∈ compiled, ∀ q ∈ inputs, ∀ stem,
    Path.fileName? p = some (stem ++ ".ast" ++ sourceEnding) →
    Path.fileName? q = some (stem ++ sourceEnding) →
    Path.place home (outputDirectory output p) ≠ (Path.place home q).dropLast

/-- The documents below a directory keep out of each other's way, unless their files go to one directory
and two of them have one name, or one of them is named as the output of another. -/
theorem clear_iff_of_sources (sources : ∀ p ∈ inputs, isSource p = true)
    (distinct : (inputs.map (Path.place home)).Nodup) (part : compiled.Sublist inputs) :
    Clear home output inputs compiled ↔ SourcesClear home output inputs compiled := by
  have apart := apart_sources_iff home output (fun p mem => sources p (part.subset mem))
    (distinct.sublist (part.map (Path.place home)))
  have spared := spared_sources_iff home output sources fun p mem => part.subset mem
  exact ⟨fun clear => ⟨apart.mp clear.apart, spared.mp clear.spared⟩,
    fun fine => ⟨apart.mpr fine.names, spared.mpr fine.stacked⟩⟩

/-- Only a JSON file that is no document by its name shares its name with its output, unless the
directory gives it away. -/
theorem artifact_named_alike_iff {path name : String} {a : Artifact}
    (named : Path.fileName? path = some name) :
    name = artifactStem output path ++ a.ending ↔
      a = .json ∧ endsWith name ".json" = true ∧ isSource path = false ∧
        Path.components (outputDirectory output path) ≠ Path.components ((Path.parent? path).getD "") := by
  have longer : ∀ text more : String, more ≠ "" → text ≠ text ++ more := fun text more given same =>
    given (String.append_eq_left_iff.mp same.symm)
  cases source : isSource path with
  | true =>
    obtain ⟨stem, given⟩ := (isSource_iff path).mp source
    cases named.symm.trans given
    rw [artifact_named_source_iff output named]
    simp [longer stem ".ast" (by decide)]
  | false =>
    rw [artifactStem_eq output named]
    cases json : endsWith name ".json" with
    | true =>
      obtain ⟨stem, rfl⟩ := (endsWith_iff name ".json").mp json
      rw [outputStem_of_json named source]
      by_cases spelled :
          Path.components (outputDirectory output path) = Path.components ((Path.parent? path).getD "")
      · rw [if_pos ⟨spelled, rfl⟩, String.append_assoc, String.append_right_inj]
        cases a <;> simp [spelled, Artifact.ending]
      · rw [if_neg fun guard => spelled guard.1, String.append_right_inj]
        cases a <;> simp [spelled, Artifact.ending]
    | false =>
      rw [outputStem_of_other named source json,
        if_neg fun guard => longer name ".json" (by decide) guard.2.symm]
      cases a <;> simp [longer, Artifact.ending]

/-- A JSON file that is no document by its name, and whose own directory is asked for in another
spelling. -/
structure RespelledOwn (home : List String) (output : OutputOptions) (path : String) : Prop where
  wanted : output.format.wantsJson = true
  json : ∃ stem, Path.fileName? path = some (stem ++ ".json")
  other : isSource path = false
  spelled : ∃ directory, output.directory = some directory ∧
    Path.place home directory = (Path.place home path).dropLast ∧
    Path.components directory ≠ (Path.components path).dropLast

/-- A file of any name is written over when it is no document by its name but is JSON, and its directory
is asked for in another spelling. -/
theorem clear_iff_of_single {path name : String} (named : Path.fileName? path = some name) :
    Clear home output [path] [path] ↔ ¬RespelledOwn home output path := by
  have single : ∀ p ∈ [path], ∃ name, Path.fileName? p = some name := by
    intro p mem
    cases List.mem_singleton.mp mem
    exact ⟨name, named⟩
  have above : (Path.components path).dropLast = Path.components ((Path.parent? path).getD "") := by
    rw [Path.components_parent named, List.dropLast_concat]
  have spared := @spared_iff home output [path] [path] single
  simp only [List.mem_singleton, forall_eq, named, Option.some_inj,
    artifact_named_alike_iff output named] at spared
  constructor
  · rintro clear ⟨wanted, ⟨stem, ends⟩, other, directory, given, own, spelled⟩
    have json : endsWith name ".json" = true :=
      (endsWith_iff name ".json").mpr ⟨stem, Option.some_inj.mp (named.symm.trans ends)⟩
    have asked : outputDirectory output path = directory := by
      rw [outputDirectory, given, Option.getD_some]
    refine spared.mp ?_ .json ((Artifact.json_mem_ofFormat _).mpr wanted)
      ⟨rfl, json, other, ?_⟩ (by rw [asked, own])
    · exact fun artifact mem => clear.spared artifact mem path (List.mem_singleton.mpr rfl)
    · rwa [asked, ← above]
  · intro fine
    refine ⟨(apart_iff home output).mpr (List.pairwise_singleton _ _), fun artifact mem p isPath => ?_⟩
    cases List.mem_singleton.mp isPath
    refine spared.mpr ?_ artifact mem
    rintro a wanted ⟨rfl, json, other, spelled⟩ own
    cases given : output.directory with
    | none =>
      rw [outputDirectory, given, Option.getD_none] at spelled
      exact spelled rfl
    | some directory =>
      have asked : outputDirectory output path = directory := by
        rw [outputDirectory, given, Option.getD_some]
      rw [asked] at own
      rw [asked, ← above] at spelled
      obtain ⟨stem, rfl⟩ := (endsWith_iff name ".json").mp json
      exact fine ⟨(Artifact.json_mem_ofFormat _).mp wanted, ⟨stem, named⟩, other, directory, given, own,
        spelled⟩

/-- An absolute path is another spelling of the directory that the run starts in, or of one in it. -/
example : RespelledOwn ["work"] ⟨.json, false, some "/work/shop"⟩ "shop/coffee.json" :=
  ⟨rfl, ⟨"coffee", by decide +kernel⟩, by decide +kernel, "/work/shop", rfl, by decide +kernel,
    by decide +kernel⟩

end Clear

end Dialogue.Project
