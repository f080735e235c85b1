import Dialogue.Command.Run
import Dialogue.Proofs.Compilation.Success
import Dialogue.Proofs.Files.Tree
import Dialogue.Proofs.Project.Artifact

/-!
# What a compiling run does to the files

A run writes the files of the documents that compile and changes no other file. Whether these files get
in each other's way, or in the way of the documents, is told by names alone.
-/
namespace Dialogue

open FileTree (Within Holds)

/-! ## Running steps one after the other -/

section Running

variable {σ κ ε α β : Type} {s t : σ}

theorem run_bind (x : ExceptT ε (StateM σ) α) (f : α → ExceptT ε (StateM σ) β) :
    (x >>= f).run.run s = (ExceptT.bindCont f (x.run.run s).1).run (x.run.run s).2 := rfl

theorem run_bind_of_ok {x : ExceptT ε (StateM σ) α} {f : α → ExceptT ε (StateM σ) β} {a : α}
    (done : x.run.run s = (.ok a, t)) : (x >>= f).run.run s = (f a).run.run t := by
  rw [run_bind, done]
  rfl

theorem run_bind_of_error {x : ExceptT ε (StateM σ) α} {f : α → ExceptT ε (StateM σ) β} {e : ε}
    (done : x.run.run s = (.error e, t)) : (x >>= f).run.run s = (.error e, t) := by
  rw [run_bind, done]
  rfl

theorem run_lift_bind {x : StateM σ α} {f : α → ExceptT ε (StateM σ) β} {a : α}
    (done : x.run s = (a, t)) :
    (liftM x >>= f : ExceptT ε (StateM σ) β).run.run s = (f a).run.run t := by
  have steps : (liftM x >>= f : ExceptT ε (StateM σ) β).run.run s =
      (f (x.run s).1).run.run (x.run s).2 := rfl
  rw [steps, done]

theorem run_session_bind {x : StateT κ (StateM σ) α} {f : α → StateT κ (StateM σ) β} {k l : κ} {a : α}
    (done : (x.run k).run s = ((a, l), t)) : ((x >>= f).run k).run s = ((f a).run l).run t := by
  have steps : ((x >>= f).run k).run s =
      ((f ((x.run k).run s).1.1).run ((x.run k).run s).1.2).run ((x.run k).run s).2 := rfl
  rw [steps, done]

end Running

/-! ## One document -/

namespace Project

section Writing

variable (home : List String) (c : CompiledAgent) (directory stem : String) (pretty : Bool)

/-- A file of a document at its place. -/
def artifactFile (a : Artifact) : List String × ByteArray :=
  (Path.place home (a.path directory stem), (a.text c pretty).toUTF8)

theorem writeArtifact_run (a : Artifact) (tree : FileTree) :
    ∃ result after,
      (writeArtifact (FileTree.host home) c directory stem pretty a).run.run tree = (result, after) ∧
      Within [(artifactFile home c directory stem pretty a).1] tree after ∧
      (∀ written, result = .ok written → Holds after [artifactFile home c directory stem pretty a]) := by
  obtain ⟨result, after, run, within, done⟩ :=
    FileTree.write_within home (a.path directory stem) (a.text c pretty) tree
  unfold writeArtifact
  rw [run_lift_bind run]
  cases result with
  | error fault => exact ⟨_, after, rfl, within, fun written failed => nomatch failed⟩
  | ok _ =>
    refine ⟨_, after, rfl, within, fun written _ => ?_⟩
    simpa [Holds, artifactFile] using done rfl

/-- Files at different places are all there when all could be written. -/
theorem writeEach_run (artifacts : List Artifact)
    (distinct : (artifacts.map fun a => (artifactFile home c directory stem pretty a).1).Nodup)
    (tree : FileTree) :
    ∃ result after,
      (artifacts.mapM (writeArtifact (FileTree.host home) c directory stem pretty)).run.run tree =
        (result, after) ∧
      Within (artifacts.map fun a => (artifactFile home c directory stem pretty a).1) tree after ∧
      (∀ written, result = .ok written →
        Holds after (artifacts.map (artifactFile home c directory stem pretty))) := by
  induction artifacts generalizing tree with
  | nil => exact ⟨.ok [], tree, rfl, .refl _ _, fun _ _ file mem => nomatch mem⟩
  | cons a rest ih =>
    rw [List.map_cons, List.nodup_cons] at distinct
    obtain ⟨first, between, run, within, done⟩ := writeArtifact_run home c directory stem pretty a tree
    obtain ⟨later, after, runRest, withinRest, doneRest⟩ := ih distinct.2 between
    rw [List.mapM_cons]
    cases first with
    | error e =>
      exact ⟨.error e, between, run_bind_of_error run, within.mono (by simp),
        fun written failed => nomatch failed⟩
    | ok path =>
      rw [run_bind_of_ok run]
      have changed := within.trans withinRest
      cases later with
      | error e => exact ⟨.error e, after, run_bind_of_error runRest, changed, fun _ h => nomatch h⟩
      | ok paths =>
        refine ⟨.ok (path :: paths), after, ?_, changed, fun _ _ => ?_⟩
        · rw [run_bind_of_ok runRest]
          rfl
        · have kept : Holds after [artifactFile home c directory stem pretty a] :=
            (done path rfl).within withinRest (by simpa using distinct.1)
          intro file mem
          rcases List.mem_cons.mp mem with rfl | mem
          · exact kept _ (List.mem_singleton.mpr rfl)
          · exact doneRest paths rfl file mem

end Writing

variable (home : List String) (output : OutputOptions) (path : String) (c : CompiledAgent)

theorem outputPlace_eq :
    outputPlace output.directory path = (outputDirectory output path, artifactStem output path) := by
  unfold artifactStem outputDirectory outputPlace
  dsimp only

/-- The files that come of a document, at their places. -/
def artifactFiles : List (List String × ByteArray) :=
  (Artifact.ofFormat output.format).map
    (artifactFile home c (outputDirectory output path) (artifactStem output path) output.pretty)

theorem map_fst_artifactFiles :
    (artifactFiles home output path c).map Prod.fst = (artifactPaths output path).map (Path.place home) := by
  unfold artifactFiles artifactPaths
  rw [List.map_map, List.map_map]
  exact List.map_congr_left fun a _ => by simp only [Function.comp_apply, artifactFile]

theorem writeArtifacts_run (tree : FileTree) :
    ∃ result after,
      (writeArtifacts (FileTree.host home) c (outputDirectory output path) (artifactStem output path)
        output.format output.pretty).run.run tree = (result, after) ∧
      Within ((artifactPaths output path).map (Path.place home)) tree after ∧
      (∀ written, result = .ok written → Holds after (artifactFiles home output path c)) := by
  obtain ⟨made, between, make, within⟩ :=
    FileTree.makeDirectories_within home (outputDirectory output path) tree
  have distinct := nodup_artifacts home output path
  rw [← map_fst_artifactFiles home output path c, artifactFiles, List.map_map] at distinct
  unfold writeArtifacts
  rw [run_lift_bind make]
  cases made with
  | error fault => exact ⟨_, between, rfl, within.mono (by simp), fun written failed => nomatch failed⟩
  | ok _ =>
    obtain ⟨result, after, run, withinEach, done⟩ := writeEach_run home c (outputDirectory output path)
      (artifactStem output path) output.pretty _ distinct between
    refine ⟨result, after, run, ?_, done⟩
    rw [← map_fst_artifactFiles home output path c, artifactFiles, List.map_map]
    exact within.trans withinEach

end Project

namespace Command

open Project

theorem printDiagnostics_run (coloured : Bool) (text : Option String) (ds : List Diagnostic)
    (console : Console) (tree : FileTree) :
    ∃ printed, ((printDiagnostics coloured text ds : Session (StateM FileTree) Unit).run console).run
      tree = (((), printed), tree) := by
  induction ds generalizing console with
  | nil => exact ⟨console, rfl⟩
  | cons d rest ih =>
    obtain ⟨printed, run⟩ :=
      ih { console with stderr := console.stderr ++ Report.render d text coloured }
    exact ⟨printed, run⟩

theorem attempt_run {α : Type} {x : ExceptT Project.Error (StateM FileTree) α}
    {result : Except Project.Error α} {tree after : FileTree} (console : Console)
    (done : x.run.run tree = (result, after)) :
    ((attempt x).run console).run tree = ((result, console), after) := by
  have steps : ((attempt x).run console).run tree =
      (((x.run.run tree).1, console), (x.run.run tree).2) := rfl
  rw [steps, done]

theorem compiled_of_exitCode {options : CompilerOptions} {source : SourceDocument}
    (good : (compile options source).exitCode = .success) :
    ∃ c, (compile options source).data = some c := by
  rw [CompilationResult.exitCode, ExitCode.ofDiagnostics_eq_success_iff, compile_error_free_iff,
    ← compile_success_iff] at good
  exact Option.isSome_iff_exists.mp good

/-- The paths of the files that a document gives: none if it does not compile. -/
def writtenPaths (options : CompilerOptions) (output : OutputOptions) (path : String)
    (source : SourceDocument) : List String :=
  if (compile options source).success then artifactPaths output path else []

theorem writtenPaths_of_data {options : CompilerOptions} {source : SourceDocument} {c : CompiledAgent}
    (given : (compile options source).data = some c) (output : OutputOptions) (path : String) :
    writtenPaths options output path source = artifactPaths output path :=
  if_pos (Option.isSome_iff_exists.mpr ⟨c, given⟩)

/-- A document writes its own files, and these are there when all went well. -/
theorem compileOne_run (home : List String) (coloured : Bool) (options : CompilerOptions) (output : OutputOptions)
    (path : String) (source : SourceDocument) (console : Console) (tree : FileTree) :
    ∃ exit printed after,
      ((compileOne (FileTree.host home) coloured options output path source).run console).run tree =
        ((exit, printed), after) ∧
      Within ((writtenPaths options output path source).map (Path.place home)) tree after ∧
      (exit = .success → ∃ c, (compile options source).data = some c ∧
        Holds after (artifactFiles home output path c)) := by
  obtain ⟨printed, print⟩ := printDiagnostics_run coloured source.source
    (compile options source).diagnostics console tree
  unfold compileOne
  rw [run_session_bind print]
  cases given : (compile options source).data with
  | none =>
    refine ⟨(compile options source).exitCode, _, tree, rfl, .refl _ _, fun good => ?_⟩
    obtain ⟨c, compiled⟩ := compiled_of_exitCode good
    exact nomatch given.symm.trans compiled
  | some c =>
    obtain ⟨result, after, run, within, done⟩ := writeArtifacts_run home output path c tree
    rw [writtenPaths_of_data given]
    dsimp only
    rw [outputPlace_eq]
    dsimp only
    rw [run_session_bind (attempt_run printed run)]
    cases result with
    | error e =>
      refine ⟨(compile options source).exitCode.worst e.exitCode, _, after, rfl, within, fun good => ?_⟩
      have failed : e.exitCode ≠ .success := by cases e <;> simp [Error.exitCode]
      exact absurd ((ExitCode.worst_eq_success_iff _ _).mp good).2 failed
    | ok written =>
      exact ⟨(compile options source).exitCode, _, after, rfl, within,
        fun _ => ⟨c, rfl, done written rfl⟩⟩

/-! ## All documents -/

/-- The first document, and then the others with the code that it leaves. -/
theorem worstOver_cons_run {step : String → SourceDocument → Session (StateM FileTree) ExitCode}
    {path : String} {source : SourceDocument} {exit code : ExitCode} {console between : Console}
    {tree after : FileTree} {rest : Loaded}
    (done : ((step path source).run console).run tree = ((code, between), after)) :
    ((worstOver exit ((path, source) :: rest) step).run console).run tree =
      ((worstOver (exit.worst code) rest step).run between).run after := by
  have first : ((step path source >>= fun code => pure (exit.worst code)).run console).run tree =
      ((exit.worst code, between), after) := by
    rw [run_session_bind done]
    rfl
  unfold worstOver
  rw [List.foldlM_cons]
  exact run_session_bind first

section All

variable (home : List String) (options : CompilerOptions) (output : OutputOptions)

/-- The paths of all files that a run may write. -/
def allWritten (loaded : Loaded) : List String :=
  loaded.flatMap fun document => writtenPaths options output document.1 document.2

/-- The paths of the documents that compile. -/
def compiledPaths (loaded : Loaded) : List String :=
  (loaded.filter fun document => (compile options document.2).success).map Prod.fst

theorem allWritten_eq (loaded : Loaded) :
    allWritten options output loaded =
      (compiledPaths options loaded).flatMap (artifactPaths output) := by
  unfold allWritten compiledPaths
  induction loaded with
  | nil => rfl
  | cons document rest ih =>
    rw [List.flatMap_cons, ih, writtenPaths]
    cases success : (compile options document.2).success with
    | true => simp [success]
    | false => simp [success]

/-- One document after the other: files change where documents write, and when the run ends well and no
file is written twice, the files of all documents are there. -/
theorem worstOver_run (coloured : Bool) (loaded : Loaded) (exit : ExitCode) (console : Console)
    (tree : FileTree) :
    ∃ final printed after,
      ((worstOver exit loaded (compileOne (FileTree.host home) coloured options output)).run console).run
        tree = ((final, printed), after) ∧
      Within ((allWritten options output loaded).map (Path.place home)) tree after ∧
      (final = .success → exit = .success) ∧
      (final = .success → ((allWritten options output loaded).map (Path.place home)).Nodup →
        ∀ document ∈ loaded, ∃ c, (compile options document.2).data = some c ∧
          Holds after (artifactFiles home output document.1 c)) := by
  induction loaded generalizing exit console tree with
  | nil => exact ⟨exit, console, tree, rfl, .refl _ _, id, fun _ _ document mem => nomatch mem⟩
  | cons document rest ih =>
    obtain ⟨path, source⟩ := document
    obtain ⟨first, between, tree', run, within, done⟩ :=
      compileOne_run home coloured options output path source console tree
    obtain ⟨final, printed, after, runRest, withinRest, start, doneRest⟩ :=
      ih (exit.worst first) between tree'
    have places : (allWritten options output ((path, source) :: rest)).map (Path.place home) =
        (writtenPaths options output path source).map (Path.place home) ++
          (allWritten options output rest).map (Path.place home) := by
      rw [allWritten, List.flatMap_cons, List.map_append, allWritten]
    rw [places]
    refine ⟨final, printed, after, ?_, within.trans withinRest,
      fun good => ((ExitCode.worst_eq_success_iff _ _).mp (start good)).1, fun good distinct => ?_⟩
    · rw [worstOver_cons_run run]
      exact runRest
    · obtain ⟨-, distinctRest, disjoint⟩ := List.nodup_append'.mp distinct
      intro document mem
      rcases List.mem_cons.mp mem with rfl | mem
      · obtain ⟨c, given, held⟩ := done ((ExitCode.worst_eq_success_iff _ _).mp (start good)).2
        refine ⟨c, given, held.within withinRest ?_⟩
        rwa [map_fst_artifactFiles, ← writtenPaths_of_data given]
      · exact doneRest good distinctRest document mem

theorem compiledPaths_sublist (loaded : Loaded) :
    (compiledPaths options loaded).Sublist (loaded.map Prod.fst) :=
  List.filter_sublist.map Prod.fst

end All

/-- What a run that starts in `home` leaves of the files: it changes none but those of the documents that
compile. Where these keep clear of each other and of the documents, every document stays as it is, and a
run that ends well leaves the files of all documents behind. -/
structure LeavesFiles (home : List String) (options : CompilerOptions) (output : OutputOptions)
    (loaded : Loaded) (before after : FileTree) (exit : ExitCode) : Prop where
  confined : Within (((compiledPaths options loaded).flatMap (artifactPaths output)).map (Path.place home))
    before after
  kept : Clear home output (loaded.map Prod.fst) (compiledPaths options loaded) →
    ∀ path ∈ loaded.map Prod.fst,
      after.fileAt (Path.place home path) = before.fileAt (Path.place home path)
  complete : Clear home output (loaded.map Prod.fst) (compiledPaths options loaded) →
    exit = .success → ∀ document ∈ loaded, ∃ c, (compile options document.2).data = some c ∧
      Holds after (artifactFiles home output document.1 c)

/-- Names tell which runs keep clear: those of documents found below a directory, and those of a single
file of any name. -/
structure ToldByNames (home : List String) (output : OutputOptions) (inputs compiled : List String) :
    Prop where
  sources : (∀ path ∈ inputs, isSource path = true) → (inputs.map (Path.place home)).Nodup →
    (Clear home output inputs compiled ↔ SourcesClear home output inputs compiled)
  single : ∀ path, inputs = [path] → compiled = [path] → (Path.fileName? path).isSome = true →
    (Clear home output inputs compiled ↔ ¬RespelledOwn home output path)

/-- An agent by that name with one flow and one message. -/
def smallInput (name : String) : SourceDocument := agentInput (namedAgent name) [helloMessage] []

/-- Two documents, one of which has the name of the other and one ending more. -/
def stackedDocuments : Loaded :=
  [("shop/coffee.ast.ast.json", smallInput "Tea"), ("shop/coffee.ast.json", smallInput "Coffee")]

/-- The documents, in a working directory `work`. -/
def stackedFiles : FileTree :=
  .directory [("work", .directory [("shop", .directory [("coffee.ast.ast.json", .file "Tea".toUTF8),
    ("coffee.ast.json", .file "Coffee".toUTF8)])])]

end Command

end Dialogue
