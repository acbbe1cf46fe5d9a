/-
Loading a directory, and loading the project file in it.

The one keeps the directory as it was written, and the other takes the parent of the file's path,
which may be written in another way.  `directory_load_agrees` says that nothing but the spelling of
the root, and of the search paths that are seen from it, tells the two apart.
-/
import CallBridge.Proofs.NearestFile

namespace CallBridge

namespace Config

/-- Settings are the same, and so are the root and the search paths as paths, whatever their
texts. -/
structure Merged.SameButSpelling (m m' : Merged) : Prop where
  project : m.project = m'.project
  global : m.global = m'.global
  checkErrno : m.checkErrno = m'.checkErrno
  releaseLock : m.releaseLock = m'.releaseLock
  abi : m.abi = m'.abi
  onExpired : m.onExpired = m'.onExpired
  projectRoot : ∃ root root', m.projectRoot = some root ∧ m'.projectRoot = some root' ∧
    Path.same root root'
  searchPaths : List.Forall₂ (fun p q => Path.same p q) m.searchPaths m'.searchPaths

/-- The root is the only part of merged settings that is spelled, and joining keeps sameness. -/
theorem Merged.sameButSpelling_of_roots (m : Merged) {root root' : String}
    (h : Path.components root = Path.components root') :
    SameButSpelling { m with projectRoot := some root } { m with projectRoot := some root' } where
  project := rfl
  global := rfl
  checkErrno := rfl
  releaseLock := rfl
  abi := rfl
  onExpired := rfl
  projectRoot := ⟨root, root', rfl, rfl, Path.same_iff.mpr h⟩
  searchPaths := by
    refine List.rel_append ?_ (List.forall₂_same.mpr fun path _ => Path.same_iff.mpr rfl)
    rw [List.forall₂_map_left_iff, List.forall₂_map_right_iff, List.forall₂_same]
    exact fun path _ => Path.same_iff.mpr (Path.components_join_congr h path)

namespace Loader

variable {l : Loader} {files : Files} {env : Environment} {directory : String}

theorem parent_projectFile (directory : String) :
    ∃ root, Path.parent? (Path.join directory projectFile) = some root ∧
      Path.components root = Path.components directory :=
  Path.parent_join directory (by decide) (by decide +kernel)

/-- A project file in the directory itself is the nearest. -/
theorem findProject_of_has (hhas : files.has (Path.join directory projectFile) = true) :
    findProject files directory = (do
      let settings ← Settings.read files (Path.join directory projectFile)
      return (some directory, settings)) := by
  have hfinds : Finds files directory (some directory) :=
    .found (n := 0) rfl hhas fun m hm => absurd hm (Nat.not_lt_zero m)
  have hsearch := finds_iff.mp hfinds
  unfold findProject
  rw [hsearch]

/-- The root goes through a merge as it is. -/
theorem merge_root (root root' : Option String) (project : Settings) :
    l.merge files env root project =
      (l.merge files env root' project).map fun m => { m with projectRoot := root } := by
  unfold merge
  cases l.readGlobal files with
  | error e => rfl
  | ok global =>
    by_cases hreads : l.readsEnvironment = true
    · simp only [if_pos hreads]
      cases applyEnvironment env project <;> rfl
    · simp only [if_neg hreads]
      rfl

/-- A directory with a project file, loaded as a directory and by that file.  Both loads fail with
one error, or neither does, and they leave the same loader. -/
theorem directory_load_agrees (l : Loader) (files : Files) (env : Environment) (directory : String)
    (hhas : files.has (Path.join directory projectFile) = true) :
    ((∃ e, (l.loadDirectory files env directory).1 = .error e ∧
        (l.loadFile files env (Path.join directory projectFile)).1 = .error e) ∨
      ∃ m m', (l.loadDirectory files env directory).1 = .ok m ∧
        (l.loadFile files env (Path.join directory projectFile)).1 = .ok m' ∧
        m.SameButSpelling m') ∧
    (l.loadDirectory files env directory).2 =
      (l.loadFile files env (Path.join directory projectFile)).2 := by
  obtain ⟨root, hroot, hsame⟩ := parent_projectFile directory
  rw [loadDirectory, loadFile, findProject_of_has hhas, hroot]
  cases hread : Settings.read files (Path.join directory projectFile) with
  | error e => exact ⟨Or.inl ⟨e, rfl, rfl⟩, rfl⟩
  | ok project =>
    refine ⟨?_, rfl⟩
    show (∃ e, (l.resolveGlobal env).merge files env (some directory) project = _ ∧
        (l.resolveGlobal env).merge files env (some root) project = _) ∨
      ∃ m m', (l.resolveGlobal env).merge files env (some directory) project = _ ∧
        (l.resolveGlobal env).merge files env (some root) project = _ ∧ _
    rw [merge_root (some directory) none, merge_root (some root) none]
    cases (l.resolveGlobal env).merge files env none project with
    | error e => exact Or.inl ⟨e, rfl, rfl⟩
    | ok m => exact Or.inr ⟨_, _, rfl, rfl, m.sameButSpelling_of_roots hsame.symm⟩

/-- The layers of `layered`, seen from a root that is written in some way. -/
def layeredFrom (root : String) : Merged := { layered with projectRoot := some root }

/-- With a needless separator and a needless dot, the roots are two texts and one path, and so are
the search paths. -/
theorem directory_load_agrees_spelled :
    layeredFiles.has (Path.join "/p//." projectFile) = true ∧
      (Loader.new.loadDirectory layeredFiles layeredVariables "/p//.").1 =
        .ok (layeredFrom "/p//.") ∧
      (Loader.new.loadFile layeredFiles layeredVariables "/p//./ligature.toml").1 =
        .ok (layeredFrom "/p") ∧
      (layeredFrom "/p//.").SameButSpelling (layeredFrom "/p") ∧
      (layeredFrom "/p//.").searchPaths = ["/p//./lib"] ∧
      (layeredFrom "/p").searchPaths = ["/p/lib"] := by
  have hhas : layeredFiles.has (Path.join "/p//." projectFile) = true := by decide +kernel
  have hdirectory : (Loader.new.loadDirectory layeredFiles layeredVariables "/p//.").1 =
      .ok (layeredFrom "/p//.") := by decide +kernel
  have hfile : (Loader.new.loadFile layeredFiles layeredVariables "/p//./ligature.toml").1 =
      .ok (layeredFrom "/p") := by decide +kernel
  refine ⟨hhas, hdirectory, hfile, ?_, by decide +kernel, by decide +kernel⟩
  obtain ⟨⟨e, herror, -⟩ | ⟨m, m', hm, hm', hsame⟩, -⟩ :=
    directory_load_agrees .new layeredFiles layeredVariables "/p//." hhas
  · cases herror.symm.trans hdirectory
  · obtain rfl := Except.ok.inj (hm.symm.trans hdirectory)
    have hjoin : Path.join "/p//." projectFile = "/p//./ligature.toml" := by decide +kernel
    rw [hjoin] at hm'
    obtain rfl := Except.ok.inj (hm'.symm.trans hfile)
    exact hsame

end Loader

end Config

end CallBridge
