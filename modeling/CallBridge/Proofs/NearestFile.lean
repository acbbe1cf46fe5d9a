/-
Which file a search upwards finds, and what else a load depends on.

The search goes through a path and its parents, each with fewer components than the one before, and
takes the first that has a project file.  `nearest_file_decides` says that this file decides a load
even if it is a bad one, and that two loads have the same outcome unless they differ in a file or a
variable that the loader looks at.
-/
import CallBridge.Proofs.Assembly
import CallBridge.Proofs.PathComponents
import CallBridge.Proofs.Precedence

namespace CallBridge

namespace Path

/-! ## The path and its parents -/

/-- The number of components: the lead, if there is one, and the names. -/
def height (path : String) : Nat := (components path).1.length + (components path).2.length

/-- The parent of the parent and so on, `n` times over. -/
def climb : Nat → String → Option String
  | 0, path => some path
  | n + 1, path => (parent? path).bind (climb n)

/-- Trimmed segments end in a name, so there are none of them if they name nothing. -/
theorem trimIdle_eq_nil {ss : List (List Char)} (h : naming ss = []) : trimIdle ss = [] := by
  rcases List.eq_nil_or_concat (trimIdle ss) with hnil | ⟨init, last, htrim⟩
  · exact hnil
  · rw [List.concat_eq_append] at htrim
    rw [← naming_trimIdle, htrim, naming_append] at h
    simp [naming, trimIdle_last htrim] at h

theorem height_eq (path : String) :
    height path = (leadOf path.toList).length + (namesOf path.toList).length := by
  rw [height, components_eq]

/-- The parent loses a name, or the lead of a path that has no name. -/
theorem height_parent_lt {path parent : String} (h : parent? path = some parent) :
    height parent < height path := by
  obtain ⟨cs, hcs, rfl⟩ := Option.map_eq_some_iff.mp h
  have hcount := congrArg List.length (parent_names hcs).1
  rw [List.length_dropLast] at hcount
  rw [height_eq, height_eq, String.toList_ofList, hcount]
  by_cases hnames : namesOf path.toList = []
  · -- without a name there is a parent only below a leading dot
    have htrim : trimIdle (segments (splitLead path.toList).2) = [] := by
      rw [(lead_splitLead path.toList).namesOf_eq, naming_trimIdle] at hnames
      exact trimIdle_eq_nil hnames
    obtain ⟨-, hdot, rfl⟩ | ⟨init, last, hnamed, -⟩ := parent_eq hcs
    · rw [leadOf, leadOf, hdot, hnames]
      exact Nat.zero_lt_one
    · simp [htrim] at hnamed
  · have hpos := List.length_pos_iff.mpr hnames
    obtain hlead | ⟨-, hnone, -⟩ := leadOf_parent hcs
    · rw [hlead]
      omega
    · exact absurd hnone hnames

/-- Every step up takes at least one component away. -/
theorem height_climb {n : Nat} {path top : String} (h : climb n path = some top) :
    n + height top ≤ height path := by
  induction n generalizing path with
  | zero =>
    cases h
    omega
  | succ n ih =>
    obtain ⟨parent, hparent, h⟩ := Option.bind_eq_some_iff.mp h
    have hlt := height_parent_lt hparent
    have hle := ih h
    omega

/-- Fuel for every character is enough, since parents get shorter. -/
theorem getElem?_chain {fuel : Nat} {cs : List Char} (hfuel : cs.length < fuel) (n : Nat) :
    ((chain fuel cs).map String.ofList)[n]? = climb n (String.ofList cs) := by
  induction fuel generalizing cs n with
  | zero => omega
  | succ fuel ih =>
    rw [chain, List.map_cons]
    cases n with
    | zero => rfl
    | succ n =>
      rw [List.getElem?_cons_succ, climb, parent?, String.toList_ofList]
      cases hparent : parentChars? cs with
      | none => rfl
      | some parent =>
        have hshort := (parent_names hparent).2.2.1
        exact ih (by omega) n

theorem getElem?_ancestors (path : String) (n : Nat) : (ancestors path)[n]? = climb n path := by
  have hfuel : path.toList.length < path.length + 1 := by
    rw [String.length_toList]
    omega
  rw [ancestors, getElem?_chain hfuel, String.ofList_toList]

theorem length_ancestors_le (path : String) : (ancestors path).length ≤ height path + 1 := by
  by_contra hlong
  have hindex : height path + 1 < (ancestors path).length := by omega
  have hclimb := getElem?_ancestors path (height path + 1)
  rw [List.getElem?_eq_getElem hindex] at hclimb
  have hle := height_climb hclimb.symm
  omega

end Path

/-! ## The nearest project file -/

namespace Config

namespace Loader

/-- The first directory, upwards from `start`, that has a project file, or none if none has. -/
inductive Finds (files : Files) (start : String) : Option String → Prop
  | found {n : Nat} {directory : String} (hclimb : Path.climb n start = some directory)
    (hhas : files.has (Path.join directory projectFile) = true)
    (hfirst : ∀ m < n, ∀ nearer, Path.climb m start = some nearer →
      files.has (Path.join nearer projectFile) = false) : Finds files start (some directory)
  | missing (hnone : ∀ n directory, Path.climb n start = some directory →
      files.has (Path.join directory projectFile) = false) : Finds files start none

variable {l : Loader} {files : Files} {env : Environment} {start : String}

theorem finds_projectDirectory? (files : Files) (start : String) :
    Finds files start (projectDirectory? files start) := by
  cases hsearch : projectDirectory? files start with
  | none =>
    refine .missing fun n directory hclimb => ?_
    have hmem : directory ∈ Path.ancestors start :=
      List.mem_of_getElem? ((Path.getElem?_ancestors start n).trans hclimb)
    exact Bool.eq_false_iff.mpr (List.find?_eq_none.mp hsearch directory hmem)
  | some directory =>
    obtain ⟨hhas, n, hn, hdirectory, hfirst⟩ := List.find?_eq_some_iff_getElem.mp hsearch
    have hclimb : Path.climb n start = some directory := by
      rw [← Path.getElem?_ancestors, List.getElem?_eq_getElem hn, hdirectory]
    refine .found hclimb hhas fun m hm nearer hnearer => ?_
    have hindex : m < (Path.ancestors start).length := hm.trans hn
    have hm' := hfirst m hm
    rw [← Path.getElem?_ancestors, List.getElem?_eq_getElem hindex] at hnearer
    rw [Option.some.inj hnearer] at hm'
    simpa using hm'

theorem Finds.has {directory : String} (h : Finds files start (some directory)) :
    files.has (Path.join directory projectFile) = true := by
  cases h with
  | found _ hhas _ => exact hhas

theorem Finds.unique {root root' : Option String} (h : Finds files start root)
    (h' : Finds files start root') : root = root' := by
  cases h with
  | missing hnone =>
    cases h' with
    | missing => rfl
    | found hclimb hhas => cases hhas.symm.trans (hnone _ _ hclimb)
  | @found n directory hclimb hhas hfirst =>
    cases h' with
    | missing hnone => cases hhas.symm.trans (hnone _ _ hclimb)
    | @found n' directory' hclimb' hhas' hfirst' =>
      rcases Nat.lt_trichotomy n n' with hlt | rfl | hgt
      · cases hhas.symm.trans (hfirst' n hlt directory hclimb)
      · exact hclimb.symm.trans hclimb'
      · cases hhas'.symm.trans (hfirst n' hgt directory' hclimb')

theorem finds_iff {root : Option String} :
    Finds files start root ↔ projectDirectory? files start = root := by
  constructor
  · exact (finds_projectDirectory? files start).unique
  · rintro rfl
    exact finds_projectDirectory? files start

/-- An error in the nearest project file ends the load: neither a file further up nor the global
file nor the environment is looked at. -/
theorem loadDirectory_of_bad_file {directory : String} {e : Error}
    (hfinds : Finds files start (some directory))
    (hread : Settings.read files (Path.join directory projectFile) = .error e) :
    l.loadDirectory files env start = (.error e, l) := by
  have hproject : findProject files start = .error e := by
    unfold findProject
    rw [finds_iff.mp hfinds]
    show (Settings.read files (Path.join directory projectFile) >>= fun _ => _) = _
    rw [hread]
    rfl
  rw [loadDirectory, hproject]
  rfl

theorem finds_of_loadDirectory {m : Merged} (h : (l.loadDirectory files env start).1 = .ok m) :
    Finds files start m.projectRoot ∧
      ∃ project, ProjectLayer files (.directory start) m.projectRoot project ∧
        if l.readsEnvironment then env.Overrides project m.project else m.project = project := by
  have hload : (l.load files env (.directory start)).1 = .ok m := h
  obtain ⟨root, project, global, hlayered⟩ := load_eq_ok hload
  have hfinds : Finds files start root := by
    cases hlayered.projectLayer with
    | found hnearest _ => exact finds_iff.mpr hnearest
    | missing hnone => exact finds_iff.mpr hnone
  rw [hlayered.root_eq]
  exact ⟨hfinds, project, hlayered.projectLayer, hlayered.overrides⟩

end Loader

end Config

/-! ## What a load looks at -/

/-- Two trees cannot be told apart by the file at a path. -/
structure Files.AgreeAt (files files' : Files) (path : String) : Prop where
  has : files.has path = files'.has path
  text : files.has path = true → files.readText path = files'.readText path

theorem Files.AgreeAt.refl (files : Files) (path : String) : files.AgreeAt files path :=
  ⟨rfl, fun _ => rfl⟩

namespace Config

theorem Settings.read_congr {files files' : Files} {path : String} (h : files.AgreeAt files' path)
    (hhas : files.has path = true) : read files path = read files' path := by
  rw [read, read, h.text hhas]

/-- Environments that differ in nothing but the variables named. -/
structure Environment.SameBut (names : List String) (env env' : Environment) : Prop where
  lookup_eq : ∀ name ∉ names, env.bindings.lookup name = env'.bindings.lookup name
  accountHome : env.accountHome = env'.accountHome

theorem Environment.SameBut.get? {names : List String} {env env' : Environment}
    (h : SameBut names env env') {name : String} (hname : name ∉ names) :
    env.get? name = env'.get? name := by
  rw [Environment.get?, Environment.get?, h.lookup_eq name hname]

theorem Environment.SameBut.home? {names : List String} {env env' : Environment}
    (h : SameBut names env env') (hname : "HOME" ∉ names) : env.home? = env'.home? := by
  rw [Environment.home?, Environment.home?, h.lookup_eq "HOME" hname, h.accountHome]

theorem Environment.SameBut.mono {names names' : List String} {env env' : Environment}
    (h : SameBut names env env') (hsub : names ⊆ names') : SameBut names' env env' :=
  ⟨fun name hname => h.lookup_eq name fun hmem => hname (hsub hmem), h.accountHome⟩

theorem Environment.sameBut_set (env : Environment) (name : String) (value : Option Bytes) :
    SameBut [name] env (env.set name value) where
  lookup_eq := by
    intro other hother
    have hne : other ≠ name := mt List.mem_singleton.mpr hother
    show _ = (_ ++ _ : List (String × Bytes)).lookup other
    rw [List.lookup_append, Toml.lookup_erase, if_neg hne]
    cases value with
    | none => simp
    | some bytes => simp [Toml.lookup_cons_eq, hne]
  accountHome := rfl

namespace Loader

/-- The variables that override a setting. -/
def overriding : List String :=
  ["LIGATURE_CHECK_ERRNO", "LIGATURE_RELEASE_LOCK", "LIGATURE_ABI", "LIGATURE_ON_EXPIRED"]

/-- Two trees agree on the project files from `start` up to the first one there is. -/
def AgreeUpwards (files files' : Files) (start : String) : Prop :=
  ∀ n directory, Path.climb n start = some directory →
    (∀ m < n, ∀ nearer, Path.climb m start = some nearer →
      files.has (Path.join nearer projectFile) = false) →
    files.AgreeAt files' (Path.join directory projectFile)

/-- Two environments agree on the variables that the loader looks at: those that override, unless
it ignores them, and the home directory, unless it knows the path of the global file. -/
structure SameEnvironment (l : Loader) (env env' : Environment) : Prop where
  overrides : l.readsEnvironment = true → ∀ name ∈ overriding, env.get? name = env'.get? name
  home : l.globalPath = none → env.home? = env'.home?

variable {l : Loader} {files files' : Files} {env env' : Environment} {start : String}

theorem Finds.congr (h : AgreeUpwards files files' start) {root : Option String}
    (hfinds : Finds files start root) : Finds files' start root := by
  cases hfinds with
  | found hclimb hhas hfirst =>
    refine .found hclimb ((h _ _ hclimb hfirst).has.symm.trans hhas) fun m hm nearer hnearer => ?_
    have hagree := h m nearer hnearer fun k hk => hfirst k (hk.trans hm)
    exact hagree.has.symm.trans (hfirst m hm nearer hnearer)
  | missing hnone =>
    refine .missing fun n directory hclimb => ?_
    have hagree := h n directory hclimb fun m _ => hnone m
    exact hagree.has.symm.trans (hnone n directory hclimb)

theorem findProject_congr (h : AgreeUpwards files files' start) :
    findProject files start = findProject files' start := by
  have hfinds := finds_projectDirectory? files start
  have hsame := finds_iff.mp (hfinds.congr h)
  unfold findProject
  rw [hsame]
  cases hsearch : projectDirectory? files start with
  | none => rfl
  | some directory =>
    rw [hsearch] at hfinds
    cases hfinds with
    | found hclimb hhas hfirst => simp only [Settings.read_congr (h _ _ hclimb hfirst) hhas]

theorem resolveGlobal_congr (h : l.SameEnvironment env env') :
    l.resolveGlobal env = l.resolveGlobal env' := by
  unfold resolveGlobal globalDirectory
  cases hpath : l.globalPath with
  | none => rw [h.home hpath]
  | some path => rfl

theorem readGlobal_congr
    (h : ∀ path, l.globalPath = some path → files.AgreeAt files' path) :
    l.readGlobal files = l.readGlobal files' := by
  unfold readGlobal
  cases hpath : l.globalPath with
  | none => rfl
  | some path =>
    have hagree := h path hpath
    by_cases hhas : files.has path = true
    · have hhas' := hagree.has.symm.trans hhas
      simp only [if_pos hhas, if_pos hhas', Settings.read_congr hagree hhas]
    · have hhas' : ¬files'.has path = true := hagree.has ▸ hhas
      simp only [if_neg hhas, if_neg hhas']

theorem applyEnvironment_congr (h : ∀ name ∈ overriding, env.get? name = env'.get? name) :
    applyEnvironment env = applyEnvironment env' := by
  simp only [overriding, List.forall_mem_cons] at h
  obtain ⟨hcheckErrno, hreleaseLock, habi, honExpired, -⟩ := h
  funext s
  simp only [applyEnvironment, override, hcheckErrno, hreleaseLock, habi, honExpired]

/-- The stages after the project file depend on the global file and on the variables that the
loader looks at. -/
theorem finish_congr (hglobal : ∀ path, l.globalFile? env = some path → files.AgreeAt files' path)
    (henv : l.SameEnvironment env env') (stage : Except Error (Option String × Settings)) :
    l.finish files env stage = l.finish files' env' stage := by
  unfold finish
  cases stage with
  | error e => rfl
  | ok found =>
    have hread := readGlobal_congr hglobal
    simp only [merge, ← resolveGlobal_congr henv, ← hread, readsEnvironment_resolveGlobal]
    by_cases hreads : l.readsEnvironment = true
    · rw [applyEnvironment_congr (henv.overrides hreads)]
    · simp only [if_neg hreads]

/-- A load depends on the project files up to the nearest, on the global file, and on the
variables that the loader looks at. -/
theorem loadDirectory_congr (hproject : AgreeUpwards files files' start)
    (hglobal : ∀ path, l.globalFile? env = some path → files.AgreeAt files' path)
    (henv : l.SameEnvironment env env') :
    l.loadDirectory files env start = l.loadDirectory files' env' start := by
  rw [loadDirectory, loadDirectory, ← findProject_congr hproject]
  exact finish_congr hglobal henv _

theorem AgreeUpwards.refl (files : Files) (start : String) : AgreeUpwards files files start :=
  fun _ _ _ _ => .refl files _

theorem sameEnvironment_of_ignored (hreads : l.readsEnvironment = false)
    (h : Environment.SameBut overriding env env') : l.SameEnvironment env env' where
  overrides := fun htrue => nomatch hreads.symm.trans htrue
  home := fun _ => h.home? (by decide)

theorem sameEnvironment_of_globalPath {path : String} (hpath : l.globalPath = some path)
    (h : Environment.SameBut ["HOME"] env env') : l.SameEnvironment env env' where
  overrides := by
    intro _ name hname
    refine h.get? fun hhome => ?_
    rw [List.mem_singleton.mp hhome] at hname
    revert hname
    decide
  home := fun hnone => nomatch hpath.symm.trans hnone

/-- The chain is as long as a path has components, or longer by one.  The first directory of it
with a project file is the project, and what is wrong with that file is the error.  Loads have the
same outcome where the project files up to that one, the global file and the variables that the
loader looks at are the same. -/
theorem nearest_file_decides (l : Loader) (files : Files) (env : Environment) (start : String) :
    ((∀ n, (Path.ancestors start)[n]? = Path.climb n start) ∧
      (Path.ancestors start).length ≤ Path.height start + 1) ∧
    (∀ root, Finds files start root ↔ projectDirectory? files start = root) ∧
    (∀ directory e, Finds files start (some directory) →
      Settings.read files (Path.join directory projectFile) = .error e →
      l.loadDirectory files env start = (.error e, l)) ∧
    (∀ m, (l.loadDirectory files env start).1 = .ok m → Finds files start m.projectRoot ∧
      ∃ project, ProjectLayer files (.directory start) m.projectRoot project ∧
        if l.readsEnvironment then env.Overrides project m.project else m.project = project) ∧
    (∀ files' env', AgreeUpwards files files' start →
      (∀ path, l.globalFile? env = some path → files.AgreeAt files' path) →
      l.SameEnvironment env env' →
      l.loadDirectory files env start = l.loadDirectory files' env' start) ∧
    (∀ env', l.readsEnvironment = false → Environment.SameBut overriding env env' →
      l.loadDirectory files env start = l.loadDirectory files env' start) ∧
    ∀ env', l.globalPath ≠ none → Environment.SameBut ["HOME"] env env' →
      l.loadDirectory files env start = l.loadDirectory files env' start := by
  have hsame : ∀ env', l.SameEnvironment env env' →
      l.loadDirectory files env start = l.loadDirectory files env' start := fun _ =>
    loadDirectory_congr (.refl files start) fun path _ => .refl files path
  refine ⟨⟨Path.getElem?_ancestors start, Path.length_ancestors_le start⟩, fun _ => finds_iff,
    fun _ _ => loadDirectory_of_bad_file, fun _ => finds_of_loadDirectory,
    fun _ _ => loadDirectory_congr, fun env' hreads h => ?_, fun env' hpath h => ?_⟩
  · exact hsame env' (sameEnvironment_of_ignored hreads h)
  · obtain ⟨path, hpath⟩ := Option.ne_none_iff_exists'.mp hpath
    exact hsame env' (sameEnvironment_of_globalPath hpath h)

/-- A project file that is no document, below one that is. -/
def brokenBelow : Files where
  root := .directory [
    ("a", .directory [("ligature.toml", .file "[call]\nabi='2'".toUTF8.toList),
      ("b", .directory [("ligature.toml", .file "[call".toUTF8.toList),
        ("c", Node.emptyDirectory)])])]
  workingPlace := []

/-- The broken one alone. -/
def brokenAlone : Files where
  root := .directory [
    ("a", .directory [("b", .directory [("ligature.toml", .file "[call".toUTF8.toList),
      ("c", Node.emptyDirectory)])])]
  workingPlace := []

theorem agreeUpwards_broken : AgreeUpwards brokenBelow brokenAlone "/a/b/c" := by
  intro n directory hclimb hnone
  match n with
  | 0 =>
    cases hclimb
    exact ⟨by decide +kernel, by decide +kernel⟩
  | 1 =>
    have hparent : Path.climb 1 "/a/b/c" = some "/a/b" := by decide +kernel
    cases hparent.symm.trans hclimb
    exact ⟨by decide +kernel, by decide +kernel⟩
  | n + 2 =>
    have hhas : brokenBelow.has (Path.join "/a/b" projectFile) = true := by decide +kernel
    cases hhas.symm.trans (hnone 1 (by omega) "/a/b" (by decide +kernel))

/-- From below the broken file that one decides, with or without another above it.  From beside it
the good one does, and the root is spelled as the path is. -/
theorem nearest_file_decides_below :
    (Finds brokenBelow "/a/b/c" (some "/a/b") ∧
      Loader.new.loadDirectory brokenBelow layeredVariables "/a/b/c" =
        (.error (.invalidDocument "/a/b/ligature.toml" .malformed), .new) ∧
      Loader.new.loadDirectory brokenBelow layeredVariables "/a/b/c" =
        Loader.new.loadDirectory brokenAlone layeredVariables "/a/b/c") ∧
    (∃ m, (Loader.new.loadDirectory brokenBelow layeredVariables "/a/./").1 = .ok m ∧
      m.projectRoot = some "/a/./" ∧ Finds brokenBelow "/a/./" m.projectRoot) ∧
    ∀ value,
      Loader.new.withoutEnvironment.loadDirectory brokenBelow layeredVariables "/a" =
        Loader.new.withoutEnvironment.loadDirectory brokenBelow
          (layeredVariables.set "LIGATURE_ABI" value) "/a" ∧
      (withGlobalPath "/g").loadDirectory brokenBelow layeredVariables "/a" =
        (withGlobalPath "/g").loadDirectory brokenBelow
          (layeredVariables.set "HOME" value) "/a" := by
  obtain ⟨-, hfinds, hbad, -, hsame, -, -⟩ :=
    nearest_file_decides .new brokenBelow layeredVariables "/a/b/c"
  obtain ⟨-, -, -, hgood, -, -, -⟩ :=
    nearest_file_decides .new brokenBelow layeredVariables "/a/./"
  obtain ⟨-, -, -, -, -, hignored, -⟩ :=
    nearest_file_decides Loader.new.withoutEnvironment brokenBelow layeredVariables "/a"
  obtain ⟨-, -, -, -, -, -, hgiven⟩ :=
    nearest_file_decides (withGlobalPath "/g") brokenBelow layeredVariables "/a"
  have hnearest : Finds brokenBelow "/a/b/c" (some "/a/b") := (hfinds _).mpr (by decide +kernel)
  have hloads : (Loader.new.loadDirectory brokenBelow layeredVariables "/a/./").1 =
      .ok ⟨⟨some ⟨some false, none, some "2"⟩, none, none⟩, .empty, some "/a/./"⟩ := by
    decide +kernel
  refine ⟨⟨hnearest, hbad _ _ hnearest (by decide +kernel), ?_⟩,
    ⟨_, hloads, rfl, (hgood _ hloads).1⟩, fun value => ⟨?_, ?_⟩⟩
  · refine hsame _ _ agreeUpwards_broken (fun path hpath => ?_)
      ⟨fun _ _ _ => rfl, fun _ => rfl⟩
    have hglobal : Loader.new.globalFile? layeredVariables = some "/h/.ligature/config.toml" := by
      decide +kernel
    cases hglobal.symm.trans hpath
    exact ⟨by decide +kernel, by decide +kernel⟩
  · exact hignored _ rfl ((layeredVariables.sameBut_set "LIGATURE_ABI" value).mono (by decide))
  · exact hgiven _ (by decide) (layeredVariables.sameBut_set "HOME" value)

end Loader

end Config

end CallBridge
