/-
Which layer decides a setting.

The environment comes before the project file, that before the global file, and that before the
built-in value, for each setting by itself.  `settings_precedence` says so of every load that
succeeds, with the search paths, which have no variable and are joined.
-/
import CallBridge.Config.Loader
import CallBridge.Proofs.Layout

namespace CallBridge

namespace Config

/-! ## Accessors after a change -/

/-- What settings say, whatever sections they say it in. -/
structure Keys where
  checkErrno : Option Bool
  releaseLock : Option Bool
  abi : Option String
  onExpired : Option String
  loader : Option LoaderSettings

namespace Settings

def keys (s : Settings) : Keys := ⟨s.checkErrno, s.releaseLock, s.abi, s.onExpired, s.loader⟩

variable (s : Settings)

theorem keys_modifyCall (f : CallSettings → CallSettings) :
    (s.modifyCall f).keys = { s.keys with
      checkErrno := (f (s.call.getD .empty)).checkErrno
      releaseLock := (f (s.call.getD .empty)).releaseLock
      abi := (f (s.call.getD .empty)).abi } := rfl

theorem keys_modifyCallbacks (g : CallbackSettings → CallbackSettings) :
    (s.modifyCallbacks g).keys =
      { s.keys with onExpired := (g (s.callbacks.getD .empty)).onExpired } := rfl

/-- An absent section says what an empty one says. -/
theorem call_getD :
    s.call.getD .empty = ⟨s.keys.checkErrno, s.keys.releaseLock, s.keys.abi⟩ := by
  unfold keys checkErrno releaseLock abi
  cases s.call <;> rfl

end Settings

/-! ## The environment -/

namespace Environment

/-- What a variable makes of a flag. -/
def flag? (env : Environment) (name : String) : Option Bool := (env.get? name).map isOn

/-- Settings with the environment's values in place of their own. -/
structure Overrides (env : Environment) (s s' : Settings) : Prop where
  checkErrno : s'.checkErrno = (env.flag? "LIGATURE_CHECK_ERRNO").or s.checkErrno
  releaseLock : s'.releaseLock = (env.flag? "LIGATURE_RELEASE_LOCK").or s.releaseLock
  abi : s'.abi = (env.get? "LIGATURE_ABI").or s.abi
  onExpired : s'.onExpired = ((env.get? "LIGATURE_ON_EXPIRED").map Text.lowercase).or s.onExpired
  loader : s'.loader = s.loader
  abi_valid : ∀ text, env.get? "LIGATURE_ABI" = some text → isAbiSpelling text = true
  policy_valid : ∀ text, env.get? "LIGATURE_ON_EXPIRED" = some text →
    isPolicySpelling (Text.lowercase text) = true

end Environment

theorem checkAbi_eq_ok {field text : String} :
    checkAbi field text = .ok () ↔ isAbiSpelling text = true := by
  unfold checkAbi
  split <;> simp_all

theorem checkPolicy_eq_ok {field text : String} :
    checkPolicy field text = .ok () ↔ isPolicySpelling text = true := by
  unfold checkPolicy
  split <;> simp_all

namespace Loader

variable {env : Environment} {s s' : Settings}

theorem override_eq_ok {name : String} {put : String → Settings → Except Error Settings}
    (h : override env name put s = .ok s') :
    (env.get? name = none ∧ s' = s) ∨ ∃ text, env.get? name = some text ∧ put text s = .ok s' := by
  unfold override at h
  split at h
  · rename_i text hsome
    exact Or.inr ⟨text, hsome, h⟩
  · rename_i hnone
    exact Or.inl ⟨hnone, (Except.ok.inj h).symm⟩

theorem override_checkErrno (h : override env "LIGATURE_CHECK_ERRNO" putCheckErrno s = .ok s') :
    s'.keys = { s.keys with
      checkErrno := (env.flag? "LIGATURE_CHECK_ERRNO").or s.keys.checkErrno } := by
  obtain ⟨hnone, rfl⟩ | ⟨text, hsome, h⟩ := override_eq_ok h
  · simp [Environment.flag?, hnone]
  · cases h
    simp [Environment.flag?, hsome, Settings.keys_modifyCall, Settings.call_getD]

theorem override_releaseLock (h : override env "LIGATURE_RELEASE_LOCK" putReleaseLock s = .ok s') :
    s'.keys = { s.keys with
      releaseLock := (env.flag? "LIGATURE_RELEASE_LOCK").or s.keys.releaseLock } := by
  obtain ⟨hnone, rfl⟩ | ⟨text, hsome, h⟩ := override_eq_ok h
  · simp [Environment.flag?, hnone]
  · cases h
    simp [Environment.flag?, hsome, Settings.keys_modifyCall, Settings.call_getD]

theorem override_abi (h : override env "LIGATURE_ABI" putAbi s = .ok s') :
    s'.keys = { s.keys with abi := (env.get? "LIGATURE_ABI").or s.keys.abi } ∧
      ∀ text, env.get? "LIGATURE_ABI" = some text → isAbiSpelling text = true := by
  obtain ⟨hnone, rfl⟩ | ⟨text, hsome, h⟩ := override_eq_ok h
  · simp [hnone]
  · obtain ⟨_, hcheck, h⟩ := bind_eq_ok h
    cases h
    simp [hsome, checkAbi_eq_ok.mp hcheck, Settings.keys_modifyCall, Settings.call_getD]

theorem override_onExpired (h : override env "LIGATURE_ON_EXPIRED" putOnExpired s = .ok s') :
    s'.keys = { s.keys with
      onExpired := ((env.get? "LIGATURE_ON_EXPIRED").map Text.lowercase).or s.keys.onExpired } ∧
      ∀ text, env.get? "LIGATURE_ON_EXPIRED" = some text →
        isPolicySpelling (Text.lowercase text) = true := by
  obtain ⟨hnone, rfl⟩ | ⟨text, hsome, h⟩ := override_eq_ok h
  · simp [hnone]
  · obtain ⟨_, hcheck, h⟩ := bind_eq_ok h
    cases h
    simp [hsome, checkPolicy_eq_ok.mp hcheck, Settings.keys_modifyCallbacks]

theorem applyEnvironment_eq_ok (h : applyEnvironment env s = .ok s') : env.Overrides s s' := by
  obtain ⟨s₁, hcheckErrno, h⟩ := bind_eq_ok h
  obtain ⟨s₂, hreleaseLock, h⟩ := bind_eq_ok h
  obtain ⟨s₃, habi, honExpired⟩ := bind_eq_ok h
  obtain ⟨habi, hspelled⟩ := override_abi habi
  obtain ⟨hkeys, hmeant⟩ := override_onExpired honExpired
  rw [habi, override_releaseLock hreleaseLock, override_checkErrno hcheckErrno] at hkeys
  exact ⟨congrArg Keys.checkErrno hkeys, congrArg Keys.releaseLock hkeys, congrArg Keys.abi hkeys,
    congrArg Keys.onExpired hkeys, congrArg Keys.loader hkeys, hspelled, hmeant⟩

end Loader

/-! ## The layers of a load -/

/-- Where a load begins. -/
inductive Start where
  | directory (path : String)
  | file (path : String)

def Loader.load (l : Loader) (files : Files) (env : Environment) :
    Start → Except Error Merged × Loader
  | .directory path => l.loadDirectory files env path
  | .file path => l.loadFile files env path

/-- The settings of the project file that a load takes, and the directory they are seen from.
Without a project file there are none. -/
inductive ProjectLayer (files : Files) : Start → Option String → Settings → Prop
  | given {path : String} {s : Settings} (h : Settings.read files path = .ok s) :
    ProjectLayer files (.file path) (Path.parent? path) s
  | found {start directory : String} {s : Settings}
    (hnearest : Loader.projectDirectory? files start = some directory)
    (h : Settings.read files (Path.join directory projectFile) = .ok s) :
    ProjectLayer files (.directory start) (some directory) s
  | missing {start : String} (h : Loader.projectDirectory? files start = none) :
    ProjectLayer files (.directory start) none .empty

/-- The settings of the global file.  One that does not exist, or whose path is not known, has
none. -/
inductive GlobalLayer (files : Files) : Option String → Settings → Prop
  | read {path : String} {s : Settings} (hhas : files.has path = true)
    (h : Settings.read files path = .ok s) : GlobalLayer files (some path) s
  | missing {path : String} (hhas : files.has path = false) : GlobalLayer files (some path) .empty
  | unknown : GlobalLayer files none .empty

/-- The path of the global file as a loader knows it once it has looked for a home directory. -/
def Loader.globalFile? (l : Loader) (env : Environment) : Option String :=
  (l.resolveGlobal env).globalPath

/-- A variable as a loader sees it: only if it reads the environment, and the variable holds
text. -/
def Loader.text? (l : Loader) (env : Environment) (name : String) : Option String :=
  if l.readsEnvironment then env.get? name else none

theorem ProjectLayer.unique {files : Files} {start : Start} {root root' : Option String}
    {s s' : Settings} (h : ProjectLayer files start root s) (h' : ProjectLayer files start root' s') :
    root = root' ∧ s = s' := by
  cases h with
  | given h =>
    cases h' with
    | given h' => exact ⟨rfl, Except.ok.inj (h.symm.trans h')⟩
  | found hnearest h =>
    cases h' with
    | found hnearest' h' =>
      cases hnearest.symm.trans hnearest'
      exact ⟨rfl, Except.ok.inj (h.symm.trans h')⟩
    | missing hnone => cases hnearest.symm.trans hnone
  | missing hnone =>
    cases h' with
    | found hnearest' _ => cases hnearest'.symm.trans hnone
    | missing _ => exact ⟨rfl, rfl⟩

theorem GlobalLayer.unique {files : Files} {path : Option String} {s s' : Settings}
    (h : GlobalLayer files path s) (h' : GlobalLayer files path s') : s = s' := by
  cases h with
  | read hhas h =>
    cases h' with
    | read _ h' => exact Except.ok.inj (h.symm.trans h')
    | missing hnone => cases hhas.symm.trans hnone
  | missing hnone =>
    cases h' with
    | read hhas _ => cases hhas.symm.trans hnone
    | missing _ => rfl
  | unknown =>
    cases h'
    rfl

/-- What a load makes of its layers: the environment's values go into the project's. -/
structure Layered (l : Loader) (files : Files) (env : Environment) (start : Start)
    (root : Option String) (project global : Settings) (m : Merged) : Prop where
  projectLayer : ProjectLayer files start root project
  globalLayer : GlobalLayer files (l.globalFile? env) global
  root_eq : m.projectRoot = root
  global_eq : m.global = global
  overrides : if l.readsEnvironment then env.Overrides project m.project else m.project = project

namespace Loader

variable {l : Loader} {files : Files} {env : Environment} {m : Merged}

theorem readGlobal_eq_ok {s : Settings} (h : l.readGlobal files = .ok s) :
    GlobalLayer files l.globalPath s := by
  unfold readGlobal at h
  split at h
  · rename_i path hpath
    rw [hpath]
    split at h
    · rename_i hhas
      exact .read hhas h
    · rename_i hhas
      cases h
      exact .missing (Bool.eq_false_iff.mpr hhas)
  · rename_i hpath
    cases h
    rw [hpath]
    exact .unknown

theorem merge_eq_ok {root : Option String} {project : Settings}
    (h : l.merge files env root project = .ok m) :
    m.projectRoot = root ∧ l.readGlobal files = .ok m.global ∧
      if l.readsEnvironment then applyEnvironment env project = .ok m.project
      else m.project = project := by
  unfold merge at h
  obtain ⟨global, hglobal, h⟩ := bind_eq_ok h
  by_cases hreads : l.readsEnvironment = true
  · rw [if_pos hreads] at *
    obtain ⟨s, hs, h⟩ := bind_eq_ok h
    cases h
    exact ⟨rfl, hglobal, hs⟩
  · rw [if_neg hreads] at *
    cases h
    exact ⟨rfl, hglobal, rfl⟩

theorem findProject_eq_ok {start : String} {root : Option String} {s : Settings}
    (h : findProject files start = .ok (root, s)) :
    ProjectLayer files (.directory start) root s := by
  unfold findProject at h
  split at h
  · rename_i hnone
    cases h
    exact .missing hnone
  · rename_i directory hnearest
    obtain ⟨settings, hread, h⟩ := bind_eq_ok h
    cases h
    exact .found hnearest hread

@[simp] theorem readsEnvironment_resolveGlobal (l : Loader) (env : Environment) :
    (l.resolveGlobal env).readsEnvironment = l.readsEnvironment := by
  unfold resolveGlobal
  split <;> rfl

theorem finish_eq_ok {start : Start} {stage : Except Error (Option String × Settings)}
    (hstage : ∀ root s, stage = .ok (root, s) → ProjectLayer files start root s)
    (h : (l.finish files env stage).1 = .ok m) :
    ∃ root project global, Layered l files env start root project global m := by
  unfold finish at h
  split at h
  · cases h
  · rename_i root project
    obtain ⟨hroot, hglobal, hproject⟩ := merge_eq_ok h
    rw [readsEnvironment_resolveGlobal] at hproject
    refine ⟨root, project, m.global, hstage _ _ rfl, readGlobal_eq_ok hglobal, hroot, rfl, ?_⟩
    by_cases hreads : l.readsEnvironment = true
    · rw [if_pos hreads] at *
      exact applyEnvironment_eq_ok hproject
    · rw [if_neg hreads] at *
      exact hproject

theorem load_eq_ok {start : Start} (h : (l.load files env start).1 = .ok m) :
    ∃ root project global, Layered l files env start root project global m := by
  cases start with
  | directory path => exact finish_eq_ok (fun _ _ => findProject_eq_ok) h
  | file path =>
    refine finish_eq_ok (fun root s hstage => ?_) h
    obtain ⟨settings, hread, hstage⟩ := bind_eq_ok hstage
    cases hstage
    exact .given hread

end Loader

/-! ## Precedence -/

/-- The value of the first layer that has one, else the built-in value. -/
def decided {α : Type} (given project global : Option α) (builtin : α) : α :=
  match given, project, global with
  | some a, _, _ => a
  | none, some a, _ => a
  | none, none, some a => a
  | none, none, none => builtin

/-- A flag is on for three words, whatever their case. -/
def flagOf (text : String) : Bool :=
  decide (Text.lowercase text = "true" ∨ Text.lowercase text = "1" ∨ Text.lowercase text = "yes")

/-- A search path of a project as it is seen from the project's root. -/
def seenFrom : Option String → String → String
  | some root, path => if Path.isAbsolute path then path else Path.join root path
  | none, path => path

/-- Each effective setting comes from its own variable and its own keys. -/
structure Effective (text? : String → Option String) (root : Option String)
    (project global : Settings) (m : Merged) : Prop where
  checkErrno : m.checkErrno = decided ((text? "LIGATURE_CHECK_ERRNO").map flagOf)
    project.checkErrno global.checkErrno false
  releaseLock : m.releaseLock = decided ((text? "LIGATURE_RELEASE_LOCK").map flagOf)
    project.releaseLock global.releaseLock false
  abi : m.abi = decided (text? "LIGATURE_ABI") project.abi global.abi "default"
  onExpired : m.onExpired = decided ((text? "LIGATURE_ON_EXPIRED").map Text.lowercase)
    project.onExpired global.onExpired "abort"
  searchPaths : m.searchPaths = project.searchPaths.map (seenFrom root) ++ global.searchPaths

theorem flagOf_eq (text : String) : flagOf text = Environment.isOn text := by
  simp [flagOf, Environment.isOn, List.contains_eq_mem]

theorem seenFrom_eq (root path : String) : seenFrom (some root) path = Path.join root path := by
  by_cases habsolute : Path.isAbsolute path = true
  · simp [seenFrom, Path.join, habsolute]
  · simp [seenFrom, habsolute]

/-- What stands in front of a layer is the same as a value put into it. -/
theorem decided_or {α : Type} (given project global : Option α) (builtin : α) :
    decided none (given.or project) global builtin = decided given project global builtin := by
  cases given <;> cases project <;> rfl

namespace Merged

variable (m : Merged)

theorem checkErrno_eq :
    m.checkErrno = decided none m.project.checkErrno m.global.checkErrno false := by
  unfold checkErrno
  cases m.project.checkErrno <;> cases m.global.checkErrno <;> rfl

theorem releaseLock_eq :
    m.releaseLock = decided none m.project.releaseLock m.global.releaseLock false := by
  unfold releaseLock
  cases m.project.releaseLock <;> cases m.global.releaseLock <;> rfl

theorem abi_eq : m.abi = decided none m.project.abi m.global.abi "default" := by
  unfold abi
  cases m.project.abi <;> cases m.global.abi <;> rfl

theorem onExpired_eq : m.onExpired = decided none m.project.onExpired m.global.onExpired "abort" := by
  unfold onExpired
  cases m.project.onExpired <;> cases m.global.onExpired <;> rfl

theorem searchPaths_eq :
    m.searchPaths = m.project.searchPaths.map (seenFrom m.projectRoot) ++ m.global.searchPaths := by
  unfold searchPaths
  cases m.projectRoot with
  | none => rfl
  | some root => rw [funext (seenFrom_eq root)]

end Merged

theorem Layered.effective {l : Loader} {files : Files} {env : Environment} {start : Start}
    {root : Option String} {project global : Settings} {m : Merged}
    (h : Layered l files env start root project global m) :
    Effective (l.text? env) root project global m := by
  have hoverrides := h.overrides
  rw [← h.root_eq, ← h.global_eq]
  by_cases hreads : l.readsEnvironment = true
  · rw [if_pos hreads] at hoverrides
    have htext : l.text? env = env.get? := by
      funext name
      rw [Loader.text?, if_pos hreads]
    have hpaths : m.project.searchPaths = project.searchPaths := by
      rw [Settings.searchPaths, hoverrides.loader, Settings.searchPaths]
    rw [htext]
    constructor
    · rw [m.checkErrno_eq, hoverrides.checkErrno, decided_or, Environment.flag?, funext flagOf_eq]
    · rw [m.releaseLock_eq, hoverrides.releaseLock, decided_or, Environment.flag?, funext flagOf_eq]
    · rw [m.abi_eq, hoverrides.abi, decided_or]
    · rw [m.onExpired_eq, hoverrides.onExpired, decided_or]
    · rw [m.searchPaths_eq, hpaths]
  · rw [if_neg hreads] at hoverrides
    have htext : ∀ name, l.text? env name = none := fun name => if_neg hreads
    rw [← hoverrides]
    constructor
    · rw [m.checkErrno_eq, htext, Option.map_none]
    · rw [m.releaseLock_eq, htext, Option.map_none]
    · rw [m.abi_eq, htext]
    · rw [m.onExpired_eq, htext, Option.map_none]
    · exact m.searchPaths_eq

/-- Every load that succeeds, from a directory or a file.  Where the global file is the same, the
environment has no part in the search paths. -/
theorem settings_precedence {l : Loader} {files : Files} {env : Environment} {start : Start}
    {m : Merged} (h : (l.load files env start).1 = .ok m) :
    (∃ root project global, ProjectLayer files start root project ∧
      GlobalLayer files (l.globalFile? env) global ∧
      Effective (l.text? env) root project global m) ∧
    ∀ l' env' m', Loader.globalFile? l' env' = l.globalFile? env →
      (Loader.load l' files env' start).1 = .ok m' → m'.searchPaths = m.searchPaths := by
  obtain ⟨root, project, global, hlayered⟩ := Loader.load_eq_ok h
  refine ⟨⟨root, project, global, hlayered.projectLayer, hlayered.globalLayer,
    hlayered.effective⟩, fun l' env' m' hglobal h' => ?_⟩
  obtain ⟨root', project', global', hlayered'⟩ := Loader.load_eq_ok h'
  obtain ⟨rfl, rfl⟩ := hlayered'.projectLayer.unique hlayered.projectLayer
  have hsame := hlayered'.globalLayer
  rw [hglobal] at hsame
  obtain rfl := hsame.unique hlayered.globalLayer
  rw [hlayered'.effective.searchPaths, hlayered.effective.searchPaths]

/-- A project below the root, and a home directory with a global file. -/
def layeredFiles : Files where
  root := .directory [
    ("h", .directory [(".ligature", .directory [("config.toml",
      .file "[call]\ncheck_errno=true\nabi='4'".toUTF8.toList)])]),
    ("p", .directory [("ligature.toml",
      .file "[call]\nabi='2'\n[loader]\nsearch_paths=['lib']".toUTF8.toList)])]
  workingPlace := []

/-- One flag is set to nothing, which turns it off. -/
def layeredVariables : Environment where
  bindings := [("HOME", "/h".toUTF8.toList), ("LIGATURE_CHECK_ERRNO", [])]
  accountHome := none

def layered : Merged where
  project := ⟨some ⟨some false, none, some "2"⟩, none, some ⟨some ["lib"]⟩⟩
  global := ⟨some ⟨some true, none, some "4"⟩, none, none⟩
  projectRoot := some "/p"

theorem load_layered :
    (Loader.new.load layeredFiles layeredVariables (.directory "/p")).1 = .ok layered := by
  decide +kernel

/-- The environment turns off what the global file turns on, and the project file has its way with
the calling convention. -/
theorem settings_precedence_layers :
    (Loader.new.load layeredFiles layeredVariables (.directory "/p")).1 = .ok layered ∧
      layered.checkErrno = false ∧ layered.abi = "2" ∧ layered.onExpired = "abort" ∧
      layered.searchPaths = ["/p/lib"] ∧
      ∃ root project global, ProjectLayer layeredFiles (.directory "/p") root project ∧
        GlobalLayer layeredFiles (Loader.new.globalFile? layeredVariables) global ∧
        Effective (Loader.new.text? layeredVariables) root project global layered :=
  ⟨load_layered, rfl, rfl, rfl, rfl, (settings_precedence load_layered).1⟩

end Config

end CallBridge
