/-
A loader that is used more than once.

A loader keeps nothing but the path of its global file, which is fixed by the first load that gets
past its project file.  `repeated_loads` says that each of its loads has the outcome that a new
loader with that path has at the same moment, whatever was loaded before, and with whatever success.
-/
import CallBridge.Proofs.NearestFile

namespace CallBridge

namespace Config

/-! ## Runs -/

/-- What there is to be loaded from at one moment. -/
structure Surroundings where
  files : Files
  env : Environment

/-- Files and variables change, in any way, or the loader is asked to load. -/
inductive Event where
  | change (now : Surroundings)
  | load (start : Start)

/-- A load at its moment. -/
structure Visit where
  now : Surroundings
  start : Start

/-- The loads among the events, each with what there is at its moment. -/
def visits : Surroundings → List Event → List Visit
  | _, [] => []
  | _, .change now :: events => visits now events
  | now, .load start :: events => ⟨now, start⟩ :: visits now events

/-- What a loader answers at a visit. -/
def Visit.by (v : Visit) (l : Loader) : Except Error Merged × Loader :=
  l.load v.now.files v.now.env v.start

/-- The answers of one loader, and the loader that is left. -/
def Loader.run : Loader → Surroundings → List Event → List (Except Error Merged) × Loader
  | l, _, [] => ([], l)
  | l, _, .change now :: events => l.run now events
  | l, now, .load start :: events =>
    let (answer, l) := Visit.by ⟨now, start⟩ l
    let (answers, l) := l.run now events
    (answer :: answers, l)

/-- The file that the visit is about, if there is one, holds settings. -/
def Visit.PassesProject (v : Visit) : Prop := ∃ root s, ProjectLayer v.now.files v.start root s

/-- Where the global file is, seen from a home directory. -/
def globalFileIn (home : String) : String := Path.join (Path.join home ".ligature") "config.toml"

/-- The path of the global file for a loader and its visits: the one that the loader has or, failing
that, the one below the home directory at the first visit that gets past its project file. -/
inductive Fixes (l : Loader) : List Visit → String → Prop
  | given {visits : List Visit} {path : String} (h : l.globalPath = some path) : Fixes l visits path
  | first {before after : List Visit} {v : Visit} {home : String} (hnone : l.globalPath = none)
    (hbefore : ∀ u ∈ before, ¬u.PassesProject) (hproject : v.PassesProject)
    (hhome : v.now.env.home? = some home) :
    Fixes l (before ++ v :: after) (globalFileIn home)

/-- A new loader that is given the path of its global file, and reads the environment if `l`
does. -/
def Loader.renewed (l : Loader) (path : String) : Loader :=
  if l.readsEnvironment then withGlobalPath path else (withGlobalPath path).withoutEnvironment

variable {l : Loader} {v : Visit} {path : String}

theorem Loader.renewed_eq (l : Loader) (path : String) :
    l.renewed path = { l with globalPath := some path } := by
  obtain ⟨globalPath, readsEnvironment⟩ := l
  cases readsEnvironment <;> rfl

theorem Loader.globalPath_renewed (l : Loader) (path : String) :
    (l.renewed path).globalPath = some path := by
  rw [renewed_eq]

/-! ## One load -/

theorem findProject_of_layer {files : Files} {start : String} {root : Option String} {s : Settings}
    (h : ProjectLayer files (.directory start) root s) :
    Loader.findProject files start = .ok (root, s) := by
  unfold Loader.findProject
  cases h with
  | found hnearest hread =>
    rw [hnearest]
    show (Settings.read files (Path.join _ projectFile) >>= fun _ => _) = _
    rw [hread]
    rfl
  | missing hnone => rw [hnone]

/-- The stage of a load that finds the project file and reads it. -/
def Visit.projectStage (v : Visit) : Except Error (Option String × Settings) :=
  match v.start with
  | .directory path => Loader.findProject v.now.files path
  | .file path => do return (Path.parent? path, ← Settings.read v.now.files path)

theorem Visit.by_eq_finish (v : Visit) (l : Loader) :
    v.by l = l.finish v.now.files v.now.env v.projectStage := by
  obtain ⟨now, start⟩ := v
  cases start <;> rfl

theorem Visit.passesProject_iff : v.PassesProject ↔ ∃ found, v.projectStage = .ok found := by
  obtain ⟨⟨files, env⟩, start⟩ := v
  cases start with
  | directory path =>
    constructor
    · rintro ⟨root, s, hlayer⟩
      exact ⟨_, findProject_of_layer hlayer⟩
    · rintro ⟨found, hfound⟩
      exact ⟨_, _, Loader.findProject_eq_ok hfound⟩
  | file path =>
    constructor
    · rintro ⟨root, s, ⟨hread⟩⟩
      refine ⟨(Path.parent? path, s), ?_⟩
      show (Settings.read files path >>= fun _ => _) = _
      rw [hread]
      rfl
    · rintro ⟨found, hfound⟩
      obtain ⟨s, hread, -⟩ := bind_eq_ok hfound
      exact ⟨_, _, .given hread⟩

/-- All that a load can do to a loader: the first thing that it does not share with the loads of
other loaders is done after the project stage. -/
theorem Visit.by_cases (v : Visit) :
    (v.PassesProject ∧ ∃ root s, ∀ l,
      v.by l = ((l.resolveGlobal v.now.env).merge v.now.files v.now.env root s,
        l.resolveGlobal v.now.env)) ∨
    (¬v.PassesProject ∧ ∃ e, ∀ l, v.by l = (.error e, l)) := by
  simp only [passesProject_iff, by_eq_finish]
  cases v.projectStage with
  | ok found => exact Or.inl ⟨⟨found, rfl⟩, found.1, found.2, fun _ => rfl⟩
  | error e => exact Or.inr ⟨fun ⟨_, hfound⟩ => (nomatch hfound), e, fun _ => rfl⟩

theorem Loader.resolveGlobal_of_given {env : Environment} (h : l.globalPath = some path) :
    l.resolveGlobal env = l := by
  unfold resolveGlobal
  rw [h]

theorem Loader.resolveGlobal_of_home {env : Environment} {home : String}
    (hnone : l.globalPath = none) (hhome : env.home? = some home) :
    l.resolveGlobal env = l.renewed (globalFileIn home) := by
  unfold resolveGlobal globalDirectory
  rw [hnone, hhome, renewed_eq]
  rfl

theorem Loader.run_load (l : Loader) (now : Surroundings) (start : Start) (events : List Event) :
    l.run now (.load start :: events) =
      ((Visit.by ⟨now, start⟩ l).1 :: ((Visit.by ⟨now, start⟩ l).2.run now events).1,
        ((Visit.by ⟨now, start⟩ l).2.run now events).2) := rfl

/-! ## The path of the global file -/

theorem Fixes.skip {vs : List Visit} (h : Fixes l vs path) (hv : ¬v.PassesProject) :
    Fixes l (v :: vs) path := by
  cases h with
  | given h => exact .given h
  | @first before after w home hnone hbefore hproject hhome =>
    have hskip : ∀ u ∈ v :: before, ¬u.PassesProject := List.forall_mem_cons.mpr ⟨hv, hbefore⟩
    exact .first hnone hskip hproject hhome

/-- A path that is fixed is fixed at the first visit or after it. -/
theorem fixes_cons {vs : List Visit} (h : Fixes l (v :: vs) path) (hnone : l.globalPath = none) :
    (v.PassesProject ∧ ∃ home, v.now.env.home? = some home ∧
      path = globalFileIn home) ∨
    (¬v.PassesProject ∧ Fixes l vs path) := by
  generalize hall : v :: vs = all at h
  cases h with
  | given h => cases hnone.symm.trans h
  | @first before after w home _ hbefore hproject hhome =>
    cases before with
    | nil =>
      obtain ⟨rfl, rfl⟩ := List.cons.inj hall
      exact Or.inl ⟨hproject, home, hhome, rfl⟩
    | cons u before =>
      obtain ⟨rfl, rfl⟩ := List.cons.inj hall
      obtain ⟨hu, hrest⟩ := List.forall_mem_cons.mp hbefore
      exact Or.inr ⟨hu, .first hnone hrest hproject hhome⟩

theorem fixes_of_given {vs : List Visit} {given : String} (h : l.globalPath = some given) :
    Fixes l vs path ↔ path = given := by
  constructor
  · rintro (h' | ⟨hnone, -, -, -⟩)
    · exact Option.some.inj (h'.symm.trans h)
    · cases hnone.symm.trans h
  · rintro rfl
    exact .given h

/-- A visit that passes its project file with a home directory fixes the path. -/
theorem fixes_of_passes {vs : List Visit} {home : String} (hnone : l.globalPath = none)
    (hproject : v.PassesProject) (hhome : v.now.env.home? = some home) :
    Fixes l (v :: vs) (globalFileIn home) := by
  have hfirst : Fixes l ([] ++ v :: vs) (globalFileIn home) :=
    .first hnone (fun _ hu => nomatch hu) hproject hhome
  exact hfirst

/-! ## All loads -/

/-- A loader that has its path does not change. -/
theorem Visit.by_of_given (h : l.globalPath = some path) : (v.by l).2 = l := by
  obtain ⟨-, root, s, hby⟩ | ⟨-, e, hby⟩ := v.by_cases
  · rw [hby, Loader.resolveGlobal_of_given h]
  · rw [hby]

theorem run_of_given (h : l.globalPath = some path) (now : Surroundings) (events : List Event) :
    l.run now events = ((visits now events).map fun v => (v.by l).1, l) := by
  induction events generalizing now with
  | nil => rfl
  | cons event events ih =>
    cases event with
    | change now => exact ih now
    | load start =>
      rw [Loader.run_load, Visit.by_of_given h, ih]
      rfl

/-- No load leaves anything in a loader but the path. -/
theorem Visit.loader_left (v : Visit) (l : Loader) :
    (v.by l).2 = l ∨
      l.globalPath = none ∧ ∃ path, Fixes l [v] path ∧ (v.by l).2 = l.renewed path := by
  obtain ⟨hproject, root, s, hby⟩ | ⟨-, e, hby⟩ := v.by_cases
  · rw [hby]
    cases hpath : l.globalPath with
    | some path => exact Or.inl (Loader.resolveGlobal_of_given hpath)
    | none =>
      cases hhome : v.now.env.home? with
      | some home =>
        exact Or.inr ⟨rfl, _, fixes_of_passes hpath hproject hhome,
          Loader.resolveGlobal_of_home hpath hhome⟩
      | none =>
        refine Or.inl ?_
        unfold Loader.resolveGlobal globalDirectory
        rw [hpath, hhome]
  · rw [hby]
    exact Or.inl rfl

/-- What a run comes to: the path that its visits fix, if they fix one, is in the loader that is
left, and the answers are those of new loaders with that path.  Where none is fixed, the answers are
the same whatever path they are given. -/
structure Comes (l : Loader) (vs : List Visit) (outcome : List (Except Error Merged) × Loader) :
    Prop where
  path_iff : ∀ path, outcome.2.globalPath = some path ↔ Fixes l vs path
  readsEnvironment : outcome.2.readsEnvironment = l.readsEnvironment
  answers : ∀ path, (∀ fixed, Fixes l vs fixed → fixed = path) →
    outcome.1 = vs.map fun v => (v.by (l.renewed path)).1

theorem comes_of_given {given : String} (h : l.globalPath = some given) (now : Surroundings)
    (events : List Event) : Comes l (visits now events) (l.run now events) := by
  rw [run_of_given h]
  refine ⟨fun path => ?_, rfl, fun path hpath => ?_⟩
  · rw [fixes_of_given h, h, Option.some.injEq, eq_comm]
  · obtain rfl := hpath given (.given h)
    have hsame : l.renewed given = l := by rw [Loader.renewed_eq, ← h]
    rw [hsame]

/-- A visit that does not get past its project file changes nothing and is answered alike by all
loaders. -/
theorem Comes.skip {vs : List Visit} {outcome : List (Except Error Merged) × Loader}
    (h : Comes l vs outcome) (hnone : l.globalPath = none) (hv : ¬v.PassesProject) {e : Error}
    (hby : ∀ l, v.by l = (.error e, l)) : Comes l (v :: vs) (.error e :: outcome.1, outcome.2) where
  path_iff := by
    intro path
    rw [h.path_iff path]
    refine ⟨fun hfixes => hfixes.skip hv, fun hfixes => ?_⟩
    obtain ⟨hpasses, -⟩ | ⟨-, hrest⟩ := fixes_cons hfixes hnone
    · exact absurd hpasses hv
    · exact hrest
  readsEnvironment := h.readsEnvironment
  answers := by
    intro path hpath
    have hrest := h.answers path fun fixed hfixes => hpath fixed (hfixes.skip hv)
    rw [List.map_cons, hby, ← hrest]

/-- A visit that fixes the path is answered as by a loader that has it, and so are all after it. -/
theorem Comes.fix {vs : List Visit} {outcome : List (Except Error Merged) × Loader} {home : String}
    (hnone : l.globalPath = none) (hproject : v.PassesProject)
    (hhome : v.now.env.home? = some home) {answer : Except Error Merged}
    (hanswer : answer =
      (v.by (l.renewed (globalFileIn home))).1)
    (h : Comes (l.renewed (globalFileIn home)) vs outcome) :
    Comes l (v :: vs) (answer :: outcome.1, outcome.2) := by
  generalize hfixed : globalFileIn home = fixed at hanswer h
  have hfix : Fixes l (v :: vs) fixed := hfixed ▸ fixes_of_passes hnone hproject hhome
  have hgiven := l.globalPath_renewed fixed
  have hunique : ∀ path, Fixes l (v :: vs) path ↔ path = fixed := by
    refine fun path => ⟨fun hpath => ?_, fun hpath => hpath ▸ hfix⟩
    obtain ⟨-, home', hhome', rfl⟩ | ⟨hnot, -⟩ := fixes_cons hpath hnone
    · rw [← hfixed, Option.some.inj (hhome'.symm.trans hhome)]
    · exact absurd hproject hnot
  refine ⟨fun path => ?_, ?_, fun path hpath => ?_⟩
  · rw [h.path_iff path, fixes_of_given hgiven, hunique]
  · rw [h.readsEnvironment, Loader.renewed_eq]
  · obtain rfl := hpath fixed hfix
    have hrest := h.answers fixed fun other hother => (fixes_of_given hgiven).mp hother
    have htwice : (l.renewed fixed).renewed fixed = l.renewed fixed := by
      simp only [Loader.renewed_eq]
    rw [htwice] at hrest
    rw [List.map_cons, ← hanswer, ← hrest]

theorem run_comes (l : Loader) (now : Surroundings) (events : List Event)
    (hhome : ∀ v ∈ visits now events, v.now.env.home? ≠ none) :
    Comes l (visits now events) (l.run now events) := by
  cases hpath : l.globalPath with
  | some given => exact comes_of_given hpath now events
  | none =>
    induction events generalizing now with
    | nil =>
      refine ⟨fun path => ⟨fun h => ?_, fun h => ?_⟩, rfl, fun _ _ => rfl⟩
      · cases hpath.symm.trans h
      generalize hvs : visits now [] = vs at h
      cases h with
      | given h => cases hpath.symm.trans h
      | first => cases (List.append_ne_nil_of_right_ne_nil _ (List.cons_ne_nil _ _)) hvs.symm
    | cons event events ih =>
      cases event with
      | change now => exact ih now hhome
      | load start =>
        obtain ⟨hfirst, hrest⟩ := List.forall_mem_cons.mp hhome
        rw [Loader.run_load]
        obtain ⟨hproject, root, s, hby⟩ | ⟨hproject, e, hby⟩ := Visit.by_cases ⟨now, start⟩
        · obtain ⟨home, hhome⟩ := Option.ne_none_iff_exists'.mp hfirst
          have hleft := Loader.resolveGlobal_of_home hpath hhome
          have hgiven := l.globalPath_renewed (globalFileIn home)
          rw [hby, hleft]
          refine .fix hpath hproject hhome ?_ (comes_of_given hgiven now events)
          rw [hby, Loader.resolveGlobal_of_given hgiven]
        · rw [hby]
          exact (ih now hrest).skip hpath hproject hby

/-- Two visits differ in nothing but the home directory. -/
structure Visit.SameButHome (v v' : Visit) : Prop where
  files : v.now.files = v'.now.files
  start : v.start = v'.start
  env : Environment.SameBut ["HOME"] v.now.env v'.now.env

theorem Visit.SameButHome.by_eq {v' : Visit} (h : v.SameButHome v')
    (hpath : l.globalPath = some path) : v.by l = v'.by l := by
  obtain ⟨⟨files, env⟩, start⟩ := v
  obtain ⟨⟨files', env'⟩, start'⟩ := v'
  obtain ⟨rfl, rfl, henv⟩ : files = files' ∧ start = start' ∧ _ := ⟨h.files, h.start, h.env⟩
  rw [by_eq_finish, by_eq_finish]
  exact Loader.finish_congr (fun path _ => .refl files path)
    (Loader.sameEnvironment_of_globalPath hpath henv) _

/-- The home directory does not matter to a loader that has its path, whether it was given the path
or fixed it before. -/
theorem run_of_sameButHome (hpath : l.globalPath = some path) {now now' : Surroundings}
    {events events' : List Event}
    (h : List.Forall₂ Visit.SameButHome (visits now events) (visits now' events')) :
    l.run now events = l.run now' events' := by
  rw [run_of_given hpath, run_of_given hpath]
  have hanswers : List.Forall₂ Eq ((visits now events).map fun v => (v.by l).1)
      ((visits now' events').map fun v => (v.by l).1) := by
    rw [List.forall₂_map_left_iff, List.forall₂_map_right_iff]
    exact h.imp fun v v' hv => congrArg Prod.fst (hv.by_eq hpath)
  rw [List.forall₂_eq_eq_eq] at hanswers
  rw [hanswers]

/-- Where a home directory is always found, each answer is that of a new loader with the path that
the run fixes, and the path is all that the run leaves in the loader.  A load, with whatever answer,
leaves the loader as it was or fixes the path.  Once that is fixed, no later home directory has an
effect. -/
theorem repeated_loads (l : Loader) (now : Surroundings) (events : List Event)
    (hhome : ∀ v ∈ visits now events, v.now.env.home? ≠ none) :
    (∀ path, (∀ fixed, Fixes l (visits now events) fixed → fixed = path) →
      (l.run now events).1 = (visits now events).map fun v => (v.by (l.renewed path)).1) ∧
    ((∀ path, (l.run now events).2.globalPath = some path ↔ Fixes l (visits now events) path) ∧
      (l.run now events).2.readsEnvironment = l.readsEnvironment) ∧
    (∀ v : Visit, (v.by l).2 = l ∨
      l.globalPath = none ∧ ∃ path, Fixes l [v] path ∧ (v.by l).2 = l.renewed path) ∧
    ∀ path, Fixes l (visits now events) path → ∀ now' now'' later later',
      List.Forall₂ Visit.SameButHome (visits now' later) (visits now'' later') →
      (l.run now events).2.run now' later = (l.run now events).2.run now'' later' := by
  have hcomes := run_comes l now events hhome
  refine ⟨hcomes.answers, ⟨hcomes.path_iff, hcomes.readsEnvironment⟩, fun v => v.loader_left l,
    fun path hfixes _ _ _ _ hsame => ?_⟩
  exact run_of_sameButHome ((hcomes.path_iff path).mpr hfixes) hsame

/-- A home directory without a global file. -/
def bareHome : Environment where
  bindings := [("HOME", "/bare".toUTF8.toList)]
  accountHome := none

/-- A file that is not there, a project under the bare home directory, and the same project under
the other one. -/
def movingHome : List Event :=
  [.load (.file "/none"), .change ⟨layeredFiles, bareHome⟩, .load (.directory "/p"),
    .change ⟨layeredFiles, layeredVariables⟩, .load (.file "/p/ligature.toml")]

/-- The first home directory is passed over, since the load under it did not get past its file, and
the last comes too late. -/
theorem repeated_loads_moving :
    ((∀ v ∈ visits ⟨layeredFiles, layeredVariables⟩ movingHome, v.now.env.home? ≠ none) ∧
      Fixes .new (visits ⟨layeredFiles, layeredVariables⟩ movingHome)
        "/bare/.ligature/config.toml") ∧
    (Loader.new.run ⟨layeredFiles, layeredVariables⟩ movingHome).1 =
      (visits ⟨layeredFiles, layeredVariables⟩ movingHome).map
        (fun v => (v.by (.withGlobalPath "/bare/.ligature/config.toml")).1) ∧
    (Visit.by ⟨⟨layeredFiles, layeredVariables⟩, .directory "/p"⟩ .new).1 ≠
      (Visit.by ⟨⟨layeredFiles, layeredVariables⟩, .directory "/p"⟩
        (.withGlobalPath "/bare/.ligature/config.toml")).1 := by
  have hhome : ∀ v ∈ visits ⟨layeredFiles, layeredVariables⟩ movingHome,
      v.now.env.home? ≠ none := by
    decide +kernel
  obtain ⟨hanswers, ⟨hpath, -⟩, -, -⟩ := repeated_loads .new _ movingHome hhome
  have hfixes := (hpath "/bare/.ligature/config.toml").mp (by decide +kernel)
  refine ⟨⟨hhome, hfixes⟩, hanswers _ fun fixed hfixed => ?_, by decide +kernel⟩
  exact Option.some.inj (((hpath fixed).mpr hfixed).symm.trans ((hpath _).mpr hfixes))

end Config

end CallBridge
