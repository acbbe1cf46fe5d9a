/-
When a load fails, and with which error.

A load has four stages at which something can be wrong: the nearest project file, the global file,
and the two variables that hold a word.  `load_fails_at_first_fault` says that a load succeeds
exactly if nothing is wrong at any of them, and that its error is otherwise one that the first stage
with a fault has, and says where the fault is.
-/
import CallBridge.Proofs.Interpretation
import CallBridge.Proofs.NearestFile

namespace CallBridge

namespace Config

/-! ## Faults in a file -/

/-- The error of a text that is no calling convention. -/
def Error.misspelledAbi (field text : String) : Error :=
  .invalidValue field s!"must be 'default' or an ABI number, got '{text}'"

/-- The error of a text that is no policy. -/
def Error.misspelledPolicy (field text : String) : Error :=
  .invalidValue field s!"must be 'abort' or 'ignore', got '{text}'"

/-- What is wrong with the values of settings, and the key that is told: the calling convention is
looked at first. -/
inductive Settings.Misspelled (s : Settings) : Error → Prop
  | abi {text : String} (h : s.abi = some text) (hbad : isAbiSpelling text = false) :
    Misspelled s (.misspelledAbi "call.abi" text)
  | onExpired {text : String} (habi : ∀ text, s.abi = some text → isAbiSpelling text = true)
    (h : s.onExpired = some text) (hbad : isPolicySpelling text = false) :
    Misspelled s (.misspelledPolicy "callbacks.on_expired" text)

/-- The file at a path is text, and the text a document that fits the schema, with the right
spellings in it. -/
def HoldsSettings (files : Files) (path : String) : Prop :=
  ∃ text s, files.readText path = .ok text ∧ Settings.decode text = .ok s ∧ s.Valid

/-- What is wrong with the file at a path. -/
inductive FileFault (files : Files) (path : String) : Error → Prop
  | unreadable {reason : ReadError} (h : files.readText path = .error reason) :
    FileFault files path (.unreadable reason)
  | invalid {text : String} {reason : DocumentError} (htext : files.readText path = .ok text)
    (h : Settings.decode text = .error reason) : FileFault files path (.invalidDocument path reason)
  | misspelled {text : String} {s : Settings} {e : Error} (htext : files.readText path = .ok text)
    (hdecode : Settings.decode text = .ok s) (h : s.Misspelled e) : FileFault files path e

/-- What is made of a result has no error of its own. -/
theorem bind_ok_eq_error {α β : Type} {x : Except Error α} {g : α → β} {e : Error} :
    (x >>= fun a => .ok (g a)) = .error e ↔ x = .error e := by
  cases x <;> simp [bind, Except.bind]

theorem checkAbi_eq_error {field text : String} {e : Error} :
    checkAbi field text = .error e ↔
      isAbiSpelling text = false ∧ e = .misspelledAbi field text := by
  unfold checkAbi Error.misspelledAbi
  split
  · rename_i hspelled
    simp [hspelled]
  · rename_i hbad
    simp [hbad, eq_comm (b := e)]

theorem checkPolicy_eq_error {field text : String} {e : Error} :
    checkPolicy field text = .error e ↔
      isPolicySpelling text = false ∧ e = .misspelledPolicy field text := by
  unfold checkPolicy Error.misspelledPolicy
  split
  · rename_i hspelled
    simp [hspelled]
  · rename_i hbad
    simp [hbad, eq_comm (b := e)]

theorem Settings.validate_eq_error {s : Settings} {e : Error} :
    s.validate = .error e ↔ s.Misspelled e := by
  have hfails : ∀ {e}, s.Misspelled e → s.validate = .error e := by
    rintro _ (⟨h, hbad⟩ | ⟨habi, h, hbad⟩)
    · exact validate_of_abi h (checkAbi_eq_error.mpr ⟨hbad, rfl⟩)
    · exact validate_of_onExpired habi h (checkPolicy_eq_error.mpr ⟨hbad, rfl⟩)
  refine ⟨fun h => ?_, hfails⟩
  by_cases habi : ∀ text, s.abi = some text → isAbiSpelling text = true
  · by_cases hpolicy : ∀ text, s.onExpired = some text → isPolicySpelling text = true
    · cases h.symm.trans (validate_eq_ok.mpr ⟨habi, hpolicy⟩)
    · simp only [not_forall, Bool.not_eq_true] at hpolicy
      obtain ⟨text, htext, hbad⟩ := hpolicy
      have hmisspelled := Misspelled.onExpired habi htext hbad
      cases h.symm.trans (hfails hmisspelled)
      exact hmisspelled
  · simp only [not_forall, Bool.not_eq_true] at habi
    obtain ⟨text, htext, hbad⟩ := habi
    have hmisspelled := Misspelled.abi htext hbad
    cases h.symm.trans (hfails hmisspelled)
    exact hmisspelled

/-- Where there is something, reading does not fail because there is nothing. -/
theorem readText_ne_noEntry {files : Files} {path : String} (hhas : files.has path = true) :
    files.readText path ≠ .error (.system Files.noEntry) := by
  unfold Files.has Files.find? at hhas
  unfold Files.readText
  cases hlocate : files.locate path with
  | error reason =>
    rw [hlocate] at hhas
    cases hhas
  | ok place =>
    rw [hlocate] at hhas
    obtain ⟨node, hnode⟩ : ∃ node, files.root.at? place = some node :=
      Option.isSome_iff_exists.mp hhas
    simp only [bind, Except.bind, hnode]
    cases node with
    | file content =>
      dsimp only
      split <;> simp
    | library l => simp
    | directory entries => simp [Files.isDirectory, Files.noEntry]

namespace Settings

variable {files : Files} {path text : String}

theorem read_of_unreadable {reason : ReadError} (hhas : files.has path = true)
    (h : files.readText path = .error reason) : read files path = .error (.unreadable reason) := by
  have hreason : reason ≠ .system Files.noEntry := fun hreason =>
    readText_ne_noEntry hhas (hreason ▸ h)
  simp only [read, h, if_neg hreason]

theorem read_of_text (h : files.readText path = .ok text) :
    read files path = parse path text := by
  simp only [read, h]

theorem parse_of_invalid {reason : DocumentError} (h : decode text = .error reason) :
    parse path text = .error (.invalidDocument path reason) := by
  simp only [parse, h]

theorem parse_of_decoded {s : Settings} (h : decode text = .ok s) :
    parse path text = s.validate >>= fun _ => .ok s := by
  simp only [parse, h]
  rfl

theorem read_eq_error (hhas : files.has path = true) {e : Error} :
    read files path = .error e ↔ FileFault files path e := by
  constructor
  · intro h
    cases htext : files.readText path with
    | error reason =>
      rw [read_of_unreadable hhas htext] at h
      cases h
      exact .unreadable htext
    | ok text =>
      rw [read_of_text htext] at h
      cases hdecode : decode text with
      | error reason =>
        rw [parse_of_invalid hdecode] at h
        cases h
        exact .invalid htext hdecode
      | ok s =>
        rw [parse_of_decoded hdecode, bind_ok_eq_error, validate_eq_error] at h
        exact .misspelled htext hdecode h
  · rintro (htext | ⟨htext, hdecode⟩ | ⟨htext, hdecode, h⟩)
    · exact read_of_unreadable hhas htext
    · rw [read_of_text htext, parse_of_invalid hdecode]
    · rw [read_of_text htext, parse_of_decoded hdecode, bind_ok_eq_error]
      exact validate_eq_error.mpr h

end Settings

/-- A file holds settings exactly if nothing is wrong with it. -/
theorem holdsSettings_iff {files : Files} {path : String} :
    HoldsSettings files path ↔ ∀ e, ¬FileFault files path e := by
  constructor
  · rintro ⟨text, s, htext, hdecode, hvalid⟩ e (h | ⟨h, hreason⟩ | ⟨h, hother, hmisspelled⟩)
    · cases htext.symm.trans h
    · cases htext.symm.trans h
      cases hdecode.symm.trans hreason
    · cases htext.symm.trans h
      cases hdecode.symm.trans hother
      cases (Settings.validate_eq_error.mpr hmisspelled).symm.trans
        (Settings.validate_eq_ok.mpr hvalid)
  · intro hnone
    cases htext : files.readText path with
    | error reason => exact absurd (.unreadable htext) (hnone _)
    | ok text =>
      cases hdecode : Settings.decode text with
      | error reason => exact absurd (.invalid htext hdecode) (hnone _)
      | ok s =>
        refine ⟨text, s, htext, hdecode, ?_⟩
        cases hvalidate : s.validate with
        | error e =>
          have hmisspelled := Settings.validate_eq_error.mp hvalidate
          exact absurd (.misspelled htext hdecode hmisspelled) (hnone e)
        | ok _ => exact Settings.validate_eq_ok.mp hvalidate

theorem FileFault.ne_notFound {files : Files} {path : String} {e : Error}
    (h : FileFault files path e) (missing : String) : e ≠ .notFound missing := by
  rintro rfl
  cases h with
  | misspelled _ _ h => cases h

/-! ## The first stage with a fault -/

/-- What is looked at for faults, and where. -/
inductive Stage where
  | project
  | global
  | abi
  | onExpired
deriving DecidableEq, Repr

def Stage.inOrder : List Stage := [project, global, abi, onExpired]

/-- A stage has a fault of which `e` tells, and none before it has any. -/
def FirstFault (fault : Stage → Error → Prop) (stages : List Stage) (e : Error) : Prop :=
  ∃ before stage after, stages = before ++ stage :: after ∧ fault stage e ∧
    ∀ earlier ∈ before, ∀ e', ¬fault earlier e'

section FirstFault

variable {fault : Stage → Error → Prop} {stage : Stage} {stages : List Stage} {e : Error}

theorem not_firstFault_nil : ¬FirstFault fault [] e := by
  rintro ⟨before, stage, after, h, -⟩
  simp at h

theorem firstFault_cons :
    FirstFault fault (stage :: stages) e ↔
      fault stage e ∨ (∀ e', ¬fault stage e') ∧ FirstFault fault stages e := by
  constructor
  · rintro ⟨before, found, after, h, hfault, hbefore⟩
    cases before with
    | nil =>
      cases h
      exact Or.inl hfault
    | cons first before =>
      cases h
      exact Or.inr ⟨hbefore stage List.mem_cons_self, before, found, after, rfl, hfault,
        fun earlier hmem => hbefore earlier (List.mem_cons_of_mem _ hmem)⟩
  · rintro (hfault | ⟨hnone, before, found, after, rfl, hfault, hbefore⟩)
    · exact ⟨[], stage, stages, rfl, hfault, by simp⟩
    · exact ⟨stage :: before, found, after, rfl, hfault, List.forall_mem_cons.mpr ⟨hnone, hbefore⟩⟩

theorem firstFault_singleton : FirstFault fault [stage] e ↔ fault stage e := by
  simp [firstFault_cons, not_firstFault_nil]

/-- There is no first fault only where there is none. -/
theorem not_firstFault_iff :
    (∀ e, ¬FirstFault fault stages e) ↔ ∀ stage ∈ stages, ∀ e, ¬fault stage e := by
  induction stages with
  | nil => simp [not_firstFault_nil]
  | cons stage stages ih =>
    rw [List.forall_mem_cons, ← ih]
    simp only [firstFault_cons, not_or, not_and]
    constructor
    · intro h
      have hstage : ∀ e, ¬fault stage e := fun e => (h e).1
      exact ⟨hstage, fun e => (h e).2 hstage⟩
    · rintro ⟨hstage, hrest⟩ e
      exact ⟨hstage e, fun _ => hrest e⟩

/-- One stage after another: the second is only made if the first has no fault. -/
theorem bind_eq_error_iff {α β : Type} {x : Except Error α} {f : α → Except Error β}
    (hx : ∀ e, x = .error e ↔ fault stage e)
    (hf : ∀ a e, f a = .error e ↔ FirstFault fault stages e) (e : Error) :
    (x >>= f) = .error e ↔ FirstFault fault (stage :: stages) e := by
  rw [firstFault_cons, ← hx]
  cases hresult : x with
  | error reason =>
    have hnot : ¬((∀ e', ¬fault stage e') ∧ FirstFault fault stages e) :=
      fun h => h.1 reason ((hx reason).mp hresult)
    show (Except.error reason : Except Error β) = .error e ↔ _
    rw [or_iff_left hnot]
    simp only [Except.error.injEq]
  | ok a =>
    have hnone : ∀ e', ¬fault stage e' := fun e' h => nomatch hresult.symm.trans ((hx e').mpr h)
    show f a = .error e ↔ _
    rw [hf]
    simp [hnone]

end FirstFault

/-! ## The stages of a load -/

/-- What is wrong at a stage of a load: with the nearest project file, with the global file if there
is one, or with a variable that is read and set to text. -/
inductive Fault (l : Loader) (files : Files) (env : Environment) (start : String) :
    Stage → Error → Prop
  | project {directory : String} {e : Error} (hfinds : Loader.Finds files start (some directory))
    (h : FileFault files (Path.join directory projectFile) e) : Fault l files env start .project e
  | global {path : String} {e : Error} (hpath : l.globalFile? env = some path)
    (hhas : files.has path = true) (h : FileFault files path e) : Fault l files env start .global e
  | abi {text : String} (hreads : l.readsEnvironment = true)
    (htext : env.get? "LIGATURE_ABI" = some text) (hbad : isAbiSpelling text = false) :
    Fault l files env start .abi (.misspelledAbi "LIGATURE_ABI" text)
  | onExpired {text : String} (hreads : l.readsEnvironment = true)
    (htext : env.get? "LIGATURE_ON_EXPIRED" = some text)
    (hbad : isPolicySpelling (Text.lowercase text) = false) :
    Fault l files env start .onExpired
      (.misspelledPolicy "LIGATURE_ON_EXPIRED" (Text.lowercase text))

theorem Fault.ne_notFound {l : Loader} {files : Files} {env : Environment} {start : String}
    {stage : Stage} {e : Error} (h : Fault l files env start stage e) (missing : String) :
    e ≠ .notFound missing := by
  cases h with
  | project _ h => exact h.ne_notFound missing
  | global _ _ h => exact h.ne_notFound missing
  | abi => exact nofun
  | onExpired => exact nofun

/-- What has to be right for a load to succeed. -/
structure Loadable (l : Loader) (files : Files) (env : Environment) (start : String) : Prop where
  project : ∀ directory, Loader.Finds files start (some directory) →
    HoldsSettings files (Path.join directory projectFile)
  global : ∀ path, l.globalFile? env = some path → files.has path = true → HoldsSettings files path
  abi : l.readsEnvironment = true → ∀ text, env.get? "LIGATURE_ABI" = some text →
    isAbiSpelling text = true
  onExpired : l.readsEnvironment = true → ∀ text, env.get? "LIGATURE_ON_EXPIRED" = some text →
    isPolicySpelling (Text.lowercase text) = true

namespace Loader

variable {l : Loader} {files : Files} {env : Environment} {start : String} {e : Error}

theorem findProject_eq_error :
    findProject files start = .error e ↔ Fault l files env start .project e := by
  unfold findProject
  cases hsearch : projectDirectory? files start with
  | none =>
    refine ⟨fun h => (nomatch h), fun h => ?_⟩
    cases h with
    | project hfinds _ => cases (finds_iff.mp hfinds).symm.trans hsearch
  | some directory =>
    have hfinds := finds_iff.mpr hsearch
    show (Settings.read files _ >>= fun s => .ok (some directory, s)) = .error e ↔ _
    rw [bind_ok_eq_error, Settings.read_eq_error hfinds.has]
    refine ⟨.project hfinds, fun h => ?_⟩
    cases h with
    | project hother h =>
      obtain rfl := Option.some.inj (hfinds.unique hother)
      exact h

theorem readGlobal_eq_error :
    (l.resolveGlobal env).readGlobal files = .error e ↔ Fault l files env start .global e := by
  unfold readGlobal
  cases hpath : (l.resolveGlobal env).globalPath with
  | none =>
    refine ⟨fun h => (nomatch h), fun h => ?_⟩
    cases h with
    | global hother _ _ => cases hpath.symm.trans hother
  | some path =>
    by_cases hhas : files.has path = true
    · simp only [if_pos hhas]
      rw [Settings.read_eq_error hhas]
      refine ⟨.global hpath hhas, fun h => ?_⟩
      cases h with
      | global hother _ h =>
        cases hpath.symm.trans hother
        exact h
    · simp only [if_neg hhas]
      refine ⟨fun h => (nomatch h), fun h => ?_⟩
      cases h with
      | global hother hhas' _ =>
        cases hpath.symm.trans hother
        exact absurd hhas' hhas

theorem override_eq_error {name : String} {put : String → Settings → Except Error Settings}
    {s : Settings} :
    override env name put s = .error e ↔
      ∃ text, env.get? name = some text ∧ put text s = .error e := by
  unfold override
  cases env.get? name <;> simp

theorem override_abi_eq_error {s : Settings} (hreads : l.readsEnvironment = true) :
    override env "LIGATURE_ABI" putAbi s = .error e ↔ Fault l files env start .abi e := by
  have hput : ∀ text, putAbi text s = .error e ↔ checkAbi "LIGATURE_ABI" text = .error e :=
    fun _ => bind_ok_eq_error
  simp only [override_eq_error, hput, checkAbi_eq_error]
  constructor
  · rintro ⟨text, htext, hbad, rfl⟩
    exact .abi hreads htext hbad
  · intro h
    cases h with
    | abi _ htext hbad => exact ⟨_, htext, hbad, rfl⟩

theorem override_onExpired_eq_error {s : Settings} (hreads : l.readsEnvironment = true) :
    override env "LIGATURE_ON_EXPIRED" putOnExpired s = .error e ↔
      Fault l files env start .onExpired e := by
  have hput : ∀ text, putOnExpired text s = .error e ↔
      checkPolicy "LIGATURE_ON_EXPIRED" (Text.lowercase text) = .error e :=
    fun _ => bind_ok_eq_error
  simp only [override_eq_error, hput, checkPolicy_eq_error]
  constructor
  · rintro ⟨text, htext, hbad, rfl⟩
    exact .onExpired hreads htext hbad
  · intro h
    cases h with
    | onExpired _ htext hbad => exact ⟨_, htext, hbad, rfl⟩

/-- A variable that may hold any text has no fault. -/
theorem exists_override (env : Environment) (name : String)
    {put : String → Settings → Except Error Settings} (hput : ∀ text s, ∃ s', put text s = .ok s')
    (s : Settings) : ∃ s', override env name put s = .ok s' := by
  unfold override
  cases env.get? name with
  | none => exact ⟨s, rfl⟩
  | some text => exact hput text s

theorem applyEnvironment_eq_error (hreads : l.readsEnvironment = true) (s : Settings) (e : Error) :
    applyEnvironment env s = .error e ↔
      FirstFault (Fault l files env start) [.abi, .onExpired] e := by
  obtain ⟨s₁, hcheckErrno⟩ : ∃ s₁, override env "LIGATURE_CHECK_ERRNO" putCheckErrno s = .ok s₁ :=
    exists_override env _ (fun _ _ => ⟨_, rfl⟩) s
  obtain ⟨s₂, hreleaseLock⟩ : ∃ s₂,
      override env "LIGATURE_RELEASE_LOCK" putReleaseLock s₁ = .ok s₂ :=
    exists_override env _ (fun _ _ => ⟨_, rfl⟩) s₁
  unfold applyEnvironment
  rw [hcheckErrno]
  show (override env "LIGATURE_RELEASE_LOCK" putReleaseLock s₁ >>= fun _ => _) = _ ↔ _
  rw [hreleaseLock]
  refine bind_eq_error_iff (fun e => override_abi_eq_error hreads) (fun s₃ e => ?_) e
  rw [firstFault_singleton]
  exact override_onExpired_eq_error hreads

/-- An environment that is ignored has no fault. -/
theorem not_firstFault_of_ignored (hreads : ¬l.readsEnvironment = true) (e : Error) :
    ¬FirstFault (Fault l files env start) [.abi, .onExpired] e := by
  refine not_firstFault_iff.mpr (fun stage hstage e hfault => ?_) e
  cases hfault with
  | abi h => exact hreads h
  | onExpired h => exact hreads h
  | project => simp at hstage
  | global => simp at hstage

theorem merge_eq_error (root : Option String) (project : Settings) (e : Error) :
    (l.resolveGlobal env).merge files env root project = .error e ↔
      FirstFault (Fault l files env start) [.global, .abi, .onExpired] e := by
  unfold merge
  refine bind_eq_error_iff (fun e => readGlobal_eq_error) (fun global e => ?_) e
  simp only [readsEnvironment_resolveGlobal]
  by_cases hreads : l.readsEnvironment = true
  · rw [if_pos hreads]
    exact bind_ok_eq_error.trans (applyEnvironment_eq_error hreads project e)
  · rw [if_neg hreads]
    exact ⟨fun h => (nomatch h), fun h => absurd h (not_firstFault_of_ignored hreads e)⟩

theorem loadDirectory_eq_error (l : Loader) (files : Files) (env : Environment) (start : String)
    (e : Error) :
    (l.loadDirectory files env start).1 = .error e ↔
      FirstFault (Fault l files env start) Stage.inOrder e := by
  have hstages : (l.loadDirectory files env start).1 = findProject files start >>= fun found =>
      (l.resolveGlobal env).merge files env found.1 found.2 := by
    unfold loadDirectory finish
    cases findProject files start <;> rfl
  rw [hstages]
  exact bind_eq_error_iff (fun e => findProject_eq_error)
    (fun found e => merge_eq_error found.1 found.2 e) e

theorem loadable_iff : Loadable l files env start ↔
    ∀ stage ∈ Stage.inOrder, ∀ e, ¬Fault l files env start stage e := by
  constructor
  · rintro ⟨hproject, hglobal, habi, honExpired⟩ stage - e hfault
    cases hfault with
    | project hfinds h => exact holdsSettings_iff.mp (hproject _ hfinds) e h
    | global hpath hhas h => exact holdsSettings_iff.mp (hglobal _ hpath hhas) e h
    | abi hreads htext hbad => cases (habi hreads _ htext).symm.trans hbad
    | onExpired hreads htext hbad => cases (honExpired hreads _ htext).symm.trans hbad
  · intro hnone
    constructor
    · intro directory hfinds
      exact holdsSettings_iff.mpr fun e h => hnone .project (by decide) e (.project hfinds h)
    · intro path hpath hhas
      exact holdsSettings_iff.mpr fun e h => hnone .global (by decide) e (.global hpath hhas h)
    · intro hreads text htext
      by_contra hbad
      exact hnone .abi (by decide) _ (.abi hreads htext (Bool.eq_false_iff.mpr hbad))
    · intro hreads text htext
      by_contra hbad
      exact hnone .onExpired (by decide) _ (.onExpired hreads htext (Bool.eq_false_iff.mpr hbad))

/-- A load succeeds exactly if the nearest project file and the global file hold settings, where
there are such files, and the variables that are read are spelled right; no layer makes good what is
wrong in another.  Otherwise its error is the one of the first stage with a fault. -/
theorem load_fails_at_first_fault (l : Loader) (files : Files) (env : Environment)
    (start : String) :
    ((∃ m, (l.loadDirectory files env start).1 = .ok m) ↔ Loadable l files env start) ∧
    (∀ e, (l.loadDirectory files env start).1 = .error e ↔
      FirstFault (Fault l files env start) Stage.inOrder e) ∧
    ∀ missing, (l.loadDirectory files env start).1 ≠ .error (.notFound missing) := by
  have hfails := loadDirectory_eq_error l files env start
  refine ⟨?_, hfails, fun missing h => ?_⟩
  · rw [loadable_iff, ← not_firstFault_iff]
    simp only [← hfails]
    cases (l.loadDirectory files env start).1 <;> simp
  · obtain ⟨_, stage, _, _, hfault, _⟩ := (hfails _).mp h
    exact hfault.ne_notFound missing rfl

/-- A good project file, and a global file that is no text. -/
def faultyFiles : Files where
  root := .directory [
    ("h", .directory [(".ligature", .directory [("config.toml", .file [0xff])])]),
    ("p", .directory [("ligature.toml", .file "[call]\nabi='2'".toUTF8.toList)])]
  workingPlace := []

/-- Both words are wrong. -/
def faultyVariables : Environment where
  bindings := [("HOME", "/h".toUTF8.toList), ("LIGATURE_ABI", "pascal".toUTF8.toList),
    ("LIGATURE_ON_EXPIRED", "Explode".toUTF8.toList)]
  accountHome := none

/-- The global file is told before the variables are looked at, and of these the calling convention
before the policy. -/
theorem load_fails_at_first_fault_order :
    FirstFault (Fault .new faultyFiles faultyVariables "/p") Stage.inOrder
        (.unreadable .notUnicode) ∧
      FirstFault (Fault (withGlobalPath "/none") faultyFiles faultyVariables "/p") Stage.inOrder
        (.misspelledAbi "LIGATURE_ABI" "pascal") ∧
      Loadable (withGlobalPath "/none").withoutEnvironment faultyFiles faultyVariables "/p" := by
  obtain ⟨-, hglobal, -⟩ := load_fails_at_first_fault .new faultyFiles faultyVariables "/p"
  obtain ⟨-, habi, -⟩ :=
    load_fails_at_first_fault (withGlobalPath "/none") faultyFiles faultyVariables "/p"
  obtain ⟨hloads, -, -⟩ := load_fails_at_first_fault (withGlobalPath "/none").withoutEnvironment
    faultyFiles faultyVariables "/p"
  refine ⟨(hglobal _).mp (by decide +kernel), (habi _).mp (by decide +kernel), hloads.mp ?_⟩
  exact ⟨⟨⟨some ⟨none, none, some "2"⟩, none, none⟩, .empty, some "/p"⟩, by decide +kernel⟩

end Loader

end Config

end CallBridge
