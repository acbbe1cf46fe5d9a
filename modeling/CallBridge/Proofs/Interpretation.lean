/-
What a configuration means to the engine.

Texts are checked where they are read, and interpreted where they are used.  A value that passes
the check has a meaning, and the effective value is always one that was checked, so
`configuration_interprets` says that what loads can be interpreted, and what becomes of settings
that nobody has checked.
-/
import CallBridge.Defaults
import CallBridge.Proofs.Precedence

namespace CallBridge

/-! ## Spellings -/

/-- The convention that a text stands for. -/
def Abi.SpelledBy (text : String) : Abi → Prop
  | .default => text = "default"
  | .raw n => text ≠ "default" ∧ decimal? UInt32.size text = some n

/-- The policy that a text stands for. -/
def ExpiryPolicy.SpelledBy (text : String) : ExpiryPolicy → Prop
  | .abort => text = "abort"
  | .ignore => text = "ignore"

theorem Abi.ofName_of_spelling {text : String} (h : Config.isAbiSpelling text = true) :
    ∃ abi, Abi.ofName text = .ok abi ∧ abi.SpelledBy text := by
  unfold Abi.ofName Abi.ofName?
  by_cases hdefault : text = "default"
  · rw [if_pos hdefault]
    exact ⟨.default, rfl, hdefault⟩
  · rw [if_neg hdefault]
    cases hnumber : decimal? UInt32.size text with
    | none => simp [Config.isAbiSpelling, hdefault, hnumber] at h
    | some n => exact ⟨.raw n, rfl, hdefault, hnumber⟩

theorem Abi.ofName_of_misspelling {text : String} (h : Config.isAbiSpelling text = false) :
    Abi.ofName text = .error .badAbi := by
  have hboth : text ≠ "default" ∧ decimal? UInt32.size text = none := by
    simpa [Config.isAbiSpelling] using h
  simp [Abi.ofName, Abi.ofName?, hboth.1, hboth.2]

theorem ExpiryPolicy.ofName_of_spelling {text : String} (h : Config.isPolicySpelling text = true) :
    ∃ policy, ExpiryPolicy.ofName text = .ok policy ∧ policy.SpelledBy text := by
  have heither : text = "abort" ∨ text = "ignore" := by simpa [Config.isPolicySpelling] using h
  rcases heither with rfl | rfl
  · exact ⟨.abort, rfl, rfl⟩
  · exact ⟨.ignore, rfl, rfl⟩

/-- The error of a policy that is none. -/
def ExpiryPolicy.misspelled (text : String) : Error :=
  .config (.invalidValue "callbacks.on_expired" s!"must be 'abort' or 'ignore', got '{text}'")

theorem ExpiryPolicy.ofName_of_misspelling {text : String}
    (h : Config.isPolicySpelling text = false) :
    ExpiryPolicy.ofName text = .error (misspelled text) := by
  have hneither : text ≠ "abort" ∧ text ≠ "ignore" := by simpa [Config.isPolicySpelling] using h
  have hnone : ofName? text = none := by
    unfold ofName?
    split
    · exact absurd rfl hneither.1
    · exact absurd rfl hneither.2
    · rfl
  rw [ofName, hnone, misspelled]

/-! ## Checked settings -/

namespace Config

/-- Every text in the settings that has to be a spelling is one. -/
structure Settings.Valid (s : Settings) : Prop where
  abi : ∀ text, s.abi = some text → isAbiSpelling text = true
  onExpired : ∀ text, s.onExpired = some text → isPolicySpelling text = true

theorem Settings.validate_eq_ok {s : Settings} : s.validate = .ok () ↔ s.Valid := by
  constructor
  · intro h
    obtain ⟨_, habi, hpolicy⟩ := bind_eq_ok h
    constructor
    · intro text htext
      rw [htext] at habi
      exact checkAbi_eq_ok.mp habi
    · intro text htext
      rw [htext] at hpolicy
      exact checkPolicy_eq_ok.mp hpolicy
  · intro h
    have habi : s.abi.forM (checkAbi "call.abi") = .ok () := by
      cases htext : s.abi with
      | none => rfl
      | some text => exact checkAbi_eq_ok.mpr (h.abi text htext)
    have hpolicy : s.onExpired.forM (checkPolicy "callbacks.on_expired") = .ok () := by
      cases htext : s.onExpired with
      | none => rfl
      | some text => exact checkPolicy_eq_ok.mpr (h.onExpired text htext)
    show (s.abi.forM (checkAbi "call.abi") >>= fun _ => _) = _
    rw [habi]
    exact hpolicy

theorem Settings.validate_of_abi {s : Settings} {spelling : String} {e : Error}
    (habi : s.abi = some spelling) (hcheck : checkAbi "call.abi" spelling = .error e) :
    s.validate = .error e := by
  unfold Settings.validate
  rw [habi]
  show (checkAbi "call.abi" spelling >>= fun _ => _) = _
  rw [hcheck]
  rfl

theorem Settings.validate_of_onExpired {s : Settings} {spelling : String} {e : Error}
    (habi : ∀ spelling, s.abi = some spelling → isAbiSpelling spelling = true)
    (hpolicy : s.onExpired = some spelling)
    (hcheck : checkPolicy "callbacks.on_expired" spelling = .error e) :
    s.validate = .error e := by
  have hfirst : s.abi.forM (checkAbi "call.abi") = .ok () := by
    cases h : s.abi with
    | none => rfl
    | some spelling => exact checkAbi_eq_ok.mpr (habi spelling h)
  unfold Settings.validate
  show (s.abi.forM (checkAbi "call.abi") >>= fun _ => _) = _
  rw [hfirst, hpolicy]
  exact hcheck

theorem Settings.valid_empty : Settings.empty.Valid where
  abi := fun _ h => nomatch h
  onExpired := fun _ h => nomatch h

theorem Settings.valid_of_parse {file text : String} {s : Settings}
    (h : Settings.parse file text = .ok s) : s.Valid := by
  unfold Settings.parse at h
  split at h
  · cases h
  · obtain ⟨_, hvalid, h⟩ := bind_eq_ok h
    cases h
    exact validate_eq_ok.mp hvalid

theorem Settings.valid_of_read {files : Files} {path : String} {s : Settings}
    (h : Settings.read files path = .ok s) : s.Valid := by
  unfold Settings.read at h
  split at h
  · exact valid_of_parse h
  · split at h <;> cases h

theorem ProjectLayer.valid {files : Files} {start : Start} {root : Option String} {s : Settings}
    (h : ProjectLayer files start root s) : s.Valid := by
  cases h with
  | given h => exact Settings.valid_of_read h
  | found _ h => exact Settings.valid_of_read h
  | missing _ => exact Settings.valid_empty

theorem GlobalLayer.valid {files : Files} {path : Option String} {s : Settings}
    (h : GlobalLayer files path s) : s.Valid := by
  cases h with
  | read _ h => exact Settings.valid_of_read h
  | missing _ => exact Settings.valid_empty
  | unknown => exact Settings.valid_empty

/-- The environment puts in only what it has checked. -/
theorem Environment.Overrides.valid {env : Environment} {s s' : Settings} (h : env.Overrides s s')
    (hs : s.Valid) : s'.Valid := by
  constructor
  · intro text htext
    rw [h.abi] at htext
    rcases Option.or_eq_some_iff.mp htext with hgiven | ⟨-, hkept⟩
    · exact h.abi_valid text hgiven
    · exact hs.abi text hkept
  · intro text htext
    rw [h.onExpired] at htext
    rcases Option.or_eq_some_iff.mp htext with hgiven | ⟨-, hkept⟩
    · obtain ⟨given, hvariable, rfl⟩ := Option.map_eq_some_iff.mp hgiven
      exact h.policy_valid given hvariable
    · exact hs.onExpired text hkept

theorem Layered.valid {l : Loader} {files : Files} {env : Environment} {start : Start}
    {root : Option String} {project global : Settings} {m : Merged}
    (h : Layered l files env start root project global m) : m.project.Valid ∧ m.global.Valid := by
  have hproject := h.projectLayer.valid
  have hoverrides := h.overrides
  constructor
  · by_cases hreads : l.readsEnvironment = true
    · rw [if_pos hreads] at hoverrides
      exact hoverrides.valid hproject
    · rw [if_neg hreads] at hoverrides
      rwa [hoverrides]
  · rw [h.global_eq]
    exact h.globalLayer.valid

/-- The effective texts come from a layer that was checked, or are built in. -/
theorem Merged.spellings {m : Merged} (hproject : m.project.Valid) (hglobal : m.global.Valid) :
    isAbiSpelling m.abi = true ∧ isPolicySpelling m.onExpired = true := by
  constructor
  · rw [m.abi_eq]
    cases hown : m.project.abi with
    | some text => exact hproject.abi text hown
    | none =>
      cases hother : m.global.abi with
      | some text => exact hglobal.abi text hother
      | none => rfl
  · rw [m.onExpired_eq]
    cases hown : m.project.onExpired with
    | some text => exact hproject.onExpired text hown
    | none =>
      cases hother : m.global.onExpired with
      | some text => exact hglobal.onExpired text hother
      | none => rfl

end Config

/-! ## Interpretation -/

namespace EngineDefaults

open Config (Merged Loader Environment isAbiSpelling isPolicySpelling)

/-- The defaults say what the effective settings say. -/
structure Interprets (m : Merged) (d : EngineDefaults) : Prop where
  context : d.context = ⟨m.checkErrno, m.releaseLock⟩
  abi : d.abi.SpelledBy m.abi
  expiry : d.expiry.SpelledBy m.onExpired
  searchPaths : d.searchPaths = m.searchPaths

theorem ofMerged_of_spellings {m : Merged} (habi : isAbiSpelling m.abi = true)
    (hpolicy : isPolicySpelling m.onExpired = true) : ∃ d, ofMerged m = .ok d ∧ d.Interprets m := by
  obtain ⟨abi, hname, habi⟩ := Abi.ofName_of_spelling habi
  obtain ⟨expiry, hpolicyName, hexpiry⟩ := ExpiryPolicy.ofName_of_spelling hpolicy
  refine ⟨⟨⟨m.checkErrno, m.releaseLock⟩, abi, expiry, m.searchPaths⟩, ?_, rfl, habi, hexpiry, rfl⟩
  rw [ofMerged, hname, hpolicyName]
  rfl

theorem ofMerged_of_bad_abi {m : Merged} (h : isAbiSpelling m.abi = false) :
    ofMerged m = .error .badAbi := by
  rw [ofMerged, Abi.ofName_of_misspelling h]
  rfl

theorem ofMerged_of_bad_policy {m : Merged} (habi : isAbiSpelling m.abi = true)
    (hpolicy : isPolicySpelling m.onExpired = false) :
    ofMerged m = .error (ExpiryPolicy.misspelled m.onExpired) := by
  obtain ⟨abi, hname, -⟩ := Abi.ofName_of_spelling habi
  rw [ofMerged, hname, ExpiryPolicy.ofName_of_misspelling hpolicy]
  rfl

/-- Which settings have no meaning, and which of two faults is told. -/
theorem ofMerged_eq_error {m : Merged} {e : Error} :
    ofMerged m = .error e ↔
      (isAbiSpelling m.abi = false ∧ e = .badAbi) ∨
      (isAbiSpelling m.abi = true ∧ isPolicySpelling m.onExpired = false ∧
        e = ExpiryPolicy.misspelled m.onExpired) := by
  by_cases habi : isAbiSpelling m.abi = true
  · by_cases hpolicy : isPolicySpelling m.onExpired = true
    · obtain ⟨d, hd, -⟩ := ofMerged_of_spellings habi hpolicy
      simp [hd, habi, hpolicy]
    · rw [Bool.not_eq_true] at hpolicy
      rw [ofMerged_of_bad_policy habi hpolicy]
      constructor
      · rintro ⟨⟩
        exact Or.inr ⟨habi, hpolicy, rfl⟩
      · rintro (⟨hnot, -⟩ | ⟨-, -, rfl⟩)
        · cases habi.symm.trans hnot
        · rfl
  · rw [Bool.not_eq_true] at habi
    rw [ofMerged_of_bad_abi habi]
    constructor
    · rintro ⟨⟩
      exact Or.inl ⟨habi, rfl⟩
    · rintro (⟨-, rfl⟩ | ⟨hnot, -⟩)
      · rfl
      · cases habi.symm.trans hnot

theorem ofMerged_of_load {l : Loader} {files : Files} {env : Environment} {start : Config.Start}
    {m : Merged} (h : (l.load files env start).1 = .ok m) :
    m.project.Valid ∧ m.global.Valid ∧ ∃ d, ofMerged m = .ok d ∧ d.Interprets m := by
  obtain ⟨root, project, global, hlayered⟩ := Loader.load_eq_ok h
  obtain ⟨hproject, hglobal⟩ := hlayered.valid
  obtain ⟨habi, hpolicy⟩ := Merged.spellings hproject hglobal
  exact ⟨hproject, hglobal, ofMerged_of_spellings habi hpolicy⟩

/-- Defaults are found unless the load fails, and then it is the load's failure that is told. -/
theorem discover_eq_error {l : Loader} {files : Files} {env : Environment} {start : String}
    {e : Error} :
    (discover l files env start).1 = .error e ↔
      ∃ reason, (l.loadDirectory files env start).1 = .error reason ∧ e = .config reason := by
  unfold discover
  cases hload : l.loadDirectory files env start with
  | mk outcome loader =>
    cases outcome with
    | error reason => simp [eq_comm]
    | ok m =>
      have hok : (l.load files env (.directory start)).1 = .ok m := congrArg Prod.fst hload
      obtain ⟨-, -, d, hd, -⟩ := ofMerged_of_load hok
      simp [hd]

/-- What loads passes the check in both layers and has a meaning, so that looking for defaults
fails only where loading does.  Settings that nobody checked have a meaning unless an effective
text is misspelled, whatever a layer beneath it says. -/
theorem configuration_interprets :
    (∀ (l : Loader) files env start m, (l.loadDirectory files env start).1 = .ok m →
      m.project.validate = .ok () ∧ m.global.validate = .ok () ∧
        ∃ d, ofMerged m = .ok d ∧ d.Interprets m) ∧
    (∀ (l : Loader) files env start e, (discover l files env start).1 = .error e ↔
      ∃ reason, (l.loadDirectory files env start).1 = .error reason ∧ e = .config reason) ∧
    ∀ m e, ofMerged m = .error e ↔
      (isAbiSpelling m.abi = false ∧ e = .badAbi) ∨
      (isAbiSpelling m.abi = true ∧ isPolicySpelling m.onExpired = false ∧
        e = ExpiryPolicy.misspelled m.onExpired) := by
  refine ⟨fun l files env start m h => ?_, fun _ _ _ _ _ => discover_eq_error,
    fun _ _ => ofMerged_eq_error⟩
  have hload : (l.load files env (.directory start)).1 = .ok m := h
  obtain ⟨hproject, hglobal, hmeaning⟩ := ofMerged_of_load hload
  exact ⟨Config.Settings.validate_eq_ok.mpr hproject, Config.Settings.validate_eq_ok.mpr hglobal,
    hmeaning⟩

/-- A bad policy in front of the built-in one, and a bad convention behind a good one. -/
def unchecked : Merged where
  project := ⟨some ⟨none, none, some "2"⟩, some ⟨some "explode"⟩, none⟩
  global := ⟨some ⟨none, none, some "pascal"⟩, none, none⟩
  projectRoot := none

theorem configuration_interprets_layers :
    (∃ d, (Loader.new.loadDirectory Config.layeredFiles Config.layeredVariables "/p").1 =
        .ok Config.layered ∧
      Config.layered.project.validate = .ok () ∧ Config.layered.global.validate = .ok () ∧
      ofMerged Config.layered = .ok d ∧ d.Interprets Config.layered) ∧
    ofMerged unchecked = .error (ExpiryPolicy.misspelled "explode") := by
  obtain ⟨hloads, -, hfails⟩ := configuration_interprets
  obtain ⟨hproject, hglobal, d, hd, hmeaning⟩ := hloads _ _ _ _ _ Config.load_layered
  refine ⟨⟨d, Config.load_layered, hproject, hglobal, hd, hmeaning⟩, (hfails _ _).mpr ?_⟩
  exact Or.inr ⟨by decide +kernel, by decide +kernel, rfl⟩

end EngineDefaults

end CallBridge
