/-
What is open, over a whole run of a loader of libraries.

Names are resolved afresh each time, and files come and go, as does what the linker has of its own,
but what was opened at a path stays.  The log of a run knows nothing of what is open: it has the
paths that calls led to, each with what could be opened there at that moment.  `first_opening_lasts`
says that a call is answered by the first that could be opened at its path, and what each failure
leaves behind.
-/
import Mathlib.Data.Finset.Dedup
import Mathlib.Data.Finset.Card
import CallBridge.Proofs.PathComponents
import CallBridge.Symbols

namespace CallBridge

namespace SymbolLoader

/-! ## Runs -/

/-- A loader on its machine. -/
structure Site where
  machine : Machine
  loader : SymbolLoader

/-- The machine changes in any way, and the loader is asked for something. -/
inductive Event where
  | change (machine : Machine)
  | addSearchPath (path : String)
  | load (library : String)
  | function (library symbol : String)

/-- The library that is asked for. -/
def Event.library? : Event → Option String
  | load library => some library
  | function library _ => some library
  | _ => none

/-- What a name is resolved by. -/
structure Outlook where
  machine : Machine
  searchPaths : List String

/-- A path that a call led to, and what could be opened there at that moment. -/
structure Attempt where
  path : String
  library? : Option Library

namespace Outlook

def path? (o : Outlook) (name : String) : Option String :=
  (SymbolLoader.mk [] o.searchPaths).resolve? o.machine.files name

def attempt? (o : Outlook) (name : String) : Option Attempt :=
  (o.path? name).map fun path => ⟨path, openLibrary? o.machine path⟩

def step (o : Outlook) : Event → Outlook
  | .change machine => { o with machine }
  | .addSearchPath path => { o with searchPaths := path :: o.searchPaths }
  | _ => o

def after (o : Outlook) (events : List Event) : Outlook := events.foldl step o

/-- The log of a run: what its calls led to, in order. -/
def attempts : Outlook → List Event → List Attempt
  | _, [] => []
  | o, event :: events => (event.library?.bind o.attempt?).toList ++ (o.step event).attempts events

end Outlook

namespace Site

def outlook (s : Site) : Outlook := ⟨s.machine, s.loader.searchPaths⟩

def step (s : Site) : Event → Site
  | .change machine => { s with machine }
  | .addSearchPath path => { s with loader := s.loader.addSearchPath path }
  | .load library => { s with loader := (s.loader.load s.machine library).2 }
  | .function library _ => { s with loader := (s.loader.load s.machine library).2 }

def after (s : Site) (events : List Event) : Site := events.foldl step s

/-- What a call finds to look a symbol up in. -/
def found (s : Site) (library : String) : Except LoadError Library :=
  (s.loader.load s.machine library).1.map Prod.fst

/-- What a call for a symbol is answered. -/
def answer (s : Site) (library name : String) : Except LoadError Int :=
  (s.found library).bind (symbol library name)

end Site

/-- What could be opened first at a path, by a log. -/
def first? (log : List Attempt) (path : String) : Option Library :=
  log.findSome? fun a => if Path.same a.path path then a.library? else none

/-- The paths, as they are compared, at which something could be opened. -/
def openedPaths (log : List Attempt) : Finset (List Char × List (List Char)) :=
  ((log.filter fun a => a.library?.isSome).map fun a => Path.components a.path).toFinset

/-! ## One call -/

/-- All that a call can find and leave behind. -/
inductive Loads (l : SymbolLoader) (machine : Machine) (name : String) :
    Except LoadError Library → SymbolLoader → Prop
  | missing (hpath : l.resolve? machine.files name = none) :
    Loads l machine name (.error (.libraryNotFound name)) l
  | cached {path : String} {library : Library} (hpath : l.resolve? machine.files name = some path)
    (hcached : l.cached? path = some library) : Loads l machine name (.ok library) l
  | refused {path : String} (hpath : l.resolve? machine.files name = some path)
    (hnone : l.cached? path = none) (hopen : openLibrary? machine path = none) :
    Loads l machine name (.error (.loadFailed name)) l
  | opened {path : String} {library : Library} (hpath : l.resolve? machine.files name = some path)
    (hnone : l.cached? path = none) (hopen : openLibrary? machine path = some library) :
    Loads l machine name (.ok library) { l with opened := l.opened ++ [(path, library)] }

section Load

variable (l : SymbolLoader) (machine : Machine) (name : String)

theorem loads_load :
    Loads l machine name ((l.load machine name).1.map Prod.fst) (l.load machine name).2 := by
  unfold load
  cases hpath : l.resolve? machine.files name with
  | none => exact .missing hpath
  | some path =>
    cases hcached : l.cached? path with
    | some library =>
      simp only [hcached]
      exact .cached hpath hcached
    | none =>
      cases hopen : openLibrary? machine path with
      | none =>
        simp only [hcached, hopen]
        exact .refused hpath hcached hopen
      | some library =>
        simp only [hcached, hopen]
        exact .opened hpath hcached hopen

variable {σ : Type} [Journal σ]

/-- Whatever keeps the log records, a load returns. -/
theorem loadLogged_apply (t : Thread σ) :
    ∃ t', l.loadLogged machine name t =
      (.ok ((l.load machine name).1.map Prod.fst, (l.load machine name).2), t') := by
  unfold loadLogged
  rcases l.load machine name with ⟨e | ⟨library, path?⟩, l'⟩
  · exact ⟨_, rfl⟩
  · cases path? <;> exact ⟨_, rfl⟩

theorem function_apply (library : String) (t : Thread σ) :
    ∃ t', l.function machine library name t =
      (.ok (((l.load machine library).1.map Prod.fst).bind (symbol library name),
        (l.load machine library).2), t') := by
  obtain ⟨t', h⟩ := loadLogged_apply l machine library t
  exact ⟨t', Run.bind_of_ok h⟩

end Load

namespace Loads

variable {l l' : SymbolLoader} {machine : Machine} {name : String}
  {outcome : Except LoadError Library}

theorem searchPaths (h : Loads l machine name outcome l') : l'.searchPaths = l.searchPaths := by
  cases h <;> rfl

theorem opened_kept (h : Loads l machine name outcome l') : l.opened <+: l'.opened := by
  cases h with
  | opened => exact List.prefix_append _ _
  | _ => exact List.prefix_rfl

/-- A call that fails to find a library leaves nothing behind. -/
theorem unchanged {e : LoadError} (h : Loads l machine name (.error e) l') : l' = l := by
  cases h <;> rfl

end Loads

namespace Site

variable {s : Site} {name path : String} {library : Library}

/-- A path is open already, or it can be opened, as this library. -/
def Has (s : Site) (path : String) (library : Library) : Prop :=
  s.loader.cached? path = some library ∨
    s.loader.cached? path = none ∧ openLibrary? s.machine path = some library

/-- A path is not open and cannot be opened. -/
def Refuses (s : Site) (path : String) : Prop :=
  s.loader.cached? path = none ∧ openLibrary? s.machine path = none

theorem loads (s : Site) (name : String) :
    Loads s.loader s.machine name (s.found name) (s.step (.load name)).loader :=
  loads_load s.loader s.machine name

theorem found_eq_libraryNotFound :
    s.found name = .error (.libraryNotFound name) ↔
      s.loader.resolve? s.machine.files name = none := by
  have hloads := s.loads name
  generalize s.found name = outcome, (s.step (.load name)).loader = left at hloads ⊢
  cases hloads with
  | missing hpath => simp [hpath]
  | cached hpath => simp [hpath]
  | refused hpath => simp [hpath]
  | opened hpath => simp [hpath]

theorem found_eq_loadFailed :
    s.found name = .error (.loadFailed name) ↔
      ∃ path, s.loader.resolve? s.machine.files name = some path ∧ s.Refuses path := by
  have hloads := s.loads name
  generalize s.found name = outcome, (s.step (.load name)).loader = left at hloads ⊢
  cases hloads with
  | missing hpath => simp [hpath]
  | cached hpath hcached => simp [hpath, Refuses, hcached]
  | refused hpath hnone hopen => simp [hpath, Refuses, hnone, hopen]
  | opened hpath hnone hopen => simp [hpath, Refuses, hopen]

theorem found_eq_ok :
    s.found name = .ok library ↔
      ∃ path, s.loader.resolve? s.machine.files name = some path ∧ s.Has path library := by
  have hloads := s.loads name
  generalize s.found name = outcome, (s.step (.load name)).loader = left at hloads ⊢
  cases hloads with
  | missing hpath => simp [hpath]
  | cached hpath hcached => simp [hpath, Has, hcached]
  | refused hpath hnone hopen => simp [hpath, Has, hnone, hopen]
  | opened hpath hnone hopen => simp [hpath, Has, hnone, hopen]

end Site

/-! ## Logs -/

theorem first?_append (log log' : List Attempt) (path : String) :
    first? (log ++ log') path = (first? log path).or (first? log' path) :=
  List.findSome?_append

theorem first?_congr (log : List Attempt) {p q : String}
    (h : Path.components p = Path.components q) : first? log p = first? log q := by
  simp only [first?, Path.same_congr h]

theorem first?_isSome {log : List Attempt} {path : String} :
    (first? log path).isSome ↔ Path.components path ∈ openedPaths log := by
  simp only [first?, List.findSome?_isSome_iff, openedPaths, List.mem_toFinset, List.mem_map,
    List.mem_filter]
  constructor
  · rintro ⟨a, ha, hsome⟩
    split at hsome
    · rename_i hsame
      exact ⟨a, ⟨ha, hsome⟩, Path.same_iff.mp hsame⟩
    · cases hsome
  · rintro ⟨a, ⟨ha, hsome⟩, hsame⟩
    exact ⟨a, ha, by rwa [if_pos (Path.same_iff.mpr hsame)]⟩

/-- The paths that are open, as they are compared. -/
def keys (l : SymbolLoader) : List (List Char × List (List Char)) :=
  l.opened.map fun o => Path.components o.1

theorem cached?_isSome {l : SymbolLoader} {path : String} :
    (l.cached? path).isSome ↔ Path.components path ∈ l.keys := by
  simp only [cached?, Option.isSome_map, List.find?_isSome, keys, List.mem_map, Path.same_iff]

/-- A loader has open, at each path, what could be opened there first, and nothing twice. -/
structure Keeps (log : List Attempt) (l : SymbolLoader) : Prop where
  cached : ∀ path, l.cached? path = first? log path
  distinct : l.keys.Nodup

theorem cached?_concat (l : SymbolLoader) (p : String) (library : Library) (path : String) :
    ({ l with opened := l.opened ++ [(p, library)] } : SymbolLoader).cached? path =
      (l.cached? path).or (first? [⟨p, some library⟩] path) := by
  simp only [cached?, List.find?_append, Option.map_or]
  congr 1
  by_cases hsame : Path.same p path <;> simp [first?, hsame]

/-- An attempt that cannot be opened, or that comes after one that could, is not told by the log. -/
theorem first?_concat_of {log : List Attempt} {a : Attempt}
    (h : a.library? = none ∨ (first? log a.path).isSome) (path : String) :
    first? (log ++ [a]) path = first? log path := by
  rw [first?_append]
  by_cases hsame : Path.same a.path path = true
  · rcases h with hnone | hsome
    · simp [first?, hnone]
    · rw [first?_congr log (Path.same_iff.mp hsame)] at hsome
      obtain ⟨library, hlibrary⟩ := Option.isSome_iff_exists.mp hsome
      rw [hlibrary]
      rfl
  · simp [first?, hsame]

theorem Keeps.loads {log : List Attempt} {l l' : SymbolLoader} {machine : Machine} {name : String}
    {outcome : Except LoadError Library} (h : Keeps log l)
    (hloads : Loads l machine name outcome l') :
    Keeps (log ++ (Outlook.attempt? ⟨machine, l.searchPaths⟩ name).toList) l' := by
  have hattempt : Outlook.attempt? ⟨machine, l.searchPaths⟩ name =
      (l.resolve? machine.files name).map fun path => ⟨path, openLibrary? machine path⟩ := rfl
  rw [hattempt]
  cases hloads with
  | missing hpath => simpa [hpath] using h
  | cached hpath hcached =>
    have hfirst := (h.cached _).symm.trans hcached
    refine ⟨fun q => ?_, h.distinct⟩
    rw [hpath, h.cached q]
    exact (first?_concat_of (Or.inr (by rw [hfirst]; rfl)) q).symm
  | refused hpath hnone hopen =>
    refine ⟨fun q => ?_, h.distinct⟩
    rw [hpath, h.cached q]
    exact (first?_concat_of (Or.inl hopen) q).symm
  | @opened path library hpath hnone hopen =>
    refine ⟨fun q => ?_, ?_⟩
    · rw [hpath, cached?_concat, h.cached q, Option.map_some, hopen]
      exact (first?_append log _ q).symm
    · have hnew : Path.components path ∉ l.keys := by
        rw [← cached?_isSome, hnone]
        exact Bool.false_ne_true
      show ((l.opened ++ [(path, library)]).map _).Nodup
      rw [List.map_append, List.map_singleton, ← List.concat_eq_append]
      exact h.distinct.concat hnew

theorem Keeps.keys_toFinset {log : List Attempt} {l : SymbolLoader} (h : Keeps log l) :
    l.keys.toFinset = openedPaths log := by
  ext key
  rw [List.mem_toFinset]
  constructor
  · intro hkey
    obtain ⟨o, -, rfl⟩ := List.mem_map.mp hkey
    rwa [← first?_isSome, ← h.cached, cached?_isSome]
  · intro hkey
    obtain ⟨a, -, rfl⟩ := List.mem_map.mp (List.mem_toFinset.mp hkey)
    rwa [← cached?_isSome, h.cached, first?_isSome]

theorem Keeps.loadedCount {log : List Attempt} {l : SymbolLoader} (h : Keeps log l) :
    l.loadedCount = (openedPaths log).card := by
  rw [← h.keys_toFinset, List.toFinset_card_of_nodup h.distinct, keys, List.length_map]
  rfl

/-! ## Growth -/

theorem cached?_of_prefix {l l' : SymbolLoader} (h : l.opened <+: l'.opened) {path : String}
    {library : Library} (hcached : l.cached? path = some library) :
    l'.cached? path = some library := by
  obtain ⟨rest, hrest⟩ := h
  obtain ⟨o, ho, rfl⟩ := Option.map_eq_some_iff.mp hcached
  rw [cached?, ← hrest, List.find?_append, ho]
  rfl

theorem cached?_congr (l : SymbolLoader) {p q : String}
    (h : Path.components p = Path.components q) : l.cached? p = l.cached? q := by
  simp only [cached?, Path.same_congr h]

namespace Site

variable {s : Site} {log : List Attempt}

theorem outlook_step (s : Site) (event : Event) :
    (s.step event).outlook = s.outlook.step event := by
  have hload : ∀ library, (s.step (.load library)).outlook = s.outlook := fun library =>
    congrArg (Outlook.mk s.machine) (s.loads library).searchPaths
  cases event with
  | change machine => rfl
  | addSearchPath path => rfl
  | load library => exact hload library
  | function library symbol => exact hload library

theorem outlook_after (s : Site) (events : List Event) :
    (s.after events).outlook = s.outlook.after events := by
  induction events generalizing s with
  | nil => rfl
  | cons event events ih =>
    show ((s.step event).after events).outlook = _
    rw [ih, outlook_step]
    rfl

theorem opened_after (s : Site) (events : List Event) :
    s.loader.opened <+: (s.after events).loader.opened := by
  induction events generalizing s with
  | nil => exact List.prefix_rfl
  | cons event events ih =>
    refine List.IsPrefix.trans ?_ (ih (s.step event))
    cases event with
    | change machine => exact List.prefix_rfl
    | addSearchPath path => exact List.prefix_rfl
    | load library => exact (s.loads library).opened_kept
    | function library symbol => exact (s.loads library).opened_kept

theorem keeps_step (h : Keeps log s.loader) (event : Event) :
    Keeps (log ++ (event.library?.bind s.outlook.attempt?).toList) (s.step event).loader := by
  cases event with
  | change machine => exact (List.append_nil log).symm ▸ h
  | addSearchPath path => exact (List.append_nil log).symm ▸ ⟨h.cached, h.distinct⟩
  | load library => exact h.loads (s.loads library)
  | function library symbol => exact h.loads (s.loads library)

theorem keeps_after (h : Keeps log s.loader) (events : List Event) :
    Keeps (log ++ s.outlook.attempts events) (s.after events).loader := by
  induction events generalizing s log with
  | nil => exact (List.append_nil log).symm ▸ h
  | cons event events ih =>
    have hrest := ih (keeps_step h event)
    rwa [outlook_step, List.append_assoc] at hrest

end Site

/-! ## Answers -/

/-- What a call finds where the log is of the calls before it: what was opened first at its path or,
failing that, what can be opened there now. -/
inductive Found (log : List Attempt) (o : Outlook) (name : String) : Except LoadError Library → Prop
  | missing (hpath : o.path? name = none) : Found log o name (.error (.libraryNotFound name))
  | loaded {path : String} {library : Library} (hpath : o.path? name = some path)
    (hfirst : first? log path = some library) : Found log o name (.ok library)
  | opened {path : String} {library : Library} (hpath : o.path? name = some path)
    (hnone : first? log path = none) (hopen : openLibrary? o.machine path = some library) :
    Found log o name (.ok library)
  | refused {path : String} (hpath : o.path? name = some path) (hnone : first? log path = none)
    (hopen : openLibrary? o.machine path = none) : Found log o name (.error (.loadFailed name))

theorem Keeps.found {log : List Attempt} {l l' : SymbolLoader} {machine : Machine} {name : String}
    {outcome : Except LoadError Library} (h : Keeps log l)
    (hloads : Loads l machine name outcome l') :
    Found log ⟨machine, l.searchPaths⟩ name outcome := by
  cases hloads with
  | missing hpath => exact .missing hpath
  | cached hpath hcached => exact .loaded hpath ((h.cached _).symm.trans hcached)
  | refused hpath hnone hopen => exact .refused hpath ((h.cached _).symm.trans hnone) hopen
  | opened hpath hnone hopen => exact .opened hpath ((h.cached _).symm.trans hnone) hopen

/-- What a call found is open at the path that it led to. -/
theorem Loads.cached? {l l' : SymbolLoader} {machine : Machine} {name : String} {library : Library}
    (h : Loads l machine name (.ok library) l') :
    ∃ path, l.resolve? machine.files name = some path ∧ l'.cached? path = some library := by
  cases h with
  | cached hpath hcached => exact ⟨_, hpath, hcached⟩
  | @opened path _ hpath hnone hopen =>
    refine ⟨path, hpath, ?_⟩
    rw [cached?_concat, hnone]
    simp [first?, Path.same]

/-- Only a library that was found can lack a symbol. -/
theorem Loads.error_ne {l l' : SymbolLoader} {machine : Machine} {name : String} {e : LoadError}
    (h : Loads l machine name (.error e) l') (library symbol : String) :
    e ≠ .symbolNotFound library symbol := by
  cases h <;> simp

/-- An answer fails for want of the library, or for want of the symbol in it. -/
theorem Site.answer_eq_error {s : Site} {library name : String} {e : LoadError}
    (h : s.answer library name = .error e) :
    s.found library = .error e ∨
      ∃ found, s.found library = .ok found ∧ e = .symbolNotFound library name := by
  unfold answer at h
  cases hfound : s.found library with
  | error e' =>
    rw [hfound] at h
    cases h
    exact Or.inl rfl
  | ok found =>
    rw [hfound] at h
    refine Or.inr ⟨found, rfl, ?_⟩
    change symbol library name found = _ at h
    unfold symbol at h
    split at h
    · cases h
    · exact (Except.error.inj h).symm

/-- What the log tells of a loader at its site, where `o` is what names are resolved by at that
moment. -/
structure Lasting (log : List Attempt) (o : Outlook) (s : Site) : Prop where
  outlook : s.outlook = o
  /-- At each path that is open stays what could be opened there first. -/
  cached : ∀ path, s.loader.cached? path = first? log path
  count : s.loader.loadedCount = (openedPaths log).card
  grows : ∀ later, s.loader.opened <+: (s.after later).loader.opened
  found : ∀ library, Found log o library (s.found library)
  /-- The calls themselves, wherever their log records are kept. -/
  returns : ∀ (σ : Type) [Journal σ] (t : Thread σ) (library name : String),
    (∃ t', s.loader.loadLogged s.machine library t =
      (.ok (s.found library, (s.step (.load library)).loader), t')) ∧
    ∃ t', s.loader.function s.machine library name t =
      (.ok (s.answer library name, (s.step (.function library name)).loader), t')
  loadFailed : ∀ library e, s.found library = .error e → s.step (.load library) = s
  functionFailed : ∀ library name e, s.answer library name = .error e →
    e ≠ .symbolNotFound library name → s.step (.function library name) = s
  symbolNotFound : ∀ library name, s.answer library name = .error (.symbolNotFound library name) →
    ∃ path found, o.path? library = some path ∧ s.found library = .ok found ∧
      (s.step (.function library name)).loader.cached? path = some found
  /-- Whatever happens, what was found at a path is found by every name that leads there. -/
  lasts : ∀ library path found, o.path? library = some path → s.found library = .ok found →
    ∀ later library' path', ((s.step (.load library)).after later).outlook.path? library' =
      some path' → Path.same path path' →
    ((s.step (.load library)).after later).found library' = .ok found ∧
      ∀ name, ((s.step (.load library)).after later).answer library' name =
        symbol library' name found

theorem Keeps.lasting {log : List Attempt} {s : Site} (h : Keeps log s.loader) :
    Lasting log s.outlook s := by
  have hfailed : ∀ library e, s.found library = .error e → s.step (.load library) = s := by
    intro library e he
    have hunchanged := (he ▸ s.loads library).unchanged
    exact congrArg (Site.mk s.machine) hunchanged
  refine ⟨rfl, h.cached, h.loadedCount, fun later => s.opened_after later,
    fun library => h.found (s.loads library), fun σ _ t library name => ⟨?_, ?_⟩, hfailed,
    ?_, ?_, ?_⟩
  · exact loadLogged_apply s.loader s.machine library t
  · exact function_apply s.loader s.machine name library t
  · intro library name e he hne
    rcases Site.answer_eq_error he with hfound | ⟨_, _, rfl⟩
    · exact hfailed library e hfound
    · exact absurd rfl hne
  · intro library name he
    rcases Site.answer_eq_error he with hfound | ⟨found, hfound, -⟩
    · exact absurd rfl ((hfound ▸ s.loads library).error_ne library name)
    · obtain ⟨path, hpath, hcached⟩ := (hfound ▸ s.loads library).cached?
      exact ⟨path, found, hpath, hfound, hcached⟩
  · intro library path found hpath hfound later library' path' hpath' hsame
    obtain ⟨path'', hpath'', hcached⟩ := (hfound ▸ s.loads library).cached?
    obtain rfl := Option.some.inj (hpath''.symm.trans hpath)
    have hlater := cached?_of_prefix ((s.step (.load library)).opened_after later) hcached
    rw [cached?_congr _ (Path.same_iff.mp hsame)] at hlater
    have hfound' := Site.found_eq_ok.mpr ⟨path', hpath', Or.inl hlater⟩
    refine ⟨hfound', fun name => ?_⟩
    rw [Site.answer, hfound']
    rfl

/-- A loader that has not opened anything yet. -/
def Outlook.start (o : Outlook) : Site := ⟨o.machine, ⟨[], o.searchPaths⟩⟩

/-- At every moment of every run.  The log has nothing but what the machine and the search paths of
each moment say, and tells all answers. -/
theorem first_opening_lasts (o : Outlook) (events : List Event) :
    Lasting (o.attempts events) (o.after events) (o.start.after events) := by
  have hstart : Keeps [] o.start.loader := ⟨fun _ => rfl, List.nodup_nil⟩
  have hlasting := (Site.keeps_after hstart events).lasting
  rwa [List.nil_append, Site.outlook_after] at hlasting

/-- A directory of the root with one file for a library `x`. -/
def filesWith (directory : String) (file : Node) : Files where
  root := .directory [(directory, .directory [("libx.so", file)])]
  workingPlace := []

def answering (value : Int) : Node := .library ⟨[("id", value)]⟩

/-- Junk in the only directory that is searched. -/
def junkAlone : Outlook := ⟨filesWith "l" (.file []), ["/l"]⟩

/-- Junk is refused, a library in its place is opened and stays when it is replaced, and another
directory that comes first has a library of its own. -/
def replacing : List Event :=
  [.load "x", .change (filesWith "l" (answering 1)), .load "x",
    .change (filesWith "l" (answering 2)), .function "x" "none", .addSearchPath "/m",
    .change (filesWith "m" (answering 3)), .function "x" "id", .change (filesWith "l" (.file []))]

/-- The log of that run has two paths, and the answer is the one of the library that is gone. -/
theorem first_opening_lasts_replacing :
    (junkAlone.start.after replacing).loader.loadedCount = 2 ∧
      first? (junkAlone.attempts replacing) "/l/libx.so" = some ⟨[("id", 1)]⟩ ∧
      (junkAlone.start.after replacing).found "x" = .ok ⟨[("id", 1)]⟩ ∧
      (junkAlone.start.after replacing).answer "x" "id" = .ok 1 ∧
      junkAlone.start.found "x" = .error (.loadFailed "x") := by
  have hlasting := first_opening_lasts junkAlone replacing
  have hfirst : first? (junkAlone.attempts replacing) "/l/libx.so" = some ⟨[("id", 1)]⟩ := by
    decide +kernel
  have hpath : (junkAlone.start.after replacing).outlook.path? "x" = some "/l/libx.so" := by
    decide +kernel
  have hcached := (hlasting.cached _).trans hfirst
  have hfound := Site.found_eq_ok.mpr ⟨_, hpath, Or.inl hcached⟩
  refine ⟨?_, hfirst, hfound, ?_, by decide +kernel⟩
  · rw [hlasting.count]
    decide +kernel
  · rw [Site.answer, hfound]
    decide +kernel

end SymbolLoader

end CallBridge
