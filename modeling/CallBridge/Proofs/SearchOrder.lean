/-
Where a library is looked for.

Directories come from four places, and each of them is asked for both file names before the next.
`library_search_order` says which path a short name leads to, from a configuration through all that
is asked of the loader since, and that this path alone decides what a call finds.
-/
import CallBridge.Proofs.Interpretation
import CallBridge.Proofs.OpenLibraries

namespace CallBridge

namespace SymbolLoader

/-! ## The first path there is -/

/-- What a directory has for a name: the file with `lib` in front of it or, failing that, the one
without. -/
inductive Offers (files : Files) (name directory : String) : String → Prop
  | prefixed (hhas : files.has (Path.join directory ("lib" ++ name ++ ".so")) = true) :
    Offers files name directory (Path.join directory ("lib" ++ name ++ ".so"))
  | bare (hnone : files.has (Path.join directory ("lib" ++ name ++ ".so")) = false)
    (hhas : files.has (Path.join directory (name ++ ".so")) = true) :
    Offers files name directory (Path.join directory (name ++ ".so"))

/-- A directory has neither of the two files. -/
def Lacks (files : Files) (name directory : String) : Prop :=
  files.has (Path.join directory ("lib" ++ name ++ ".so")) = false ∧
    files.has (Path.join directory (name ++ ".so")) = false

/-- The path comes from the first directory that does not lack both files. -/
inductive FirstHit (files : Files) (name : String) (directories : List String) (path : String) :
    Prop
  | at {before after : List String} {directory : String}
    (hsplit : directories = before ++ directory :: after)
    (hbefore : ∀ d ∈ before, Lacks files name d) (hoffers : Offers files name directory path)

variable {files : Files} {name path directory : String}

/-- The two paths that are tried in a directory. -/
def tried (name directory : String) : List String :=
  [Path.join directory ("lib" ++ name ++ ".so"), Path.join directory (name ++ ".so")]

theorem find?_tried_eq_some :
    (tried name directory).find? files.has = some path ↔ Offers files name directory path := by
  constructor
  · intro h
    rw [tried, List.find?_cons] at h
    split at h
    · rename_i hprefixed
      cases h
      exact .prefixed hprefixed
    · rename_i hprefixed
      rw [List.find?_singleton] at h
      split at h
      · rename_i hbare
        cases h
        exact .bare hprefixed hbare
      · cases h
  · rintro (hprefixed | ⟨hnone, hbare⟩)
    · simp [tried, hprefixed]
    · simp [tried, hnone, hbare]

theorem find?_tried_eq_none :
    (tried name directory).find? files.has = none ↔ Lacks files name directory := by
  simp [tried, Lacks]

theorem search_eq_none {directories : List String} :
    (directories.flatMap (tried name)).find? files.has = none ↔
      ∀ directory ∈ directories, Lacks files name directory := by
  simp only [← find?_tried_eq_none, List.find?_eq_none, List.mem_flatMap]
  constructor
  · exact fun h directory hdirectory path hpath => h path ⟨directory, hdirectory, hpath⟩
  · exact fun h path ⟨directory, hdirectory, hpath⟩ => h directory hdirectory path hpath

theorem search_eq_some {directories : List String} :
    (directories.flatMap (tried name)).find? files.has = some path ↔
      FirstHit files name directories path := by
  constructor
  · intro h
    induction directories with
    | nil => cases h
    | cons directory directories ih =>
      rw [List.flatMap_cons, List.find?_append] at h
      cases hhere : (tried name directory).find? files.has with
      | some here =>
        rw [hhere] at h
        cases h
        exact .at (List.nil_append _).symm (fun _ hd => nomatch hd) (find?_tried_eq_some.mp hhere)
      | none =>
        rw [hhere] at h
        obtain ⟨rfl, hbefore, hoffers⟩ := ih h
        have hlacks := List.forall_mem_cons.mpr ⟨find?_tried_eq_none.mp hhere, hbefore⟩
        exact .at rfl hlacks hoffers
  · rintro ⟨rfl, hbefore, hoffers⟩
    rw [List.flatMap_append, List.flatMap_cons, List.find?_append, List.find?_append,
      search_eq_none.mpr hbefore, find?_tried_eq_some.mpr hoffers]
    rfl

theorem FirstHit.unique {directories : List String} {path' : String}
    (h : FirstHit files name directories path) (h' : FirstHit files name directories path') :
    path = path' :=
  Option.some.inj ((search_eq_some.mpr h).symm.trans (search_eq_some.mpr h'))

theorem resolve?_of_short (l : SymbolLoader) (hname : Path.isAbsolute name = false) :
    l.resolve? files name = (l.searchPaths.flatMap (tried name)).find? files.has := by
  rw [resolve?, hname]
  rfl

theorem resolve?_of_absolute (l : SymbolLoader) (hname : Path.isAbsolute name = true) :
    l.resolve? files name = some path ↔ path = name ∧ files.has name = true := by
  rw [resolve?, hname, if_pos rfl]
  split
  · rename_i hhas
    simp [hhas, eq_comm]
  · rename_i hhas
    simp [hhas]

/-! ## What the first hit decides -/

theorem openLibrary?_of_slash {machine : Machine} (h : '/' ∈ path.toList) {library : Library} :
    openLibrary? machine path = some library ↔
      machine.files.find? path = some (.library library) := by
  unfold openLibrary?
  rw [if_pos (List.contains_iff_mem.mpr h)]
  split
  · rename_i l hfile
    simp [hfile]
  · rename_i hother
    simpa using fun hfile => hother library hfile

theorem openLibrary?_of_bare {machine : Machine} (h : '/' ∉ path.toList) :
    openLibrary? machine path = machine.systemLibraries.lookup path := by
  unfold openLibrary?
  rw [if_neg (mt List.contains_iff_mem.mp h)]

/-- A directory is not opened.  Under a mere file name it is not even looked at, and what the linker
has of that name may be opened. -/
theorem openLibrary?_of_directory {machine : Machine} {entries : List (String × Node)}
    (h : machine.files.find? path = some (.directory entries)) :
    openLibrary? machine path = none ↔
      '/' ∈ path.toList ∨ machine.systemLibraries.lookup path = none := by
  by_cases hslash : '/' ∈ path.toList
  · refine iff_of_true (Option.eq_none_iff_forall_ne_some.mpr fun library hopen => ?_) (.inl hslash)
    cases h.symm.trans ((openLibrary?_of_slash hslash).mp hopen)
  · rw [openLibrary?_of_bare hslash]
    simp [hslash]

/-- How names are resolved at a site whose loader searches these directories, and what is made of
the path that is found. -/
structure Searches (directories : List String) (s : Site) : Prop where
  resolves : ∀ name path, Path.isAbsolute name = false →
    (s.loader.resolve? s.machine.files name = some path ↔
      FirstHit s.machine.files name directories path)
  libraryNotFound : ∀ name, Path.isAbsolute name = false →
    (s.found name = .error (.libraryNotFound name) ↔
      ∀ directory ∈ directories, Lacks s.machine.files name directory)
  loadFailed : ∀ name, Path.isAbsolute name = false →
    (s.found name = .error (.loadFailed name) ↔
      ∃ path, FirstHit s.machine.files name directories path ∧ s.Refuses path)
  found : ∀ name library, Path.isAbsolute name = false →
    (s.found name = .ok library ↔
      ∃ path, FirstHit s.machine.files name directories path ∧ s.Has path library)
  /-- A directory of that name is a hit like any other.  It fails to load, unless it was found as a
  mere file name and the linker has a library of that name. -/
  directory : ∀ name path entries, Path.isAbsolute name = false →
    FirstHit s.machine.files name directories path →
    s.machine.files.find? path = some (.directory entries) → s.loader.cached? path = none →
    (s.found name = .error (.loadFailed name) ↔
      '/' ∈ path.toList ∨ s.machine.systemLibraries.lookup path = none)
  absolute : ∀ name path, Path.isAbsolute name = true →
    (s.loader.resolve? s.machine.files name = some path ↔
      path = name ∧ s.machine.files.has name = true)

theorem Site.searches (s : Site) : Searches s.loader.searchPaths s := by
  have hresolves : ∀ name path, Path.isAbsolute name = false →
      (s.loader.resolve? s.machine.files name = some path ↔
        FirstHit s.machine.files name s.loader.searchPaths path) := fun name path hname => by
    rw [resolve?_of_short s.loader hname, search_eq_some]
  have hloadFailed : ∀ name, Path.isAbsolute name = false →
      (s.found name = .error (.loadFailed name) ↔
        ∃ path, FirstHit s.machine.files name s.loader.searchPaths path ∧ s.Refuses path) :=
    fun name hname => by simp only [found_eq_loadFailed, hresolves name _ hname]
  refine ⟨hresolves, fun name hname => ?_, hloadFailed, fun name library hname => ?_,
    fun name path entries hname hhit hdirectory hnone => ?_, fun name path hname => ?_⟩
  · rw [found_eq_libraryNotFound, resolve?_of_short s.loader hname, search_eq_none]
  · simp only [found_eq_ok, hresolves name _ hname]
  · rw [hloadFailed name hname, ← openLibrary?_of_directory hdirectory]
    constructor
    · rintro ⟨other, hother, -, hrefused⟩
      rwa [hhit.unique hother]
    · exact fun hrefused => ⟨path, hhit, hnone, hrefused⟩
  · exact resolve?_of_absolute s.loader hname

/-! ## From a configuration -/

/-- The search paths that were added, in order. -/
def added : List Event → List String
  | [] => []
  | .addSearchPath path :: events => path :: added events
  | _ :: events => added events

theorem Outlook.searchPaths_after (o : Outlook) (events : List Event) :
    (o.after events).searchPaths = (added events).reverse ++ o.searchPaths := by
  induction events generalizing o with
  | nil => rfl
  | cons event events ih =>
    show ((o.step event).after events).searchPaths = _
    rw [ih]
    cases event with
    | addSearchPath path =>
      show _ ++ path :: o.searchPaths = (path :: added events).reverse ++ o.searchPaths
      rw [List.reverse_cons, List.append_assoc, List.singleton_append]
    | _ => rfl

/-- The directories in the order in which they are searched: those that were added, the latest
first, those of the project, as its root sees them, those of the global file, the working directory,
and the platform's own. -/
def searchOrder (m : Config.Merged) (workingDirectory : String) (added : List String) :
    List String :=
  added.reverse ++ m.project.searchPaths.map (Config.seenFrom m.projectRoot) ++
    m.global.searchPaths ++ [workingDirectory] ++ platformDirectories

end SymbolLoader

namespace EngineDefaults

open SymbolLoader

theorem searchPaths_of_ofMerged {m : Config.Merged} {d : EngineDefaults} (h : ofMerged m = .ok d) :
    d.searchPaths = m.searchPaths := by
  obtain ⟨abi, -, h⟩ := bind_eq_ok h
  obtain ⟨expiry, -, h⟩ := bind_eq_ok h
  cases h
  rfl

/-- The loader that a configuration gives, after anything that was asked of it and done to the
machine. -/
theorem library_search_order {m : Config.Merged} {d : EngineDefaults} (h : ofMerged m = .ok d)
    (workingDirectory : String) (machine : Machine) (events : List Event) :
    Searches (searchOrder m workingDirectory (added events))
      (Site.after ⟨machine, d.symbolLoader workingDirectory⟩ events) := by
  have hpaths : (Site.after ⟨machine, d.symbolLoader workingDirectory⟩ events).loader.searchPaths =
      searchOrder m workingDirectory (added events) := by
    have houtlook := congrArg Outlook.searchPaths
      (Site.outlook_after ⟨machine, d.symbolLoader workingDirectory⟩ events)
    rw [Outlook.searchPaths_after] at houtlook
    refine houtlook.trans ?_
    show _ ++ (d.searchPaths ++ workingDirectory :: platformDirectories) = _
    rw [searchPaths_of_ofMerged h, m.searchPaths_eq]
    simp [searchOrder]
  rw [← hpaths]
  exact Site.searches _

/-- A directory of the library's name under the project's root, and a library in `/w`. -/
def directoryFirst : Files where
  root := .directory [
    ("p", .directory [("lib", .directory [("libx.so", .directory [])])]),
    ("w", .directory [("x.so", answering 1)])]
  workingPlace := ["w"]

/-- The directory ends the search before the working directory, which is asked first once it is
added. -/
theorem library_search_order_directory :
    ∃ d, ofMerged Config.layered = .ok d ∧
      FirstHit directoryFirst "x" (searchOrder Config.layered "/w" []) "/p/lib/libx.so" ∧
      (Site.after ⟨directoryFirst, d.symbolLoader "/w"⟩ []).found "x" = .error (.loadFailed "x") ∧
      (Site.after ⟨directoryFirst, d.symbolLoader "/w"⟩
        [.load "x", .addSearchPath "/w"]).found "x" = .ok ⟨[("id", 1)]⟩ := by
  have hd : ofMerged Config.layered = .ok ⟨⟨false, false⟩, .raw 2, .abort, ["/p/lib"]⟩ := by
    decide +kernel
  have hbefore := library_search_order hd "/w" directoryFirst []
  have hafter := library_search_order hd "/w" directoryFirst [.load "x", .addSearchPath "/w"]
  have hhit : FirstHit directoryFirst "x" (searchOrder Config.layered "/w" []) "/p/lib/libx.so" :=
    (hbefore.resolves "x" _ (by decide)).mp (by decide +kernel)
  refine ⟨_, hd, hhit, ?_, ?_⟩
  · exact (hbefore.directory "x" _ [] (by decide) hhit rfl rfl).mpr (.inl (by decide))
  · refine (hafter.found "x" _ (by decide)).mpr ⟨"/w/x.so", ?_, Or.inr ?_⟩
    · exact (hafter.resolves "x" _ (by decide)).mp (by decide +kernel)
    · decide +kernel

end EngineDefaults

end CallBridge
