/-
Which file a name opens.

A path that names are resolved to is looked at from the working directory, and so is one that is
opened, unless it has no separator: then the linker looks for a library of that name on its own, and
not in the working directory.  By `resolved_file_opened` that is the only case in which another file
than the one that was found answers, or none, and it takes an empty search path.

A name that is an absolute path is the file at that path.  A relative path is a short name like any
other, and by `opened_by_path_iff_absolute` the file at it is never what it leads to.
-/
import CallBridge.Proofs.Discovery
import CallBridge.Proofs.SearchOrder

namespace CallBridge

namespace Path

/-! ## Last segments -/

def lastSegment (cs : List Char) : List Char := (segments cs).getLast (segments_ne_nil cs)

theorem lastSegment_of_not_mem {cs : List Char} (h : '/' ∉ cs) : lastSegment cs = cs := by
  simp only [lastSegment, segments_of_not_mem h, List.getLast_singleton]

theorem lastSegment_append (xs ys : List Char) :
    lastSegment (xs ++ '/' :: ys) = lastSegment ys := by
  simp only [lastSegment, segments_append]
  exact List.getLast_append_of_ne_nil _ (segments_ne_nil ys)

/-- What stands before the last separator plays no part in the last segment. -/
theorem lastSegment_cases (cs : List Char) :
    ('/' ∉ cs ∧ lastSegment cs = cs) ∨
      ∃ xs, cs = xs ++ '/' :: lastSegment cs ∧ '/' ∉ lastSegment cs := by
  by_cases h : '/' ∈ cs
  · obtain ⟨last, before, hreverse, hlast⟩ := List.eq_append_cons_of_mem (List.mem_reverse.mpr h)
    have hcs : cs = before.reverse ++ '/' :: last.reverse := by
      rw [← List.reverse_reverse cs, hreverse]
      simp
    have hplain : '/' ∉ last.reverse := by simpa using hlast
    have hsegment : lastSegment cs = last.reverse := by
      rw [hcs, lastSegment_append, lastSegment_of_not_mem hplain]
    exact Or.inr ⟨before.reverse, by rw [hsegment]; exact hcs, by rw [hsegment]; exact hplain⟩
  · exact Or.inl ⟨h, lastSegment_of_not_mem h⟩

theorem length_le_of_isIdle {s : List Char} (h : isIdle s = true) : s.length ≤ 1 := by
  have hs : s = [] ∨ s = ['.'] := by simpa [isIdle] using h
  rcases hs with rfl | rfl <;> simp

/-- What is put around a path without a separator stays in the last segment, or before it. -/
theorem lastSegment_extended {lead tail : List Char} (hlead : '/' ∉ lead) (htail : '/' ∉ tail)
    (cs : List Char) :
    ∃ front, lastSegment (lead ++ cs ++ tail) = front ++ lastSegment cs ++ tail := by
  rcases lastSegment_cases cs with ⟨hplain, hlast⟩ | ⟨xs, hcs, hplain⟩
  · have hall : '/' ∉ lead ++ cs ++ tail := by simp [hlead, hplain, htail]
    exact ⟨lead, by rw [lastSegment_of_not_mem hall, hlast]⟩
  · have hrest : '/' ∉ lastSegment cs ++ tail := by simp [hplain, htail]
    have hsplit : lead ++ cs ++ tail = (lead ++ xs) ++ '/' :: (lastSegment cs ++ tail) := by
      rw [hcs, lastSegment_append, lastSegment_of_not_mem hplain]
      simp
    exact ⟨[], by rw [hsplit, lastSegment_append, lastSegment_of_not_mem hrest]; rfl⟩

theorem lastSegment_join (base : String) {path : String} (hpath : isAbsolute path = false) :
    lastSegment (join base path).toList = lastSegment path.toList := by
  rcases join_chars base hpath with ⟨-, hjoin⟩ | ⟨init, -, hjoin⟩ | ⟨-, hjoin⟩
  · rw [hjoin]
  · rw [hjoin, lastSegment_append]
  · rw [hjoin, lastSegment_append]

/-- Joining leaves no separator only where there is nothing to join to. -/
theorem slash_mem_join (base : String) {path : String} (hpath : isAbsolute path = false) :
    '/' ∈ (join base path).toList ↔ base ≠ "" ∨ '/' ∈ path.toList := by
  rcases join_chars base hpath with ⟨hbase, hjoin⟩ | ⟨init, hbase, hjoin⟩ | ⟨hbase, hjoin⟩
  · rw [hjoin]
    simp [hbase]
  · have hne : base ≠ "" := by
      rintro rfl
      simp at hbase
    simp [hjoin, hne]
  · simp [hjoin, hbase]

end Path

namespace Files

/-! ## Where a last segment leads -/

variable {f : Files} {root : Node} {place result : List String}

theorem follow_append (root : Node) (place xs ys : List String) :
    follow root place (xs ++ ys) = follow root place xs >>= fun q => follow root q ys := by
  induction xs generalizing place with
  | nil => rfl
  | cons x xs ih =>
    rw [List.cons_append, follow, follow]
    cases root.at? place with
    | none => rfl
    | some n =>
      cases n with
      | directory entries =>
        simp only
        split
        · exact ih place
        · split
          · exact ih place.dropLast
          · split
            · rfl
            · split
              · exact ih (place ++ [x])
              · rfl
      | _ => rfl

/-- The last segment stays where it is, goes up, or goes down by its own name. -/
theorem follow_concat_eq_ok {xs : List String} {x : String}
    (h : follow root place (xs ++ [x]) = .ok result) :
    ∃ q entries, root.at? q = some (.directory entries) ∧
      ((x = "" ∨ x = ".") ∧ result = q ∨ x = ".." ∧ result = q.dropLast ∨
        ¬(x = "" ∨ x = ".") ∧ x ≠ ".." ∧ result = q ++ [x]) := by
  rw [follow_append] at h
  obtain ⟨q, -, hlast⟩ := bind_eq_ok h
  rw [follow] at hlast
  cases hat : root.at? q with
  | none => simp [hat] at hlast
  | some n =>
    cases n with
    | directory entries =>
      refine ⟨q, entries, hat, ?_⟩
      simp only [hat] at hlast
      split at hlast
      · rename_i hidle
        exact Or.inl ⟨by simpa using hidle, (Except.ok.inj hlast).symm⟩
      · rename_i hidle
        split at hlast
        · rename_i hup
          exact Or.inr (Or.inl ⟨hup, (Except.ok.inj hlast).symm⟩)
        · rename_i hup
          split at hlast
          · cases hlast
          · split at hlast
            · exact Or.inr (Or.inr ⟨by simpa using hidle, hup, (Except.ok.inj hlast).symm⟩)
            · cases hlast
    | _ => simp [hat] at hlast

theorem locate_last {path : String} (h : f.locate path = .ok place) :
    ∃ q entries, f.root.at? q = some (.directory entries) ∧
      (Path.isIdle (Path.lastSegment path.toList) = true ∧ place = q ∨
        Path.lastSegment path.toList = ['.', '.'] ∧ place = q.dropLast ∨
        Path.isIdle (Path.lastSegment path.toList) = false ∧
          place = q ++ [String.ofList (Path.lastSegment path.toList)]) := by
  obtain ⟨-, -, -, hfollow⟩ := locate_eq_ok.mp h
  have hsegments : (Path.segments path.toList).dropLast ++ [Path.lastSegment path.toList] =
      Path.segments path.toList := List.dropLast_concat_getLast _
  rw [← hsegments, List.map_append, List.map_singleton] at hfollow
  obtain ⟨q, entries, hat, ⟨hidle, hq⟩ | ⟨hup, hq⟩ | ⟨hname, -, hq⟩⟩ := follow_concat_eq_ok hfollow
  · exact ⟨q, entries, hat, Or.inl ⟨(isIdle_iff _).mpr hidle, hq⟩⟩
  · exact ⟨q, entries, hat, Or.inr (Or.inl ⟨String.ofList_inj.mp hup, hq⟩)⟩
  · have hnot := Bool.eq_false_iff.mpr (mt (isIdle_iff _).mp hname)
    exact ⟨q, entries, hat, Or.inr (Or.inr ⟨hnot, hq⟩)⟩

/-- A library stands under the last segment of every path to it. -/
theorem place_of_library {path : String} {library : Library}
    (h : f.find? path = some (.library library)) :
    ∃ q, f.locate path = .ok (q ++ [String.ofList (Path.lastSegment path.toList)]) := by
  unfold find? at h
  cases hlocate : f.locate path with
  | error e => simp [hlocate] at h
  | ok place =>
    simp only [hlocate] at h
    obtain ⟨q, entries, hat, ⟨-, rfl⟩ | ⟨-, rfl⟩ | ⟨-, rfl⟩⟩ := locate_last hlocate
    · rw [hat] at h
      cases h
    · -- above a directory there are directories
      rcases List.eq_nil_or_concat q with rfl | ⟨above, x, rfl⟩
      · rw [List.dropLast_nil, hat] at h
        cases h
      · rw [List.concat_eq_append] at hat h
        obtain ⟨held, habove⟩ := Node.directory_of_below (List.cons_ne_nil x []) (by rw [hat]; rfl)
        rw [List.dropLast_concat, habove] at h
        cases h
    · exact ⟨q, rfl⟩

end Files

namespace SymbolLoader

/-! ## The file that was found -/

variable {l : SymbolLoader} {machine : Machine} {files : Files} {name path directory : String}
  {library : Library}

/-- A call for the name opens the library at the path and is answered by it. -/
structure Opens (l : SymbolLoader) (machine : Machine) (name path : String) (library : Library) :
    Prop where
  load : l.load machine name =
    (.ok (library, some path), { l with opened := l.opened ++ [(path, library)] })
  function : ∀ (σ : Type) [Journal σ] (t : Thread σ) (function : String),
    ∃ t', l.function machine name function t = (.ok (symbol name function library,
      { l with opened := l.opened ++ [(path, library)] }), t')

/-- A call for the name fails to open what was found. -/
structure Shut (l : SymbolLoader) (machine : Machine) (name : String) : Prop where
  load : l.load machine name = (.error (.loadFailed name), l)
  function : ∀ (σ : Type) [Journal σ] (t : Thread σ) (function : String),
    ∃ t', l.function machine name function t = (.ok (.error (.loadFailed name), l), t')

/-- A call for a function is answered by what was loaded. -/
theorem function_of_load {outcome : Except LoadError (Library × Option String)}
    {l' : SymbolLoader} (hload : l.load machine name = (outcome, l')) {σ : Type} [Journal σ]
    (t : Thread σ) (function : String) :
    ∃ t', l.function machine name function t =
      (.ok ((outcome.map Prod.fst).bind (symbol name function), l'), t') := by
  obtain ⟨t', h⟩ := function_apply l machine function name t
  rw [hload] at h
  exact ⟨t', h⟩

theorem opens_iff (hpath : l.resolve? machine.files name = some path)
    (hnew : l.cached? path = none) :
    Opens l machine name path library ↔ openLibrary? machine path = some library := by
  constructor
  · intro hopens
    have hload := hopens.load
    simp only [load, hpath, hnew] at hload
    split at hload
    · cases hload
    · rename_i opened hopen
      cases hload
      exact hopen
  · intro hopen
    have hload : l.load machine name =
        (.ok (library, some path), { l with opened := l.opened ++ [(path, library)] }) := by
      simp only [load, hpath, hnew, hopen]
    exact ⟨hload, fun σ _ t function => function_of_load hload t function⟩

theorem shut_iff (hpath : l.resolve? machine.files name = some path)
    (hnew : l.cached? path = none) :
    Shut l machine name ↔ openLibrary? machine path = none := by
  constructor
  · intro hshut
    have hload := hshut.load
    simp only [load, hpath, hnew] at hload
    split at hload
    · assumption
    · cases hload
  · intro hopen
    have hload : l.load machine name = (.error (.loadFailed name), l) := by
      simp only [load, hpath, hnew, hopen]
    exact ⟨hload, fun σ _ t function => function_of_load hload t function⟩

theorem slash_mem_of_absolute (h : Path.isAbsolute path = true) : '/' ∈ path.toList :=
  List.mem_of_head? (beq_iff_eq.mp h)

/-- What a directory offers is one of the two file names, joined to it. -/
theorem Offers.eq_join (h : Offers files name directory path)
    (hname : Path.isAbsolute name = false) :
    ∃ lead, (lead = "lib" ∨ lead = "") ∧ path = Path.join directory (lead ++ name ++ ".so") ∧
      Path.isAbsolute (lead ++ name ++ ".so") = false := by
  cases h with
  | prefixed hhas => exact ⟨"lib", Or.inl rfl, rfl, by simp [Path.isAbsolute]⟩
  | bare hnone hhas =>
    refine ⟨"", Or.inr rfl, by rw [String.empty_append], ?_⟩
    unfold Path.isAbsolute at hname ⊢
    rw [String.empty_append, String.toList_append, List.head?_append]
    cases hhead : name.toList.head? with
    | none => decide
    | some c => simpa [hhead] using hname

/-- The name was found as a mere file name: it has no separator, and the first directory with a
file for it is the empty search path. -/
def FoundBare (l : SymbolLoader) (files : Files) (name : String) : Prop :=
  '/' ∉ name.toList ∧ ∃ before after path, l.searchPaths = before ++ "" :: after ∧
    (∀ d ∈ before, Lacks files name d) ∧ Offers files name "" path

theorem slash_mem_of_offers (h : Offers files name directory path)
    (hname : Path.isAbsolute name = false) :
    '/' ∈ path.toList ↔ directory ≠ "" ∨ '/' ∈ name.toList := by
  obtain ⟨lead, hlead, rfl, hplain⟩ := h.eq_join hname
  rw [Path.slash_mem_join directory hplain]
  rcases hlead with rfl | rfl <;> simp

theorem slash_mem_iff_not_foundBare (hpath : l.resolve? files name = some path) :
    '/' ∈ path.toList ↔ ¬FoundBare l files name := by
  cases hname : Path.isAbsolute name with
  | true =>
    obtain ⟨rfl, -⟩ := (resolve?_of_absolute l hname).mp hpath
    have hslash := slash_mem_of_absolute hname
    exact ⟨fun _ hbare => hbare.1 hslash, fun _ => hslash⟩
  | false =>
    rw [resolve?_of_short l hname, search_eq_some] at hpath
    constructor
    · rintro hslash ⟨hplain, before, after, path', hsplit, hbefore, hoffers⟩
      obtain rfl := hpath.unique (.at hsplit hbefore hoffers)
      rcases (slash_mem_of_offers hoffers hname).mp hslash with hne | hmem
      · exact hne rfl
      · exact hplain hmem
    · intro hbare
      obtain ⟨hsplit, hbefore, hoffers⟩ := hpath
      rw [slash_mem_of_offers hoffers hname]
      by_contra hnone
      obtain ⟨rfl, hplain⟩ : _ = "" ∧ '/' ∉ name.toList := by simpa using hnone
      exact hbare ⟨hplain, _, _, _, hsplit, hbefore, hoffers⟩

/-- The library that a name was resolved to is opened and answers, except where the name was found
as a mere file name.  Then what the linker has of that name is opened in its place, if there is
anything. -/
theorem resolved_file_opened (hpath : l.resolve? machine.files name = some path)
    (hfile : machine.files.find? path = some (.library library)) (hnew : l.cached? path = none) :
    (∀ opened, Opens l machine name path opened ↔
      ¬FoundBare l machine.files name ∧ opened = library ∨
        FoundBare l machine.files name ∧ machine.systemLibraries.lookup path = some opened) ∧
      (Shut l machine name ↔
        FoundBare l machine.files name ∧ machine.systemLibraries.lookup path = none) := by
  simp only [opens_iff hpath hnew, shut_iff hpath hnew]
  by_cases hslash : '/' ∈ path.toList
  · have hbare := (slash_mem_iff_not_foundBare hpath).mp hslash
    rw [(openLibrary?_of_slash hslash).mpr hfile]
    refine ⟨fun opened => ?_, by simp [hbare]⟩
    rw [Option.some_inj, eq_comm]
    simp [hbare]
  · have hbare := not_not.mp (mt (slash_mem_iff_not_foundBare hpath).mpr hslash)
    rw [openLibrary?_of_bare hslash]
    simp [hbare]

/-- The settings of a global file with one search path. -/
def searching (path : String) : Config.Merged where
  project := .empty
  global := ⟨none, none, some ⟨some [path]⟩⟩
  projectRoot := none

/-- A library in the working directory and one below it. -/
def atWork : Machine where
  files := {
    root := .directory [
      ("w", .directory [("libx.so", answering 1), ("d", .directory [("x.so", answering 2)])])]
    workingPlace := ["w"] }

/-- The same files, where the linker has another library of the first one's name. -/
def linkedElsewhere : Machine := { atWork with systemLibraries := [("libx.so", ⟨[("id", 3)]⟩)] }

/-- From the same search path, a name with a separator is opened, and for one without there is
nothing or another library. -/
theorem resolved_file_opened_below :
    Opens (withSearchPaths "/w" [""]) linkedElsewhere "d/x" "d/x.so" ⟨[("id", 2)]⟩ ∧
      Shut (withSearchPaths "/w" [""]) atWork "x" ∧
      Opens (withSearchPaths "/w" [""]) linkedElsewhere "x" "libx.so" ⟨[("id", 3)]⟩ := by
  have hbelow : (withSearchPaths "/w" [""]).resolve? linkedElsewhere.files "d/x" =
      some "d/x.so" := by decide +kernel
  have hbeside : (withSearchPaths "/w" [""]).resolve? atWork.files "x" = some "libx.so" := by
    decide +kernel
  have hlinked : (withSearchPaths "/w" [""]).resolve? linkedElsewhere.files "x" =
      some "libx.so" := hbeside
  have hdx : linkedElsewhere.files.find? "d/x.so" = some (answering 2) := rfl
  have hlibx : atWork.files.find? "libx.so" = some (answering 1) := rfl
  have hslash : '/' ∈ "d/x".toList := by decide
  have hbare : FoundBare (withSearchPaths "/w" [""]) atWork.files "x" :=
    ⟨by decide, [], _, _, rfl, nofun, .prefixed (by decide +kernel)⟩
  refine ⟨?_, ?_, ?_⟩
  · exact ((resolved_file_opened hbelow hdx rfl).1 _).mpr (.inl ⟨fun h => h.1 hslash, rfl⟩)
  · exact (resolved_file_opened hbeside hlibx rfl).2.mpr ⟨hbare, rfl⟩
  · exact ((resolved_file_opened hlinked hlibx rfl).1 _).mpr (.inr ⟨hbare, rfl⟩)

/-- An empty search path stands for the working directory where files are looked for, and for none
where they are opened: nothing is, or a library from elsewhere.  The same directory by another name
is no trouble. -/
theorem empty_search_path_not_opened :
    ∃ d, EngineDefaults.ofMerged (searching "") = .ok d ∧
      (d.symbolLoader "/w").resolve? atWork.files "x" = some "libx.so" ∧
      atWork.files.find? "libx.so" = some (answering 1) ∧
      (d.symbolLoader "/w").cached? "libx.so" = none ∧
      (d.symbolLoader "/w").load atWork "x" = (.error (.loadFailed "x"), d.symbolLoader "/w") ∧
      ((d.symbolLoader "/w").load linkedElsewhere "x").1 =
        .ok (⟨[("id", 3)]⟩, some "libx.so") ∧
      ∃ d', EngineDefaults.ofMerged (searching ".") = .ok d' ∧
        ((d'.symbolLoader "/w").load atWork "x").1 = .ok (⟨[("id", 1)]⟩, some "./libx.so") := by
  refine ⟨⟨⟨false, false⟩, .default, .abort, [""]⟩, by decide +kernel, by decide +kernel, rfl, rfl,
    ?_, by decide +kernel, ⟨⟨false, false⟩, .default, .abort, ["."]⟩, by decide +kernel,
    by decide +kernel⟩
  rfl

/-! ## Names that are paths -/

/-- No search leads to the file that a relative path names: what is looked for has another last
segment. -/
theorem Offers.locate_ne (h : Offers files name directory path)
    (hname : Path.isAbsolute name = false) (hfile : files.find? name = some (.library library)) :
    files.locate path ≠ files.locate name := by
  obtain ⟨lead, hlead, rfl, hplain⟩ := h.eq_join hname
  have hlast := Path.lastSegment_join directory hplain
  have hslash : '/' ∉ lead.toList := by rcases hlead with rfl | rfl <;> decide
  obtain ⟨front, hfront⟩ := Path.lastSegment_extended hslash (by decide : '/' ∉ ".so".toList)
    name.toList
  rw [String.toList_append, String.toList_append, hfront] at hlast
  have hlength : (Path.lastSegment (Path.join directory (lead ++ name ++ ".so")).toList).length =
      front.length + (Path.lastSegment name.toList).length + 3 := by
    rw [hlast]
    simp
    omega
  obtain ⟨q, hq⟩ := Files.place_of_library hfile
  rw [hq]
  intro hlocate
  obtain ⟨q', entries, -, ⟨hidle, -⟩ | ⟨hup, -⟩ | ⟨-, hplace⟩⟩ := Files.locate_last hlocate
  · have hshort := Path.length_le_of_isIdle hidle
    omega
  · rw [hup, List.length_cons, List.length_singleton] at hlength
    omega
  · obtain ⟨-, hname⟩ := List.append_singleton_inj.mp hplace
    have hsame := String.ofList_inj.mp hname
    rw [← hsame] at hlength
    omega

theorem load_notFound_iff (l : SymbolLoader) :
    l.load machine name = (.error (.libraryNotFound name), l) ↔
      l.resolve? machine.files name = none := by
  constructor
  · intro hload
    have hfound : Site.found ⟨machine, l⟩ name = .error (.libraryNotFound name) := by
      rw [Site.found, hload]
      rfl
    exact (Site.found_eq_libraryNotFound (s := ⟨machine, l⟩)).mp hfound
  · intro hnone
    simp only [load, hnone]

theorem isAbsolute_of_locate_eq (hpath : l.resolve? files name = some path)
    (hfile : files.find? name = some (.library library))
    (hplace : files.locate path = files.locate name) : Path.isAbsolute name = true := by
  by_contra habsolute
  have hrelative := Bool.eq_false_iff.mpr habsolute
  rw [resolve?_of_short l hrelative] at hpath
  obtain ⟨-, -, hoffers⟩ := search_eq_some.mp hpath
  exact hoffers.locate_ne hrelative hfile hplace

/-- A library at a path is what the name leads to exactly if the path is absolute, and then it is
opened there unless one is open at the path already.  A relative path is searched for as a short
name, and not found where no directory has a file for that. -/
theorem opened_by_path_iff_absolute (l : SymbolLoader)
    (hfile : machine.files.find? name = some (.library library)) :
    ((∃ path, l.resolve? machine.files name = some path ∧
      machine.files.locate path = machine.files.locate name) ↔ Path.isAbsolute name = true) ∧
    (Path.isAbsolute name = true →
      (l.cached? name = none → Opens l machine name name library) ∧
        ∀ old, l.cached? name = some old → l.load machine name = (.ok (old, none), l)) ∧
    (Path.isAbsolute name = false →
      (l.load machine name = (.error (.libraryNotFound name), l) ↔
        ∀ directory ∈ l.searchPaths, Lacks machine.files name directory)) := by
  have hhas : machine.files.has name = true := by rw [Files.has, hfile]; rfl
  have hself : Path.isAbsolute name = true → l.resolve? machine.files name = some name :=
    fun habsolute => (resolve?_of_absolute l habsolute).mpr ⟨rfl, hhas⟩
  refine ⟨⟨?_, fun habsolute => ⟨name, hself habsolute, rfl⟩⟩, fun habsolute => ⟨fun hnew => ?_,
    fun old hold => ?_⟩, fun hrelative => ?_⟩
  · rintro ⟨path, hpath, hplace⟩
    exact isAbsolute_of_locate_eq hpath hfile hplace
  · exact (opens_iff (hself habsolute) hnew).mpr
      ((openLibrary?_of_slash (slash_mem_of_absolute habsolute)).mpr hfile)
  · simp only [load, hself habsolute, hold]
  · rw [load_notFound_iff, resolve?_of_short l hrelative, search_eq_none]

/-- An absolute path to a library and a relative one. -/
theorem opened_by_path_iff_absolute_below :
    Opens (new "/") atWork "/w/libx.so" "/w/libx.so" ⟨[("id", 1)]⟩ ∧
      ¬∃ path, (new "/").resolve? atWork.files "d/x.so" = some path ∧
        atWork.files.locate path = atWork.files.locate "d/x.so" := by
  have hbelow : atWork.files.find? "d/x.so" = some (answering 2) := rfl
  have hrelative : ¬Path.isAbsolute "d/x.so" = true := by decide
  exact ⟨((opened_by_path_iff_absolute (new "/") rfl).2.1 (by decide)).1 rfl,
    mt (opened_by_path_iff_absolute (new "/") hbelow).1.mp hrelative⟩

/-- A library in a directory, called by its path from the working directory: the working directory
is searched, for other names. -/
theorem relative_path_not_found :
    '/' ∈ "d/x.so".toList ∧ atWork.files.find? "d/x.so" = some (answering 2) ∧
      (new "/w").load atWork "d/x.so" = (.error (.libraryNotFound "d/x.so"), new "/w") ∧
      ((new "/w").load atWork "/w/d/x.so").1 = .ok (⟨[("id", 2)]⟩, some "/w/d/x.so") := by
  refine ⟨by decide, rfl, rfl, by decide +kernel⟩

end SymbolLoader

end CallBridge
