/-
Where the project file is found.

The walk for a project takes parents of a text, and the law it is meant to keep is about the
directories of a tree.  The two agree on paths without `..`, from the place that the path starts
at: `discovery_of_no_parents` says so, and says when the walk keeps the whole law.  A relative
path is never walked above the working directory, and the parent of a text that ends in `..` is no
directory above.
-/
import CallBridge.Config.Loader
import CallBridge.Proofs.PathNames

namespace CallBridge

/-! ## Looking a path up -/

theorem Node.at?_append (n : Node) (xs ys : List String) :
    n.at? (xs ++ ys) = (n.at? xs).bind fun m => m.at? ys := by
  induction xs generalizing n with
  | nil => cases n <;> rfl
  | cons x xs ih =>
    cases n with
    | directory entries =>
      simp only [List.cons_append, Node.at?, Option.bind_eq_bind, Option.bind_assoc]
      exact congrArg _ (funext ih)
    | _ => rfl

theorem Node.directory_of_below {n : Node} {xs ys : List String} (hys : ys ≠ [])
    (h : (n.at? (xs ++ ys)).isSome) : ∃ entries, n.at? xs = some (.directory entries) := by
  obtain ⟨y, ys, rfl⟩ := List.exists_cons_of_ne_nil hys
  rw [Node.at?_append] at h
  cases hat : n.at? xs with
  | none => simp [hat] at h
  | some m =>
    cases m with
    | directory entries => exact ⟨entries, rfl⟩
    | _ => simp [hat, Node.at?] at h

namespace Files

variable {f : Files} {root : Node} {place result : List String}

def base (f : Files) (path : String) : List String :=
  if Path.isAbsolute path then [] else f.workingPlace

theorem locate_eq_ok {path : String} :
    f.locate path = .ok place ↔
      '\x00' ∉ path.toList ∧ path ≠ "" ∧ path.utf8ByteSize < pathLimit ∧
        follow f.root (f.base path) ((Path.segments path.toList).map String.ofList) =
          .ok place := by
  unfold locate base
  by_cases hnul : '\x00' ∈ path.toList
  · simp [hnul]
  · by_cases hempty : path = ""
    · simp [hempty]
    · by_cases hsize : path.utf8ByteSize < pathLimit
      · simp only [List.contains_eq_mem, hnul, decide_false, Bool.false_eq_true, if_false,
          String.isEmpty_iff, hempty, ge_iff_le, Nat.not_le.mpr hsize, not_false_eq_true, ne_eq,
          hsize, true_and]
        split <;> simp [*]
      · simp [hnul, hempty, hsize, Nat.not_lt.mp hsize]

theorem isIdle_iff (s : List Char) :
    Path.isIdle s = true ↔ String.ofList s = "" ∨ String.ofList s = "." := by
  have hnone : String.ofList s = "" ↔ s = [] := @String.ofList_inj s []
  have hdot : String.ofList s = "." ↔ s = ['.'] := @String.ofList_inj s ['.']
  simp [Path.isIdle, hnone, hdot]

theorem follow_cons_eq_ok {s : List Char} {rest : List String} (hup : s ≠ ['.', '.']) :
    follow root place (String.ofList s :: rest) = .ok result ↔
      (∃ entries, root.at? place = some (.directory entries)) ∧
        (Path.isIdle s = true ∧ follow root place rest = .ok result ∨
          Path.isIdle s = false ∧ (String.ofList s).utf8ByteSize ≤ nameLimit ∧
            (root.at? (place ++ [String.ofList s])).isSome ∧
            follow root (place ++ [String.ofList s]) rest = .ok result) := by
  have hnotup : String.ofList s ≠ ".." := fun h => hup (String.ofList_inj.mp h)
  have hidle := isIdle_iff s
  rw [follow]
  cases hat : root.at? place with
  | none => simp
  | some n =>
    cases n with
    | directory entries =>
      by_cases hs : Path.isIdle s = true
      · simp only [decide_eq_true_eq, Bool.or_eq_true, hidle.mp hs, if_true, hs]
        simp
      · have hname : ¬(String.ofList s = "" ∨ String.ofList s = ".") := fun h => hs (hidle.mpr h)
        simp only [decide_eq_true_eq, Bool.or_eq_true, hname, hnotup, hs, if_false]
        split
        · simp; omega
        · split <;> simp_all
    | _ => simp

/-- The names that segments add to a place. -/
def namesIn (ss : List (List Char)) : List String := (Path.naming ss).map String.ofList

theorem namesIn_cons (s : List Char) (ss : List (List Char)) :
    namesIn (s :: ss) = if Path.isIdle s then namesIn ss else String.ofList s :: namesIn ss := by
  unfold namesIn Path.naming
  cases h : Path.isIdle s <;> simp [h]

/-- Following segments without `..` appends their names, none of which is too long. -/
theorem follow_names {ss : List (List Char)} (hup : ['.', '.'] ∉ ss)
    (h : follow root place (ss.map String.ofList) = .ok result) :
    result = place ++ namesIn ss ∧ ∀ s ∈ namesIn ss, s.utf8ByteSize ≤ nameLimit := by
  induction ss generalizing place with
  | nil =>
    have hresult : place = result := Except.ok.inj h
    simp [namesIn, Path.naming, hresult]
  | cons s ss ih =>
    obtain ⟨hs, hss⟩ : s ≠ ['.', '.'] ∧ ['.', '.'] ∉ ss := by
      simpa [eq_comm] using hup
    obtain ⟨-, ⟨hidle, h⟩ | ⟨hidle, hsize, -, h⟩⟩ := (follow_cons_eq_ok hs).mp h
    · rw [namesIn_cons, if_pos hidle]
      exact ih hss h
    · rw [namesIn_cons, if_neg (by simp [hidle])]
      obtain ⟨hresult, hsizes⟩ := ih hss h
      exact ⟨by simp [hresult], by simpa [hsize] using hsizes⟩

/-- Segments without `..` that end in a name lead to what stands at that name. -/
theorem follow_file {ss : List (List Char)} {file : List Char} (hup : ['.', '.'] ∉ ss)
    (hfile : Path.isIdle file = false) (hnotup : file ≠ ['.', '.'])
    (hsize : (String.ofList file).utf8ByteSize ≤ nameLimit)
    (hsizes : ∀ s ∈ namesIn ss, s.utf8ByteSize ≤ nameLimit) :
    follow root place ((ss ++ [file]).map String.ofList) = .ok result ↔
      result = place ++ namesIn ss ++ [String.ofList file] ∧ (root.at? result).isSome := by
  induction ss generalizing place with
  | nil =>
    rw [List.nil_append, List.map_singleton, follow_cons_eq_ok hnotup]
    have hnames : namesIn [] = [] := rfl
    rw [hnames, List.append_nil]
    constructor
    · rintro ⟨-, ⟨hidle, -⟩ | ⟨-, -, hsome, h⟩⟩
      · simp [hidle] at hfile
      · obtain rfl := Except.ok.inj h
        exact ⟨rfl, hsome⟩
    · rintro ⟨rfl, hsome⟩
      exact ⟨Node.directory_of_below (by simp) hsome, Or.inr ⟨hfile, hsize, hsome, rfl⟩⟩
  | cons s ss ih =>
    obtain ⟨hs, hss⟩ : s ≠ ['.', '.'] ∧ ['.', '.'] ∉ ss := by
      simpa [eq_comm] using hup
    rw [List.cons_append, List.map_cons, follow_cons_eq_ok hs]
    rw [namesIn_cons] at hsizes ⊢
    cases hidle : Path.isIdle s with
    | true =>
      simp only [hidle, if_true] at hsizes
      simp only [true_and, reduceCtorEq, false_and, or_false, if_true, ih hss hsizes]
      refine and_iff_right_of_imp fun ⟨hresult, hsome⟩ => ?_
      rw [hresult, List.append_assoc] at hsome
      exact Node.directory_of_below (by simp) hsome
    | false =>
      simp only [hidle, Bool.false_eq_true, if_false, List.forall_mem_cons] at hsizes
      simp only [true_and, false_and, false_or, Bool.false_eq_true, if_false,
        ih hss hsizes.2, hsizes.1, List.append_assoc, List.cons_append, List.nil_append]
      constructor
      · rintro ⟨-, -, h⟩
        exact h
      · rintro ⟨hresult, hsome⟩
        have hbelow := hsome
        rw [hresult] at hbelow
        have hname : (root.at? (place ++ [String.ofList s])).isSome := by
          have hcons : place ++ String.ofList s :: (namesIn ss ++ [String.ofList file]) =
              (place ++ [String.ofList s]) ++ (namesIn ss ++ [String.ofList file]) := by simp
          rw [hcons] at hbelow
          obtain ⟨entries, hat⟩ := Node.directory_of_below (by simp) hbelow
          simp [hat]
        exact ⟨Node.directory_of_below (by simp) hbelow, hname, hresult, hsome⟩

/-! ## Texts that can be looked at -/

/-- The names that a path leads through. -/
def names (path : String) : List String := namesIn (Path.segments path.toList)

/-- What it takes for the project file beside a path to be looked at by its names. -/
structure Readable (path : String) : Prop where
  noNul : '\x00' ∉ path.toList
  noParent : ".." ∉ names path
  namesFit : ∀ s ∈ names path, s.utf8ByteSize ≤ nameLimit
  fits : (Path.join path Config.projectFile).utf8ByteSize < pathLimit

/-- `..` is no idle segment, so it is a segment exactly when it is a name. -/
theorem parent_mem_namesIn {ss : List (List Char)} : ".." ∈ namesIn ss ↔ ['.', '.'] ∈ ss := by
  unfold namesIn Path.naming
  constructor
  · intro h
    obtain ⟨s, hs, heq⟩ := List.mem_map.mp h
    obtain rfl : s = ['.', '.'] := String.ofList_inj.mp heq
    exact (List.mem_filter.mp hs).1
  · intro h
    exact List.mem_map.mpr ⟨['.', '.'], List.mem_filter.mpr ⟨h, rfl⟩, rfl⟩

/-- The project file beside a path stands below the place that the names of the path lead to. -/
theorem Readable.locate_project {path : String} (h : Readable path) :
    f.locate (Path.join path Config.projectFile) = .ok place ↔
      place = f.base path ++ names path ++ [Config.projectFile] ∧ (f.root.at? place).isSome := by
  have hplain : Path.isAbsolute Config.projectFile = false := by decide
  obtain ⟨ss, hsegments, hnaming⟩ := Path.segments_join path hplain
  have hfile : Path.segments Config.projectFile.toList = [Config.projectFile.toList] := by decide
  have hnames : namesIn ss = names path := congrArg (List.map String.ofList) hnaming
  have hup : ['.', '.'] ∉ ss := by
    rw [← parent_mem_namesIn, hnames]
    exact h.noParent
  have hnul : '\x00' ∉ (Path.join path Config.projectFile).toList := by
    intro hmem
    rcases Path.mem_join path hplain hmem with hmem | hmem | hmem
    · exact h.noNul hmem
    · cases hmem
    · revert hmem
      decide
  have hne : Path.join path Config.projectFile ≠ "" := by
    intro hempty
    have hsize := Path.le_size_join path hplain
    have hfilesize : Config.projectFile.utf8ByteSize = 13 := rfl
    rw [hempty, String.utf8ByteSize_empty, hfilesize] at hsize
    omega
  have hbase : f.base (Path.join path Config.projectFile) = f.base path := by
    unfold base
    rw [Path.isAbsolute_join path hplain]
  have hfollow : follow f.root (f.base path)
      ((ss ++ [Config.projectFile.toList]).map String.ofList) = .ok place ↔ _ :=
    follow_file hup (by decide) (by decide) (by decide) (by rw [hnames]; exact h.namesFit)
  rw [locate_eq_ok, hbase, hsegments, hfile, hfollow, hnames, String.ofList_toList]
  simp only [hnul, hne, h.fits, not_false_eq_true, ne_eq, true_and]

def HasProject (f : Files) (place : List String) : Prop :=
  (f.root.at? (place ++ [Config.projectFile])).isSome

instance (f : Files) (place : List String) : Decidable (f.HasProject place) :=
  inferInstanceAs (Decidable (_ = true))

theorem Readable.has_project {path : String} (h : Readable path) :
    f.has (Path.join path Config.projectFile) = true ↔
      f.HasProject (f.base path ++ names path) := by
  unfold has find? HasProject
  constructor
  · intro hhas
    split at hhas
    · rename_i place hlocate
      obtain ⟨rfl, hsome⟩ := h.locate_project.mp hlocate
      exact hsome
    · cases hhas
  · intro hsome
    rw [h.locate_project.mpr ⟨rfl, hsome⟩]
    exact hsome

/-- A parent can be looked at if the path can, from the same place and with all names but the
last. -/
theorem Readable.parent {path : String} {cs : List Char} (h : Readable path)
    (hparent : Path.parentChars? path.toList = some cs) :
    Readable (String.ofList cs) ∧ names (String.ofList cs) = (names path).dropLast ∧
      f.base (String.ofList cs) = f.base path := by
  have hplain : Path.isAbsolute Config.projectFile = false := by decide
  obtain ⟨hnames, hstretch, hshort, hroot⟩ := Path.parent_names hparent
  have hdrop : names (String.ofList cs) = (names path).dropLast := by
    unfold names namesIn
    rw [String.toList_ofList, ← List.map_dropLast]
    exact congrArg _ hnames
  have hsub : ∀ s ∈ names (String.ofList cs), s ∈ names path := by
    rw [hdrop]
    exact fun s hs => List.dropLast_subset _ hs
  refine ⟨⟨?_, ?_, ?_, ?_⟩, hdrop, ?_⟩
  · rw [String.toList_ofList]
    exact fun hnul => h.noNul (hstretch.subset hnul)
  · exact fun hup => h.noParent (hsub _ hup)
  · exact fun s hs => h.namesFit s (hsub s hs)
  · have hsize := Path.size_lt_of_stretch hstretch hshort
    have hle := Path.size_join_le (String.ofList cs) hplain
    have hge := Path.le_size_join path hplain
    have hfits := h.fits
    omega
  · have hiff : (cs.head? = some '/') ↔ path.toList.head? = some '/' := by
      refine ⟨fun hhead => ?_, hroot⟩
      obtain ⟨rest, hrest⟩ := hstretch
      rw [← hrest, List.head?_append, hhead]
      rfl
    unfold base Path.isAbsolute
    rw [String.toList_ofList]
    by_cases hhead : path.toList.head? = some '/'
    · simp [hhead, hiff.mpr hhead]
    · simp [hhead, mt hiff.mp hhead]

/-! ## The walk upwards -/

/-- A directory with a project, the nearest one from `place` upwards and no further than
`top`. -/
structure Nearest (f : Files) (top place q : List String) : Prop where
  below : top <+: q
  above : q <+: place
  project : f.HasProject q
  nearest : ∀ q', q <+: q' → q' <+: place → f.HasProject q' → q' = q

/-- What a directory that was found, or none, says about those from `place` up to `top`: its
project file is the one of the nearest with a project, or none of them has one. -/
inductive Settles (f : Files) (top place : List String) : Option String → Prop
  | found {directory : String} {q : List String} (hnearest : f.Nearest top place q)
    (hlocate : f.locate (Path.join directory Config.projectFile) =
      .ok (q ++ [Config.projectFile])) :
    Settles f top place (some directory)
  | missing (hnone : ∀ q, top <+: q → q <+: place → ¬f.HasProject q) : Settles f top place none

theorem eq_or_prefix_dropLast {top q xs : List String} (h : q <+: top ++ xs) :
    q = top ++ xs ∨ q <+: top ++ xs.dropLast := by
  rcases List.eq_nil_or_concat xs with rfl | ⟨init, last, rfl⟩
  · exact Or.inr h
  · rw [List.concat_eq_append, ← List.append_assoc] at h
    rw [List.concat_eq_append, List.dropLast_concat, ← List.append_assoc]
    exact List.prefix_concat_iff.mp h

/-- Without a project in the directory itself, those above it settle the question. -/
theorem Settles.of_parent {top xs : List String} {found : Option String}
    (h : f.Settles top (top ++ xs.dropLast) found) (hnone : ¬f.HasProject (top ++ xs)) :
    f.Settles top (top ++ xs) found := by
  cases h with
  | missing habsent =>
    refine .missing fun q hbelow habove hproject => ?_
    rcases eq_or_prefix_dropLast habove with rfl | habove
    · exact hnone hproject
    · exact habsent q hbelow habove hproject
  | @found _ q hnearest hlocate =>
    refine .found ⟨hnearest.below, ?_, hnearest.project, fun q' hq habove hproject => ?_⟩ hlocate
    · exact hnearest.above.trans
        ((List.prefix_append_right_inj top).mpr (List.dropLast_prefix xs))
    · rcases eq_or_prefix_dropLast habove with rfl | habove
      · exact absurd hproject hnone
      · exact hnearest.nearest q' hq habove hproject

/-- What is settled up to `top` is settled up to the root exactly if there is a project in between
already, or none above. -/
theorem Settles.widen {top : List String} {found : Option String}
    (h : f.Settles top place found) (htop : top <+: place) :
    f.Settles [] place found ↔
      (∃ q, top <+: q ∧ q <+: place ∧ f.HasProject q) ∨ ∀ q, q <+: top → ¬f.HasProject q := by
  cases h with
  | missing hbetween =>
    constructor
    · intro hwide
      cases hwide with
      | missing hall => exact Or.inr fun q hq => hall q List.nil_prefix (hq.trans htop)
    · rintro (⟨q, hbelow, habove, hproject⟩ | hnone)
      · exact absurd hproject (hbetween q hbelow habove)
      · refine .missing fun q _ habove hproject => ?_
        rcases List.prefix_or_prefix_of_prefix habove htop with hq | hq
        · exact hnone q hq hproject
        · exact hbetween q hq habove hproject
  | @found _ q hnearest hlocate =>
    constructor
    · exact fun _ => Or.inl ⟨q, hnearest.below, hnearest.above, hnearest.project⟩
    · exact fun _ => .found { hnearest with below := List.nil_prefix } hlocate

/-- The walk settles the question for the directories between the start of a path and its end.
Induction on the parents: each names all but the last of the names, and the last parent names
nothing. -/
theorem walk_settles {path : String} {fuel : Nat} (hfuel : path.toList.length < fuel)
    (h : Readable path) :
    f.Settles (f.base path) (f.base path ++ names path)
      (((Path.chain fuel path.toList).map String.ofList).find? fun directory =>
        f.has (Path.join directory Config.projectFile)) := by
  induction fuel generalizing path with
  | zero => omega
  | succ fuel ih =>
    rw [Path.chain, List.map_cons, String.ofList_toList, List.find?_cons]
    cases hhas : f.has (Path.join path Config.projectFile) with
    | true =>
      have hproject := h.has_project.mp hhas
      have hlocate := h.locate_project.mpr ⟨rfl, hproject⟩
      refine .found ⟨List.prefix_append .., List.prefix_refl _, hproject,
        fun q' hq habove _ => ?_⟩ hlocate
      exact (hq.eq_of_length_le habove.length_le).symm
    | false =>
      have hnone : ¬f.HasProject (f.base path ++ names path) :=
        fun hproject => by simp [h.has_project.mpr hproject] at hhas
      cases hparent : Path.parentChars? path.toList with
      | none =>
        have hnames : names path = [] := congrArg (List.map String.ofList)
          (Path.names_of_no_parent hparent)
        rw [hnames, List.append_nil] at hnone ⊢
        refine .missing fun q hbelow habove hproject => ?_
        exact hnone (habove.eq_of_length_le hbelow.length_le ▸ hproject)
      | some cs =>
        obtain ⟨hreadable, hnames, hbase⟩ := h.parent (f := f) hparent
        have hshort := (Path.parent_names hparent).2.2.1
        have hwalk := ih (by rw [String.toList_ofList]; omega) hreadable
        rw [hnames, hbase, String.toList_ofList] at hwalk
        exact hwalk.of_parent hnone

/-- A start path names a place; the empty text stands for the working directory. -/
def Leads (f : Files) (start : String) (place : List String) : Prop :=
  f.locate start = .ok place ∨ start = "" ∧ place = f.workingPlace

theorem Leads.names {start : String} (h : f.Leads start place) (hup : ".." ∉ names start) :
    place = f.base start ++ Files.names start ∧ '\x00' ∉ start.toList ∧
      ∀ s ∈ Files.names start, s.utf8ByteSize ≤ nameLimit := by
  rcases h with h | ⟨rfl, rfl⟩
  · obtain ⟨hnul, -, -, hfollow⟩ := locate_eq_ok.mp h
    obtain ⟨hplace, hsizes⟩ := follow_names (mt parent_mem_namesIn.mpr hup) hfollow
    exact ⟨hplace, hnul, hsizes⟩
  · have hnames : Files.names "" = [] := by decide
    rw [hnames]
    exact ⟨by simp [base, Path.isAbsolute], by simp, by simp⟩

end Files

namespace Config

/-- The search from a start path settles where the nearest project upwards is. -/
def Loader.Discovers (f : Files) (top place : List String) (start : String) : Prop :=
  f.Settles top place (projectDirectory? f start)

namespace Loader

theorem Discovers.of_readable (f : Files) {start : String} (h : Files.Readable start) :
    Discovers f (f.base start) (f.base start ++ Files.names start) start := by
  have hfuel : start.toList.length < start.length + 1 := by
    rw [String.length_toList]
    omega
  unfold Discovers projectDirectory? Path.ancestors
  exact Files.walk_settles hfuel h

/-- From a path without `..` the search settles the question for the directories between where
the path starts and where it ends.  It settles it for all directories above the end exactly if
the path is absolute, or there is a project below the working directory already, or none above
it. -/
theorem discovery_of_no_parents {f : Files} {start : String} {place : List String}
    (hleads : f.Leads start place) (hup : ".." ∉ Files.names start)
    (hfits : (Path.join start projectFile).utf8ByteSize < Files.pathLimit) :
    Discovers f (f.base start) place start ∧
      (Discovers f [] place start ↔
        Path.isAbsolute start = true ∨
          (∃ q, f.workingPlace <+: q ∧ q <+: place ∧ f.HasProject q) ∨
          ∀ q, q <+: f.workingPlace → ¬f.HasProject q) := by
  obtain ⟨rfl, hnul, hsizes⟩ := hleads.names hup
  have hreadable : Files.Readable start := ⟨hnul, hup, hsizes, hfits⟩
  have hsettles := Discovers.of_readable f hreadable
  refine ⟨hsettles, ?_⟩
  by_cases habsolute : Path.isAbsolute start = true
  · have hbase : f.base start = [] := by rw [Files.base, if_pos habsolute]
    rw [hbase] at hsettles ⊢
    simp only [habsolute, true_or, iff_true]
    exact hsettles
  · have hbase : f.base start = f.workingPlace := by rw [Files.base, if_neg habsolute]
    rw [hbase] at hsettles ⊢
    simp only [habsolute, Bool.false_eq_true, false_or]
    exact Files.Settles.widen hsettles (List.prefix_append ..)

/-- A project in one of two directories below the root, seen from inside it. -/
def projectBeside : Files where
  root := .directory [
    ("a", .directory [("b", .directory [("c", Node.emptyDirectory)]),
      ("ligature.toml", .file [])]),
    ("other", Node.emptyDirectory)]
  workingPlace := ["a", "b"]

/-- An absolute path finds the project above it, whatever idle parts it has.  The same directory
by a relative path has no project between it and the working directory, and one above. -/
theorem discovery_of_no_parents_below :
    Discovers projectBeside [] ["a", "b", "c"] "/a/./b//c/" ∧
      ¬Discovers projectBeside [] ["a", "b", "c"] "./c" := by
  have habsolute : Discovers projectBeside [] ["a", "b", "c"] "/a/./b//c/" ↔ _ :=
    (discovery_of_no_parents (Or.inl (by decide +kernel)) (by decide +kernel)
      (by decide +kernel)).2
  have hrelative : Discovers projectBeside [] ["a", "b", "c"] "./c" ↔ _ :=
    (discovery_of_no_parents (Or.inl (by decide +kernel)) (by decide +kernel)
      (by decide +kernel)).2
  refine ⟨habsolute.mpr (Or.inl (by decide)), fun hfinds => ?_⟩
  rcases hrelative.mp hfinds with hroot | ⟨q, ⟨xs, rfl⟩, habove, hproject⟩ | hnone
  · revert hroot
    decide
  · -- only the working directory itself and `c` in it lie in between
    have hxs : xs <+: [] ++ ["c"] := (List.prefix_append_right_inj ["a", "b"]).mp habove
    rcases List.prefix_concat_iff.mp hxs with rfl | hnil
    · revert hproject
      decide +kernel
    · obtain rfl := List.prefix_nil.mp hnil
      revert hproject
      decide +kernel
  · exact hnone ["a"] (by decide) (by decide +kernel)

/-- From a path with `..` the search finds a project that is in no directory above, and from one
that is relative it misses the project above the working directory. -/
theorem discovery_leaves_the_ancestors :
    (projectBeside.Leads "/a/../other" ["other"] ∧
      projectDirectory? projectBeside "/a/../other" = some "/a" ∧
      ¬Discovers projectBeside [] ["other"] "/a/../other") ∧
    projectBeside.Leads "." ["a", "b"] ∧ projectDirectory? projectBeside "." = none ∧
      projectBeside.HasProject ["a"] ∧ ¬Discovers projectBeside [] ["a", "b"] "." := by
  have hother : projectDirectory? projectBeside "/a/../other" = some "/a" := by decide +kernel
  have hdot : projectDirectory? projectBeside "." = none := by decide +kernel
  have hproject : projectBeside.HasProject ["a"] := by decide +kernel
  refine ⟨⟨Or.inl (by decide +kernel), hother, ?_⟩, Or.inl (by decide +kernel), hdot, hproject, ?_⟩
  · unfold Discovers
    rw [hother]
    intro hsettles
    obtain ⟨hnearest, hlocate⟩ := hsettles
    have hplace : projectBeside.locate (Path.join "/a" projectFile) = .ok ["a", projectFile] := by
      decide +kernel
    rw [hplace] at hlocate
    have hq : _ = ["a"] := List.append_cancel_right (Except.ok.inj hlocate).symm
    have habove := hnearest.above
    rw [hq] at habove
    revert habove
    decide
  · unfold Discovers
    rw [hdot]
    intro hsettles
    cases hsettles with
    | missing hnone => exact hnone ["a"] List.nil_prefix (by decide) hproject

end Loader

end Config

end CallBridge
