/-
What paths are compared by.

Two paths with the same components can be spelled in many ways.  Joining keeps sameness, and the
parent of a path with one more name has the components of the path itself.
-/
import CallBridge.Proofs.PathNames

namespace CallBridge

namespace Path

/-! ## Leads and names -/

def leadOf (cs : List Char) : List Char := (splitLead cs).1

theorem components_eq (path : String) :
    components path = (leadOf path.toList, namesOf path.toList) := by
  rw [(lead_splitLead path.toList).namesOf_eq, naming_trimIdle]
  rfl

theorem same_iff {p q : String} : same p q = true ↔ components p = components q := beq_iff_eq

theorem same_congr {p q : String} (h : components p = components q) (path : String) :
    same path p = same path q := by
  rw [same, same, h]

/-- The lead is the root, or a first component that says `.`, or nothing. -/
theorem leadOf_cons (c : Char) (cs : List Char) :
    leadOf (c :: cs) =
      if c = '/' then ['/']
      else if c = '.' ∧ (cs = [] ∨ cs.head? = some '/') then ['.'] else [] := by
  unfold leadOf splitLead
  split
  · rename_i hroot
    obtain ⟨rfl, -⟩ := List.cons.inj hroot
    rfl
  · rename_i hdot
    obtain ⟨rfl, rfl⟩ := List.cons.inj hdot
    rfl
  · rename_i hslash
    obtain ⟨rfl, rfl⟩ := List.cons.inj hslash
    rfl
  · rename_i hroot hdot hslash
    have hc : c ≠ '/' := fun hc => hroot cs (hc ▸ rfl)
    have hlead : ¬(c = '.' ∧ (cs = [] ∨ cs.head? = some '/')) := by
      rintro ⟨rfl, rfl | hhead⟩
      · exact hdot rfl
      · obtain ⟨rest, rfl⟩ := List.head?_eq_some_iff.mp hhead
        exact hslash rest rfl
    rw [if_neg hc, if_neg hlead]

/-- What comes after a separator has no part in the lead. -/
theorem leadOf_append {cs : List Char} (hne : cs ≠ []) (rest : List Char) :
    leadOf (cs ++ '/' :: rest) = leadOf cs := by
  obtain ⟨c, cs, rfl⟩ := List.exists_cons_of_ne_nil hne
  rw [List.cons_append, leadOf_cons, leadOf_cons]
  cases cs <;> simp

/-- Only the empty path has no components. -/
theorem eq_empty_of_components {path : String} (h : components path = ([], [])) : path = "" := by
  rw [components_eq] at h
  obtain ⟨hlead, hnames⟩ := Prod.mk.inj h
  rw [← String.toList_eq_nil_iff]
  cases hpath : path.toList with
  | nil => rfl
  | cons c cs =>
    rw [hpath, leadOf_cons] at hlead
    rw [hpath] at hnames
    split at hlead
    · cases hlead
    · rename_i hc
      obtain ⟨s, rest, hsegments, hall⟩ := segments_cons_of_ne hc cs
      have hidle : isIdle (c :: s) = true := by
        rw [namesOf, hall] at hnames
        by_contra hnot
        simp [naming, hnot] at hnames
      -- the first segment is a dot, so it is the lead
      obtain ⟨rfl, rfl⟩ : c = '.' ∧ s = [] := by simpa [isIdle] using hidle
      have hcs := ofSegments_segments cs
      rw [hsegments] at hcs
      have hfirst : cs = [] ∨ cs.head? = some '/' := by
        cases rest with
        | nil => exact Or.inl (hcs.symm.trans (ofSegments_singleton []))
        | cons t rest =>
          rw [ofSegments_cons [] (by simp)] at hcs
          exact Or.inr (hcs ▸ rfl)
      rw [if_pos ⟨rfl, hfirst⟩] at hlead
      cases hlead

/-! ## Joining -/

theorem namesOf_join (base : String) {path : String} (hpath : isAbsolute path = false) :
    namesOf (join base path).toList = namesOf base.toList ++ namesOf path.toList := by
  obtain ⟨ss, hsegments, hnames⟩ := segments_join base hpath
  rw [namesOf, hsegments, naming_append, hnames]
  rfl

theorem leadOf_join {base : String} (hbase : base ≠ "") {path : String}
    (hpath : isAbsolute path = false) : leadOf (join base path).toList = leadOf base.toList := by
  rcases join_chars base hpath with ⟨hempty, -⟩ | ⟨init, hclosed, hjoin⟩ | ⟨-, hjoin⟩
  · exact absurd hempty hbase
  · rw [hjoin, hclosed]
    by_cases hinit : init = []
    · rw [hinit]
      rfl
    · rw [leadOf_append hinit, leadOf_append hinit]
  · exact hjoin ▸ leadOf_append (mt String.toList_eq_nil_iff.mp hbase) _

theorem components_join {base : String} (hbase : base ≠ "") {path : String}
    (hpath : isAbsolute path = false) :
    components (join base path) =
      ((components base).1, (components base).2 ++ (components path).2) := by
  simp only [components_eq, leadOf_join hbase hpath, namesOf_join base hpath]

theorem join_empty (path : String) : join "" path = path := by
  simp [join]

theorem join_absolute (base : String) {path : String} (hpath : isAbsolute path = true) :
    join base path = path := if_pos hpath

/-- What is joined to two spellings of a path is spelled in two ways. -/
theorem components_join_congr {base base' : String} (h : components base = components base')
    (path : String) : components (join base path) = components (join base' path) := by
  by_cases hpath : isAbsolute path = true
  · rw [join_absolute base hpath, join_absolute base' hpath]
  · rw [Bool.not_eq_true] at hpath
    have hempty : components "" = ([], []) := rfl
    by_cases hbase : base = ""
    · subst hbase
      rw [eq_empty_of_components (h.symm.trans hempty)]
    · have hbase' : base' ≠ "" := by
        rintro rfl
        exact hbase (eq_empty_of_components (h.trans hempty))
      rw [components_join hbase hpath, components_join hbase' hpath, h]

/-! ## Parents -/

theorem ofSegments_trimIdle_ne (ss : List (List Char)) : ofSegments (trimIdle ss) ≠ ['.'] := by
  rcases List.eq_nil_or_concat (trimIdle ss) with hnil | ⟨init, last, htrim⟩
  · rw [hnil]
    simp [ofSegments]
  · rw [List.concat_eq_append] at htrim
    have hlast := trimIdle_last htrim
    rw [htrim]
    by_cases hinit : init = []
    · rw [hinit, List.nil_append, ofSegments_singleton]
      rintro rfl
      cases hlast
    · rw [ofSegments_append hinit (by simp)]
      intro hdot
      have hslash : '/' ∈ ['.'] := hdot ▸ List.mem_append_right _ List.mem_cons_self
      simp at hslash

/-- A stretch of a path without a lead has none either. -/
theorem leadOf_of_prefix {xs cs : List Char} (h : xs <+: cs) (hdot : xs ≠ ['.'])
    (hplain : leadOf cs = []) : leadOf xs = [] := by
  obtain ⟨rest, rfl⟩ := h
  cases xs with
  | nil => rfl
  | cons c xs =>
    rw [List.cons_append, leadOf_cons] at hplain
    rw [leadOf_cons]
    split at hplain
    · cases hplain
    · rename_i hc
      split at hplain
      · cases hplain
      · rename_i hlead
        rw [if_neg hc, if_neg]
        rintro ⟨rfl, rfl | hhead⟩
        · exact hdot rfl
        · exact hlead ⟨rfl, Or.inr (by rw [List.head?_append, hhead]; rfl)⟩

/-- A parent keeps the lead, unless the path was nothing but one. -/
theorem leadOf_parent {cs parent : List Char} (h : parentChars? cs = some parent) :
    leadOf parent = leadOf cs ∨ leadOf cs = ['.'] ∧ namesOf cs = [] ∧ parent = [] := by
  have hlead := lead_splitLead cs
  have hnames := hlead.namesOf_eq
  obtain ⟨hidle, hdot, rfl⟩ | ⟨init, last, hnamed, rfl⟩ := parent_eq h
  · exact Or.inr ⟨hdot, by rw [hnames, hidle]; rfl, rfl⟩
  · have hstretch : ofSegments (trimIdle init) <+: (splitLead cs).2 := by
      have hinit := (List.prefix_append init [last]).trans (hnamed ▸ prefix_trimIdle _)
      have hprefix := prefix_ofSegments ((prefix_trimIdle init).trans hinit)
      rwa [ofSegments_segments] at hprefix
    have hne := ofSegments_trimIdle_ne init
    refine Or.inl ?_
    change leadOf ((splitLead cs).1 ++ _) = (splitLead cs).1
    generalize hled : (splitLead cs).1 = lead at hlead
    generalize (splitLead cs).2 = body at hlead hstretch
    generalize ofSegments (trimIdle init) = xs at hstretch hne
    cases hlead with
    | root => rfl
    | plain => exact leadOf_of_prefix hstretch hne hled
    | dot body hbody =>
      have hfirst : xs = [] ∨ xs.head? = some '/' := by
        cases xs with
        | nil => exact Or.inl rfl
        | cons x xs =>
          rcases hbody with rfl | ⟨rest, rfl⟩
          · cases List.prefix_nil.mp hstretch
          · exact Or.inr (congrArg some (List.cons_prefix_cons.mp hstretch).1)
      rw [List.singleton_append, leadOf_cons, if_neg (by decide), if_pos ⟨rfl, hfirst⟩]

/-- A text that is a name has no lead: the root and a dot are none. -/
theorem leadOf_of_name {cs : List Char} (h : namesOf cs = [cs]) : leadOf cs = [] := by
  obtain ⟨hsegment, hnamed⟩ : cs ∈ segments cs ∧ (!isIdle cs) = true :=
    List.mem_filter.mp (h ▸ List.mem_singleton_self cs)
  have hslash := not_mem_of_mem_segments hsegment
  cases cs with
  | nil => rfl
  | cons c cs =>
    rw [leadOf_cons, if_neg, if_neg]
    · rintro ⟨rfl, rfl | hhead⟩
      · cases hnamed
      · exact hslash (List.mem_cons_of_mem _ (List.mem_of_mem_head? hhead))
    · rintro rfl
      exact hslash List.mem_cons_self

/-- The parent of a path with one more name is the path, in one spelling or another. -/
theorem parent_join (base : String) {name : String} (hname : isAbsolute name = false)
    (hone : namesOf name.toList = [name.toList]) :
    ∃ parent, parent? (join base name) = some parent ∧ components parent = components base := by
  have hnames := namesOf_join base hname
  rw [hone] at hnames
  cases hparent : parentChars? (join base name).toList with
  | none =>
    rw [names_of_no_parent hparent] at hnames
    simp at hnames
  | some parent =>
    refine ⟨String.ofList parent, by rw [parent?, hparent]; rfl, ?_⟩
    rw [components_eq, components_eq, String.toList_ofList]
    have hlast := (parent_names hparent).1
    rw [hnames, List.dropLast_concat] at hlast
    rw [hlast]
    obtain hlead | ⟨-, hnone, -⟩ := leadOf_parent hparent
    · by_cases hbase : base = ""
      · rw [hlead, hbase, join_empty, leadOf_of_name hone]
        rfl
      · rw [hlead, leadOf_join hbase hname]
    · rw [hnames] at hnone
      simp at hnone

end Path

end CallBridge
