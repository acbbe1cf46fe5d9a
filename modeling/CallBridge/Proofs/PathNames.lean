/-
Paths and the names in them.

What a path says is the list of its segments that name something.  Taking the parent drops the
last of these and keeps a stretch of the text, and joining a file name adds one.
`parent_names` and `segments_join` are the two facts that walking up a tree rests on.
-/
import Mathlib.Data.List.TakeWhile
import CallBridge.Files.Path

namespace CallBridge

namespace Path

/-! ## Segments -/

theorem segments_ne_nil (cs : List Char) : segments cs ≠ [] := by
  induction cs with
  | nil => simp [segments]
  | cons c cs ih =>
    rw [segments]
    split
    · simp
    · split <;> simp

theorem segments_cons_of_ne {c : Char} (hc : c ≠ '/') (cs : List Char) :
    ∃ s rest, segments cs = s :: rest ∧ segments (c :: cs) = (c :: s) :: rest := by
  cases hsegments : segments cs with
  | nil => exact absurd hsegments (segments_ne_nil cs)
  | cons s rest => exact ⟨s, rest, rfl, by rw [segments, if_neg hc, hsegments]⟩

/-- A separator ends one segment and begins the next. -/
theorem segments_append (xs ys : List Char) :
    segments (xs ++ '/' :: ys) = segments xs ++ segments ys := by
  induction xs with
  | nil => rfl
  | cons c xs ih =>
    by_cases hc : c = '/'
    · subst hc
      simp only [List.cons_append, segments, if_true, ih]
    · obtain ⟨s, rest, hs, hcons⟩ := segments_cons_of_ne hc xs
      obtain ⟨s', rest', hs', hcons'⟩ := segments_cons_of_ne hc (xs ++ '/' :: ys)
      rw [ih, hs, List.cons_append] at hs'
      obtain ⟨rfl, rfl⟩ := List.cons.inj hs'
      rw [List.cons_append, hcons', hcons, List.cons_append]

theorem segments_of_not_mem {cs : List Char} (h : '/' ∉ cs) : segments cs = [cs] := by
  induction cs with
  | nil => rfl
  | cons c cs ih =>
    have hc : c ≠ '/' := fun hc => h (hc ▸ List.mem_cons_self)
    have hcs : '/' ∉ cs := fun hcs => h (List.mem_cons_of_mem c hcs)
    rw [segments, if_neg hc, ih hcs]

theorem not_mem_of_mem_segments {cs s : List Char} (h : s ∈ segments cs) : '/' ∉ s := by
  induction cs generalizing s with
  | nil =>
    obtain rfl := List.mem_singleton.mp h
    simp
  | cons c cs ih =>
    by_cases hc : c = '/'
    · rw [segments, if_pos hc] at h
      rcases List.mem_cons.mp h with rfl | h
      · simp
      · exact ih h
    · obtain ⟨head, rest, hs, hcons⟩ := segments_cons_of_ne hc cs
      rw [hcons] at h
      rw [hs] at ih
      rcases List.mem_cons.mp h with rfl | h
      · have hhead := ih List.mem_cons_self
        simp [hhead, Ne.symm hc]
      · exact ih (List.mem_cons_of_mem head h)

theorem ofSegments_singleton (s : List Char) : ofSegments [s] = s := by
  simp [ofSegments, List.intercalate]

theorem ofSegments_cons (s : List Char) {rest : List (List Char)} (h : rest ≠ []) :
    ofSegments (s :: rest) = s ++ '/' :: ofSegments rest := by
  obtain ⟨s', rest, rfl⟩ := List.exists_cons_of_ne_nil h
  rfl

theorem ofSegments_append {ss ts : List (List Char)} (hs : ss ≠ []) (ht : ts ≠ []) :
    ofSegments (ss ++ ts) = ofSegments ss ++ '/' :: ofSegments ts := by
  induction ss with
  | nil => exact absurd rfl hs
  | cons s ss ih =>
    cases ss with
    | nil => rw [ofSegments_singleton, List.singleton_append, ofSegments_cons s ht]
    | cons s' ss =>
      rw [List.cons_append, ofSegments_cons s (by simp), ih (by simp), ofSegments_cons s (by simp),
        List.append_assoc]
      rfl

theorem ofSegments_segments (cs : List Char) : ofSegments (segments cs) = cs := by
  induction cs with
  | nil => rfl
  | cons c cs ih =>
    by_cases hc : c = '/'
    · subst hc
      rw [segments, if_pos rfl, ofSegments_cons [] (segments_ne_nil cs), ih]
      rfl
    · obtain ⟨s, rest, hs, hcons⟩ := segments_cons_of_ne hc cs
      rw [hs] at ih
      rw [hcons]
      cases rest with
      | nil => exact congrArg (c :: ·) ih
      | cons s' rest =>
        rw [ofSegments_cons _ (by simp)] at ih ⊢
        exact congrArg (c :: ·) ih

theorem segments_ofSegments {ss : List (List Char)} (h : ss ≠ []) (hplain : ∀ s ∈ ss, '/' ∉ s) :
    segments (ofSegments ss) = ss := by
  induction ss with
  | nil => exact absurd rfl h
  | cons s ss ih =>
    have hs := segments_of_not_mem (hplain s List.mem_cons_self)
    cases ss with
    | nil => rw [ofSegments_singleton, hs]
    | cons s' ss =>
      have hrest := ih (by simp) fun t ht => hplain t (List.mem_cons_of_mem s ht)
      rw [ofSegments_cons s (by simp), segments_append, hs, hrest]
      rfl

theorem prefix_ofSegments {ss ts : List (List Char)} (h : ss <+: ts) :
    ofSegments ss <+: ofSegments ts := by
  obtain ⟨us, rfl⟩ := h
  rcases List.eq_nil_or_concat ss with rfl | ⟨_, _, rfl⟩
  · exact List.nil_prefix
  · cases us with
    | nil => simp
    | cons u us =>
      rw [ofSegments_append (by simp) (by simp)]
      exact List.prefix_append ..

/-! ## Names -/

def naming (segments : List (List Char)) : List (List Char) := segments.filter fun s => !isIdle s

/-- The names that a text leads through. -/
def namesOf (cs : List Char) : List (List Char) := naming (segments cs)

theorem naming_append (ss ts : List (List Char)) : naming (ss ++ ts) = naming ss ++ naming ts :=
  List.filter_append ..

theorem namesOf_append (xs ys : List Char) :
    namesOf (xs ++ '/' :: ys) = namesOf xs ++ namesOf ys := by
  rw [namesOf, segments_append, naming_append]
  rfl

theorem namesOf_ofSegments {ss : List (List Char)} (hplain : ∀ s ∈ ss, '/' ∉ s) :
    namesOf (ofSegments ss) = naming ss := by
  cases ss with
  | nil => rfl
  | cons s ss => rw [namesOf, segments_ofSegments (by simp) hplain]

/-- Trimming takes idle segments off the end, as many as there are. -/
theorem trimIdle_append (ss : List (List Char)) :
    ∃ idle, ss = trimIdle ss ++ idle ∧ naming idle = [] := by
  refine ⟨(ss.reverse.takeWhile isIdle).reverse, ?_, ?_⟩
  · rw [trimIdle, ← List.reverse_append, List.takeWhile_append_dropWhile, List.reverse_reverse]
  · refine List.filter_eq_nil_iff.mpr fun s hs => ?_
    have hidle := List.mem_takeWhile_imp (List.mem_reverse.mp hs)
    simp [hidle]

theorem prefix_trimIdle (ss : List (List Char)) : trimIdle ss <+: ss := by
  obtain ⟨idle, hss, -⟩ := trimIdle_append ss
  exact ⟨idle, hss.symm⟩

theorem naming_trimIdle (ss : List (List Char)) : naming (trimIdle ss) = naming ss := by
  obtain ⟨idle, hss, hidle⟩ := trimIdle_append ss
  have hnames := congrArg naming hss
  rw [naming_append, hidle, List.append_nil] at hnames
  exact hnames.symm

theorem trimIdle_last {ss init : List (List Char)} {last : List Char}
    (h : trimIdle ss = init ++ [last]) : isIdle last = false := by
  have hreverse : ss.reverse.dropWhile isIdle = last :: init.reverse := by
    have := congrArg List.reverse h
    simpa [trimIdle] using this
  have hhead := List.head?_dropWhile_not isIdle ss.reverse
  rw [hreverse] at hhead
  simpa using hhead

/-! ## Parents -/

/-- What a path begins with besides its segments. -/
inductive Lead : List Char → List Char → List Char → Prop
  | root (rest : List Char) : Lead ('/' :: rest) ['/'] rest
  | dot (body : List Char) (hbody : body = [] ∨ ∃ rest, body = '/' :: rest) :
    Lead ('.' :: body) ['.'] body
  | plain {cs : List Char} (hroot : cs.head? ≠ some '/') : Lead cs [] cs

theorem lead_splitLead (cs : List Char) : Lead cs (splitLead cs).1 (splitLead cs).2 := by
  unfold splitLead
  split
  · exact .root _
  · exact .dot [] (Or.inl rfl)
  · exact .dot _ (Or.inr ⟨_, rfl⟩)
  · rename_i hroot _ _
    refine .plain fun hhead => ?_
    obtain ⟨rest, rfl⟩ := List.head?_eq_some_iff.mp hhead
    exact hroot rest rfl

theorem Lead.append {cs lead body : List Char} (h : Lead cs lead body) : cs = lead ++ body := by
  cases h <;> rfl

/-- The lead names nothing, before the whole body or the beginning of it. -/
theorem Lead.namesOf {cs lead body : List Char} (h : Lead cs lead body) {xs : List Char}
    (hxs : xs <+: body) : namesOf (lead ++ xs) = Path.namesOf xs := by
  cases h with
  | root => exact namesOf_append [] xs
  | plain => rfl
  | dot body hbody =>
    cases xs with
    | nil => rfl
    | cons x xs =>
      have hx : x = '/' := by
        rcases hbody with rfl | ⟨rest, rfl⟩
        · cases List.prefix_nil.mp hxs
        · exact (List.cons_prefix_cons.mp hxs).1
      subst hx
      have hdot := namesOf_append ['.'] xs
      have hempty := namesOf_append [] xs
      exact hdot.trans hempty.symm

theorem Lead.namesOf_eq {cs lead body : List Char} (h : Lead cs lead body) :
    Path.namesOf cs = naming (trimIdle (segments body)) := by
  rw [h.append, h.namesOf (List.prefix_refl _), naming_trimIdle, Path.namesOf]

theorem names_of_no_parent {cs : List Char} (h : parentChars? cs = none) : namesOf cs = [] := by
  rw [(lead_splitLead cs).namesOf_eq]
  unfold parentChars? at h
  simp only at h
  split at h
  · rename_i htrim
    rw [htrim]
    rfl
  · cases h

/-- A parent is the empty text, for a path that only says `.`, or the path up to its last
name. -/
theorem parent_eq {cs parent : List Char} (h : parentChars? cs = some parent) :
    (trimIdle (segments (splitLead cs).2) = [] ∧ (splitLead cs).1 = ['.'] ∧ parent = []) ∨
      ∃ init last, trimIdle (segments (splitLead cs).2) = init ++ [last] ∧
        parent = (splitLead cs).1 ++ ofSegments (trimIdle init) := by
  unfold parentChars? at h
  simp only at h
  split at h
  · rename_i htrim
    split at h
    · rename_i hdot
      exact Or.inl ⟨htrim, hdot, (Option.some.inj h).symm⟩
    · cases h
  · rename_i htrim
    obtain ⟨init, last, hnamed⟩ := (List.eq_nil_or_concat _).resolve_left htrim
    rw [List.concat_eq_append] at hnamed
    rw [hnamed, List.dropLast_concat] at h
    exact Or.inr ⟨init, last, hnamed, (Option.some.inj h).symm⟩

/-- The parent is a shorter stretch of the path, and names all but the last of its names. -/
theorem parent_names {cs parent : List Char} (h : parentChars? cs = some parent) :
    namesOf parent = (namesOf cs).dropLast ∧ parent <+: cs ∧ parent.length < cs.length ∧
      (cs.head? = some '/' → parent.head? = some '/') := by
  have hlead := lead_splitLead cs
  have hparent := parent_eq h
  generalize (splitLead cs).1 = lead at hlead hparent
  generalize (splitLead cs).2 = body at hlead hparent
  have hcs := hlead.append
  have hnames := hlead.namesOf_eq
  rcases hparent with ⟨htrim, rfl, rfl⟩ | ⟨init, last, htrim, rfl⟩
  · refine ⟨by rw [hnames, htrim]; rfl, List.nil_prefix, by simp [hcs], fun hroot => ?_⟩
    rw [hcs] at hroot
    cases hroot
  · have hinit : trimIdle init <+: segments body := by
      have hnamed := prefix_trimIdle (segments body)
      rw [htrim] at hnamed
      exact (prefix_trimIdle init).trans ((List.prefix_append init [last]).trans hnamed)
    have hstretch : ofSegments (trimIdle init) <+: body := by
      have := prefix_ofSegments hinit
      rwa [ofSegments_segments] at this
    have hparent : namesOf (lead ++ ofSegments (trimIdle init)) = naming init := by
      rw [hlead.namesOf hstretch, namesOf_ofSegments fun s hs =>
        not_mem_of_mem_segments (hinit.subset hs), naming_trimIdle]
    have hall : namesOf cs = naming init ++ [last] := by
      rw [hnames, htrim, naming_append]
      simp [naming, trimIdle_last htrim]
    have hshort : lead ++ ofSegments (trimIdle init) <+: cs := by
      rw [hcs]
      exact (List.prefix_append_right_inj lead).mpr hstretch
    refine ⟨by rw [hparent, hall, List.dropLast_concat], hshort, ?_, fun hroot => ?_⟩
    · -- a stretch as long as the path would name as much as the path
      refine Nat.lt_of_le_of_ne hshort.length_le fun hlength => ?_
      rw [hshort.eq_of_length hlength, hall] at hparent
      have hcount := congrArg List.length hparent
      simp at hcount
    · cases hlead with
      | root => rfl
      | dot => cases hroot
      | plain hplain => exact absurd hroot hplain

theorem size_lt_of_stretch {path : String} {cs : List Char} (h : cs <+: path.toList)
    (hshort : cs.length < path.toList.length) :
    (String.ofList cs).utf8ByteSize < path.utf8ByteSize := by
  obtain ⟨rest, hrest⟩ := h
  have hpath : path = String.ofList cs ++ String.ofList rest := by
    rw [← String.ofList_append, hrest, String.ofList_toList]
  have hne : String.ofList rest ≠ "" := by
    intro hempty
    obtain rfl : rest = [] := String.ofList_inj.mp hempty
    rw [← hrest, List.append_nil] at hshort
    omega
  have hpos : (String.ofList rest).utf8ByteSize ≠ 0 := mt String.utf8ByteSize_eq_zero_iff.mp hne
  rw [hpath, String.utf8ByteSize_append]
  omega

/-! ## Joining -/

section Join

variable (base : String) {path : String} (hpath : isAbsolute path = false)

include hpath

/-- A separator is put in unless the base is empty or brings one. -/
theorem join_chars :
    base = "" ∧ (join base path).toList = path.toList ∨
      (∃ init, base.toList = init ++ ['/'] ∧
        (join base path).toList = init ++ '/' :: path.toList) ∨
      base ≠ "" ∧ (join base path).toList = base.toList ++ '/' :: path.toList := by
  simp only [join, hpath, Bool.false_eq_true, if_false]
  by_cases hempty : base = ""
  · exact Or.inl ⟨hempty, by simp [hempty]⟩
  · refine Or.inr ?_
    split
    · rename_i hclosed
      have hlast : base.toList.getLast? = some '/' := by simpa [hempty] using hclosed
      obtain ⟨init, hinit⟩ := List.getLast?_eq_some_iff.mp hlast
      exact Or.inl ⟨init, hinit, by simp [hinit]⟩
    · exact Or.inr ⟨hempty, by simp⟩

/-- Joining appends the segments of the path; what stands before them names what the base
names. -/
theorem segments_join :
    ∃ ss, segments (join base path).toList = ss ++ segments path.toList ∧
      naming ss = namesOf base.toList := by
  rcases join_chars base hpath with ⟨hbase, hjoin⟩ | ⟨init, hbase, hjoin⟩ | ⟨-, hjoin⟩
  · exact ⟨[], by simp [hjoin], by simp [hbase, namesOf, naming, segments, isIdle]⟩
  · refine ⟨segments init, by rw [hjoin, segments_append], ?_⟩
    rw [hbase, namesOf_append]
    simp [namesOf, naming, segments, isIdle]
  · exact ⟨segments base.toList, by rw [hjoin, segments_append], rfl⟩

theorem isAbsolute_join : isAbsolute (join base path) = isAbsolute base := by
  simp only [isAbsolute] at hpath ⊢
  rcases join_chars base hpath with ⟨hbase, hjoin⟩ | ⟨init, hbase, hjoin⟩ | ⟨hbase, hjoin⟩
  · rw [hjoin, hpath, hbase]
    rfl
  · rw [hjoin, hbase]
    cases init <;> rfl
  · have hchars : base.toList ≠ [] := by simpa using hbase
    rw [hjoin, List.head?_append, List.head?_eq_some_head hchars]
    rfl

theorem mem_join {c : Char} (h : c ∈ (join base path).toList) :
    c ∈ base.toList ∨ c = '/' ∨ c ∈ path.toList := by
  rcases join_chars base hpath with ⟨-, hjoin⟩ | ⟨init, hbase, hjoin⟩ | ⟨-, hjoin⟩
  · exact Or.inr (Or.inr (hjoin ▸ h))
  · rw [hjoin] at h
    rw [hbase]
    rcases List.mem_append.mp h with h | h
    · exact Or.inl (List.mem_append_left _ h)
    · exact Or.inr (List.mem_cons.mp h)
  · rw [hjoin] at h
    simpa using h

theorem size_join_le :
    (join base path).utf8ByteSize ≤ base.utf8ByteSize + 1 + path.utf8ByteSize := by
  simp only [join, hpath, Bool.false_eq_true, if_false]
  split
  · rw [String.utf8ByteSize_append]
    omega
  · have hslash : "/".utf8ByteSize = 1 := rfl
    rw [String.utf8ByteSize_append, String.utf8ByteSize_append, hslash]

theorem le_size_join :
    base.utf8ByteSize + path.utf8ByteSize ≤ (join base path).utf8ByteSize := by
  simp only [join, hpath, Bool.false_eq_true, if_false]
  split
  · rw [String.utf8ByteSize_append]
  · rw [String.utf8ByteSize_append, String.utf8ByteSize_append]
    omega

end Join

end Path

end CallBridge
