/-
Strings as they are written and read.

A text is written in one of six forms, and each form is undone by a reader of its own.
`string?_stringForm` says that the form of any text reads back as the text, whatever follows it
but a quote.
-/
import CallBridge.Toml.Printer

namespace CallBridge

namespace Toml

/-! ## Characters -/

/-- A character that needs no escape may stand in a comment, unless it ends the line. -/
theorem isCommentChar_of_plain {c : Char} (hescape : needsEscape c = false) (hline : c ≠ '\n') :
    isCommentChar c = true := by
  by_cases htab : c = '\t'
  · simp [isCommentChar, htab]
  · simp [needsEscape, htab, hline] at hescape
    simp [isCommentChar, hescape]

theorem isBasicChar_of_plain {c : Char} (hescape : needsEscape c = false) (hline : c ≠ '\n')
    (hquote : c ≠ '"') (hslash : c ≠ '\\') : isBasicChar c = true := by
  simp [isBasicChar, isCommentChar_of_plain hescape hline, hquote, hslash]

theorem ne_return_of_plain {c : Char} (hescape : needsEscape c = false) : c ≠ '\r' := by
  rintro rfl
  cases hescape

/-- Four hexadecimal digits name every control, and read back as it. -/
theorem codePoint?_hex4 : ∀ n < 128, ∃ a b c d, hex4 n = [a, b, c, d] ∧
    codePoint? [a, b, c, d] = some (Char.ofNat n) := by
  have hall : ∀ n < 128, (hex4 n).length = 4 ∧ codePoint? (hex4 n) = some (Char.ofNat n) := by
    decide +kernel
  intro n hn
  obtain ⟨hlength, hvalue⟩ := hall n hn
  match hex4 n, hlength, hvalue with
  | [a, b, c, d], _, hvalue => exact ⟨a, b, c, d, rfl, hvalue⟩

/-- How a character is written between double quotes. -/
theorem basicChar_cases (lines : Bool) (c : Char) :
    (∃ e, simpleEscape? e = some c ∧ basicChar lines c = ['\\', e]) ∨
    (∃ x y z w, codePoint? [x, y, z, w] = some c ∧ basicChar lines c = ['\\', 'u', x, y, z, w]) ∨
    (lines = true ∧ c = '\n' ∧ basicChar lines c = ['\n']) ∨
    (isBasicChar c = true ∧ c ≠ '\r' ∧ basicChar lines c = [c]) := by
  unfold basicChar
  split
  · exact Or.inl ⟨'b', rfl, rfl⟩
  · exact Or.inl ⟨'t', rfl, rfl⟩
  · cases lines
    · exact Or.inl ⟨'n', rfl, rfl⟩
    · exact Or.inr (Or.inr (Or.inl ⟨rfl, rfl, rfl⟩))
  · exact Or.inl ⟨'f', rfl, rfl⟩
  · exact Or.inl ⟨'r', rfl, rfl⟩
  · exact Or.inl ⟨'"', rfl, rfl⟩
  · exact Or.inl ⟨'\\', rfl, rfl⟩
  · by_cases hescape : needsEscape c = true
    · have hlt : c.toNat < 128 := by
        simp [needsEscape] at hescape
        omega
      obtain ⟨x, y, z, w, hdigits, hvalue⟩ := codePoint?_hex4 c.toNat hlt
      rw [Char.ofNat_toNat] at hvalue
      refine Or.inr (Or.inl ⟨x, y, z, w, hvalue, ?_⟩)
      rw [if_pos hescape, hdigits]
    · rw [if_neg hescape]
      rw [Bool.not_eq_true] at hescape
      refine Or.inr (Or.inr (Or.inr ⟨isBasicChar_of_plain hescape ?_ ?_ ?_, ?_, rfl⟩))
      all_goals assumption

/-! ## Between double quotes -/

theorem basicString_basicChar (c : Char) (rest : List Char) :
    basicString (basicChar false c ++ rest) = push c (basicString rest) := by
  obtain ⟨e, he, hwritten⟩ | ⟨x, y, z, w, hvalue, hwritten⟩ | ⟨hlines, -⟩ | ⟨hplain, -, hwritten⟩ :=
    basicChar_cases false c
  · rw [hwritten]
    exact basicString_escape he rest
  · rw [hwritten]
    exact basicString_unicode hvalue rest
  · cases hlines
  · rw [hwritten]
    exact basicString_plain hplain rest

theorem basicString_basicBody (cs rest : List Char) :
    basicString (basicBody cs ++ '"' :: rest) = some (cs, rest) := by
  induction cs with
  | nil => simp [basicBody, basicString]
  | cons c cs ih =>
    rw [basicBody, List.flatMap_cons, List.append_assoc, basicString_basicChar, ← basicBody, ih]
    rfl

/-! ## Between three double quotes -/

theorem mlBasicString_basicChar (c : Char) (rest : List Char) :
    mlBasicString false (basicChar true c ++ rest) = push c (mlBasicString false rest) := by
  obtain ⟨e, he, hwritten⟩ | ⟨x, y, z, w, hvalue, hwritten⟩ | ⟨-, rfl, hwritten⟩ |
    ⟨hplain, hreturn, hwritten⟩ := basicChar_cases true c
  · rw [hwritten]
    exact mlBasicString_escape he rest
  · rw [hwritten]
    exact mlBasicString_unicode hvalue rest
  · rw [hwritten]
    exact mlBasicString_newline rest
  · rw [hwritten]
    exact mlBasicString_plain hplain hreturn rest

theorem head_basicChar (lines : Bool) (c : Char) (rest : List Char) :
    ∃ d more, basicChar lines c ++ rest = d :: more ∧ d ≠ '"' ∧ d ≠ '\r' ∧ (d = '\n' → c = '\n') := by
  obtain ⟨e, -, hwritten⟩ | ⟨x, y, z, w, -, hwritten⟩ | ⟨-, rfl, hwritten⟩ |
    ⟨hplain, hreturn, hwritten⟩ := basicChar_cases lines c
  · exact ⟨'\\', _, by rw [hwritten]; rfl, by decide, by decide, fun h => absurd h (by decide)⟩
  · exact ⟨'\\', _, by rw [hwritten]; rfl, by decide, by decide, fun h => absurd h (by decide)⟩
  · exact ⟨'\n', _, by rw [hwritten]; rfl, by decide, by decide, fun _ => rfl⟩
  · refine ⟨c, _, by rw [hwritten]; rfl, ?_, hreturn, id⟩
    rintro rfl
    cases hplain

theorem linesBody_of_ne {c : Char} (h : c ≠ '"') (quotes : Nat) (cs : List Char) :
    linesBody quotes (c :: cs) = basicChar true c ++ linesBody 0 cs := by
  rw [linesBody]
  exact h

theorem linesBody_replicate {quotes more : Nat} (h : quotes + more ≤ 2) :
    linesBody quotes (List.replicate more '"') = List.replicate more '"' := by
  induction more generalizing quotes with
  | zero => rfl
  | succ more ih =>
    rw [List.replicate_succ, linesBody, if_pos (by omega), ih (by omega)]

/-- After two quotes no third one is written as it is. -/
theorem eq_nil_of_linesBody_two {cs rest more : List Char}
    (h : linesBody 2 cs ++ rest = '"' :: more) : cs = [] := by
  cases cs with
  | nil => rfl
  | cons c cs =>
    by_cases hquote : c = '"'
    · subst hquote
      rw [linesBody, if_neg (by omega)] at h
      cases h
    · obtain ⟨d, tail, hhead, hne, -⟩ := head_basicChar true c (linesBody 0 cs ++ rest)
      rw [linesBody_of_ne hquote, List.append_assoc, hhead] at h
      exact absurd (List.cons.inj h).1 hne

/-- Two quotes more after the first are the end of the text, or of its last quotes. -/
theorem replicate_of_linesBody {quotes : Nat} {cs rest more : List Char} (hpos : 0 < quotes)
    (hquotes : quotes ≤ 2) (h : linesBody quotes cs ++ rest = '"' :: '"' :: more) :
    ∃ n, quotes + n ≤ 2 ∧ cs = List.replicate n '"' := by
  cases cs with
  | nil => exact ⟨0, hquotes, rfl⟩
  | cons c cs =>
    by_cases hquote : c = '"'
    · subst hquote
      by_cases hlast : quotes < 2
      · obtain rfl : quotes = 1 := by omega
        rw [linesBody, if_pos hlast] at h
        have hnil := eq_nil_of_linesBody_two (List.cons.inj h).2
        exact ⟨1, Nat.le_refl 2, by rw [hnil]; rfl⟩
      · rw [linesBody, if_neg hlast] at h
        cases h
    · obtain ⟨d, tail, hhead, hne, -⟩ := head_basicChar true c (linesBody 0 cs ++ rest)
      rw [linesBody_of_ne hquote, List.append_assoc, hhead] at h
      exact absurd (List.cons.inj h).1 hne

theorem mlBasicString_linesBody {quotes : Nat} (hquotes : quotes ≤ 2) (cs : List Char)
    {rest : List Char} (hrest : rest.head? ≠ some '"') :
    mlBasicString false (linesBody quotes cs ++ '"' :: '"' :: '"' :: rest) = some (cs, rest) := by
  induction cs generalizing quotes with
  | nil => exact mlBasicString_fence (Nat.zero_le 2) hrest
  | cons c cs ih =>
    by_cases hquote : c = '"'
    · subst hquote
      by_cases hbare : quotes < 2
      · -- The last quotes of the text run into the fence and are read together with it.
        by_cases hend : ∃ n, quotes + 1 + n ≤ 2 ∧ cs = List.replicate n '"'
        · obtain ⟨n, hn, rfl⟩ := hend
          rw [← List.replicate_succ, linesBody_replicate (by omega)]
          exact mlBasicString_fence (by omega) hrest
        · rw [linesBody, if_pos hbare, List.cons_append, mlBasicString_quote, ih (by omega)]
          · rfl
          · intro more hmore
            exact hend (replicate_of_linesBody (by omega) (by omega) hmore)
      · rw [linesBody, if_neg hbare, List.cons_append, List.cons_append,
          mlBasicString_escape rfl, ih (by omega)]
        rfl
    · rw [linesBody_of_ne hquote, List.append_assoc, mlBasicString_basicChar, ih (by omega)]
      rfl

/-! ## Between three single quotes -/

theorem le_longestRun (c : Char) (run : Nat) (cs : List Char) : run ≤ longestRun c run cs := by
  induction cs generalizing run with
  | nil => exact Nat.le_refl run
  | cons d cs ih =>
    rw [longestRun]
    split
    · exact Nat.le_trans (Nat.le_succ run) (ih (run + 1))
    · exact Nat.le_max_left _ _

theorem longestRun_cons_self (c : Char) (run : Nat) (cs : List Char) :
    longestRun c run (c :: cs) = longestRun c (run + 1) cs := by
  rw [longestRun, if_pos rfl]

theorem longestRun_of_ne {c d : Char} (h : d ≠ c) (run : Nat) (cs : List Char) :
    longestRun c 0 cs ≤ longestRun c run (d :: cs) := by
  rw [longestRun, if_neg h]
  exact Nat.le_max_right _ _

theorem not_mem_of_longestRun {c : Char} {cs : List Char} (h : longestRun c 0 cs = 0) :
    c ∉ cs := by
  induction cs with
  | nil => exact List.not_mem_nil
  | cons d cs ih =>
    by_cases hd : d = c
    · subst hd
      have hle := le_longestRun d (0 + 1) cs
      rw [longestRun_cons_self] at h
      omega
    · have hle := longestRun_of_ne hd 0 cs
      rw [List.mem_cons, not_or]
      exact ⟨fun hc => hd hc.symm, ih (by omega)⟩

theorem mlLiteralString_plain {c : Char} (hescape : needsEscape c = false) (hquote : c ≠ '\'')
    (rest : List Char) : mlLiteralString (c :: rest) = push c (mlLiteralString rest) := by
  have hreturn := ne_return_of_plain hescape
  have hplain : c = '\n' ∨ isLiteralChar c = true := by
    by_cases hline : c = '\n'
    · exact Or.inl hline
    · exact Or.inr (by simp [isLiteralChar, isCommentChar_of_plain hescape hline, hquote])
  rw [mlLiteralString.eq_def]
  split <;> simp_all
  intro hline hliteral
  simp [hline, hliteral] at hplain

/-- In a text without three quotes in a row, two quotes after another one are its last. -/
theorem replicate_of_longestRun {quotes : Nat} {cs rest more : List Char} (hpos : 0 < quotes)
    (hrun : longestRun '\'' quotes cs ≤ 2)
    (h : cs ++ '\'' :: '\'' :: '\'' :: rest = '\'' :: '\'' :: more) :
    ∃ n, quotes + n ≤ 2 ∧ cs = List.replicate n '\'' := by
  have hle := le_longestRun '\'' quotes cs
  match cs, h with
  | [], _ => exact ⟨0, by omega, rfl⟩
  | [c], hcs =>
    obtain ⟨rfl, -⟩ := List.cons.inj hcs
    rw [longestRun_cons_self] at hrun
    exact ⟨1, hrun, rfl⟩
  | c :: d :: cs, hcs =>
    obtain ⟨rfl, htail⟩ := List.cons.inj hcs
    obtain ⟨rfl, -⟩ := List.cons.inj htail
    have hmore := le_longestRun '\'' (quotes + 1 + 1) cs
    rw [longestRun_cons_self, longestRun_cons_self] at hrun
    omega

theorem mlLiteralString_text {quotes : Nat} {cs : List Char}
    (hplain : ∀ c ∈ cs, needsEscape c = false) (hrun : longestRun '\'' quotes cs ≤ 2)
    {rest : List Char} (hrest : rest.head? ≠ some '\'') :
    mlLiteralString (cs ++ '\'' :: '\'' :: '\'' :: rest) = some (cs, rest) := by
  induction cs generalizing quotes with
  | nil => exact mlLiteralString_fence (Nat.zero_le 2) hrest
  | cons c cs ih =>
    have hrest' : ∀ d ∈ cs, needsEscape d = false := fun d hd => hplain d (List.mem_cons_of_mem c hd)
    by_cases hquote : c = '\''
    · subst hquote
      rw [longestRun_cons_self] at hrun
      by_cases hend : ∃ n, quotes + 1 + n ≤ 2 ∧ cs = List.replicate n '\''
      · obtain ⟨n, hn, rfl⟩ := hend
        rw [← List.replicate_succ]
        exact mlLiteralString_fence (by omega) hrest
      · rw [List.cons_append, mlLiteralString_quote, ih hrest' hrun]
        · rfl
        · intro more hmore
          exact hend (replicate_of_longestRun (by omega) hrun hmore)
    · have hzero := Nat.le_trans (longestRun_of_ne hquote quotes cs) hrun
      rw [List.cons_append, mlLiteralString_plain (hplain c List.mem_cons_self) hquote,
        ih hrest' hzero]
      rfl

/-! ## The six forms -/

theorem string?_of_double {rest : List Char} (h : ∀ more, rest ≠ '"' :: '"' :: more) :
    string? ('"' :: rest) = basicString rest := by
  unfold string?
  split <;> simp_all

theorem string?_of_single {rest : List Char} (h : ∀ more, rest ≠ '\'' :: '\'' :: more) :
    string? ('\'' :: rest) = literalString rest := by
  unfold string?
  split <;> simp_all

theorem dropNewline_of_ne {c : Char} (hline : c ≠ '\n') (hreturn : c ≠ '\r') (rest : List Char) :
    dropNewline (c :: rest) = c :: rest := by
  simp [dropNewline, newline?, hline, hreturn]

/-- The form between double quotes, with whatever escapes it takes. -/
theorem string?_basic (cs : List Char) {rest : List Char} (hrest : rest.head? ≠ some '"') :
    string? (['"'] ++ basicBody cs ++ ['"'] ++ rest) = some (cs, rest) := by
  have hshape : ['"'] ++ basicBody cs ++ ['"'] ++ rest = '"' :: (basicBody cs ++ '"' :: rest) := by
    simp
  rw [hshape, string?_of_double, basicString_basicBody]
  intro more hmore
  cases cs with
  | nil =>
    have htail : rest = '"' :: more := (List.cons.inj hmore).2
    rw [htail] at hrest
    exact hrest rfl
  | cons c cs =>
    obtain ⟨d, tail, hhead, hne, -⟩ := head_basicChar false c (basicBody cs ++ '"' :: rest)
    rw [basicBody, List.flatMap_cons, List.append_assoc, ← basicBody, hhead] at hmore
    exact hne (List.cons.inj hmore).1

theorem string?_literal {cs : List Char} (hplain : ∀ c ∈ cs, needsEscape c = false)
    (hquote : '\'' ∉ cs) (hline : '\n' ∉ cs) {rest : List Char} (hrest : rest.head? ≠ some '\'') :
    string? (['\''] ++ cs ++ ['\''] ++ rest) = some (cs, rest) := by
  have hshape : ['\''] ++ cs ++ ['\''] ++ rest = '\'' :: (cs ++ '\'' :: rest) := by simp
  have hliteral : ∀ c ∈ cs, isLiteralChar c = true := by
    intro c hc
    have hne : c ≠ '\n' := fun h => hline (h ▸ hc)
    have hne' : c ≠ '\'' := fun h => hquote (h ▸ hc)
    simp [isLiteralChar, isCommentChar_of_plain (hplain c hc) hne, hne']
  rw [hshape, string?_of_single, literalString_plain hliteral]
  intro more hmore
  cases cs with
  | nil =>
    have htail : rest = '\'' :: more := (List.cons.inj hmore).2
    rw [htail] at hrest
    exact hrest rfl
  | cons c cs => exact hquote (List.mem_cons.mpr (Or.inl (List.cons.inj hmore).1.symm))

theorem tripleQuoted_append (quote : Char) (cs body rest : List Char) :
    tripleQuoted quote cs body ++ rest = quote :: quote :: quote ::
      ((if cs.contains '\n' then ['\n'] else []) ++
        (body ++ quote :: quote :: quote :: rest)) := by
  simp [tripleQuoted, List.replicate]

/-- The line end after the fence is there to be dropped, or there is none. -/
theorem dropNewline_fenced {cs body : List Char}
    (h : '\n' ∉ cs → dropNewline body = body) :
    dropNewline ((if cs.contains '\n' then ['\n'] else []) ++ body) = body := by
  by_cases hlines : '\n' ∈ cs
  · simp [hlines, dropNewline, newline?]
  · simpa [hlines] using h hlines

theorem string?_tripleDouble (cs : List Char) {rest : List Char} (hrest : rest.head? ≠ some '"') :
    string? (tripleQuoted '"' cs (linesBody 0 cs) ++ rest) = some (cs, rest) := by
  rw [tripleQuoted_append]
  show mlBasicString false (dropNewline _) = _
  rw [dropNewline_fenced, mlBasicString_linesBody (Nat.zero_le 2) cs hrest]
  intro hline
  cases cs with
  | nil => exact dropNewline_of_ne (by decide) (by decide) _
  | cons c cs =>
    by_cases hquote : c = '"'
    · subst hquote
      rw [linesBody, if_pos (by omega)]
      exact dropNewline_of_ne (by decide) (by decide) _
    · obtain ⟨d, tail, hhead, -, hreturn, hnewline⟩ :=
        head_basicChar true c (linesBody 0 cs ++ '"' :: '"' :: '"' :: rest)
      rw [linesBody_of_ne hquote, List.append_assoc, hhead]
      refine dropNewline_of_ne (fun h => hline ?_) hreturn tail
      exact List.mem_cons.mpr (Or.inl (hnewline h).symm)

theorem string?_tripleSingle {cs : List Char} (hplain : ∀ c ∈ cs, needsEscape c = false)
    (hrun : longestRun '\'' 0 cs ≤ 2) {rest : List Char} (hrest : rest.head? ≠ some '\'') :
    string? (tripleQuoted '\'' cs cs ++ rest) = some (cs, rest) := by
  rw [tripleQuoted_append]
  show mlLiteralString (dropNewline _) = _
  rw [dropNewline_fenced, mlLiteralString_text hplain hrun hrest]
  intro hline
  cases cs with
  | nil => exact dropNewline_of_ne (by decide) (by decide) _
  | cons c cs =>
    refine dropNewline_of_ne (fun h => hline ?_) (ne_return_of_plain (hplain c List.mem_cons_self)) _
    exact List.mem_cons.mpr (Or.inl h.symm)

/-- Whatever its form, a text reads back, if no quote follows. -/
theorem string?_stringForm (cs : List Char) {rest : List Char} (hdouble : rest.head? ≠ some '"')
    (hsingle : rest.head? ≠ some '\'') : string? (stringForm cs ++ rest) = some (cs, rest) := by
  have hplain : cs.any needsEscape = false → ∀ c ∈ cs, needsEscape c = false := by
    intro h c hc
    exact Bool.not_eq_true _ ▸ List.any_eq_false.mp h c hc
  unfold stringForm
  simp only
  split
  · exact string?_basic cs hdouble
  · split
    · rename_i h
      simp only [Bool.and_eq_true, Bool.not_eq_true', beq_iff_eq, List.contains_eq_mem,
        decide_eq_false_iff_not] at h
      obtain ⟨⟨hcontrols, hnone⟩, hline⟩ := h
      exact string?_literal (hplain hcontrols) (not_mem_of_longestRun hnone) hline hsingle
    · split
      · exact string?_tripleDouble cs hdouble
      · split
        · rename_i h
          simp only [Bool.and_eq_true, Bool.not_eq_true', decide_eq_true_eq] at h
          exact string?_tripleSingle (hplain h.1) h.2 hsingle
        · split
          · exact string?_tripleDouble cs hdouble
          · exact string?_basic cs hdouble

end Toml

end CallBridge
