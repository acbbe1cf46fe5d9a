/-
Documents as they are written and read.

A document is written as tables of entries, one entry on a line, and an empty line stands between
two tables.  `parse?_renderTables` says that such a document reads back as its tables in order.
-/
import CallBridge.Proofs.WrittenStrings
import CallBridge.Toml.Document

namespace CallBridge

namespace Toml

/-! ## Values -/

/-- What an entry is written with. -/
inductive Datum where
  | text (text : String)
  | flag (b : Bool)
  | texts (texts : List String)

namespace Datum

def render : Datum → String
  | text s => renderString s
  | flag b => renderBoolean b
  | texts ss => renderStrings ss

def value : Datum → Value
  | text s => .string s
  | flag b => .boolean b
  | texts ss => .array (ss.map .string)

end Datum

theorem stringForm_cons (cs : List Char) :
    ∃ quote more, stringForm cs = quote :: more ∧ (quote = '"' ∨ quote = '\'') := by
  unfold stringForm
  simp only
  repeat' split
  all_goals exact ⟨_, _, rfl, by simp⟩

theorem value_string (depth : Nat) (text : String) {rest : List Char}
    (hdouble : rest.head? ≠ some '"') (hsingle : rest.head? ≠ some '\'') :
    value depth ((renderString text).toList ++ rest) = some (.string text, rest) := by
  have hread := string?_stringForm text.toList hdouble hsingle
  rw [renderString, String.toList_ofList]
  obtain ⟨quote, more, hform, hquote⟩ := stringForm_cons text.toList
  rw [hform] at hread ⊢
  rcases hquote with rfl | rfl <;> cases depth <;> simp_all [value, scalar, String.ofList_toList]

theorem value_boolean (depth : Nat) (b : Bool) (rest : List Char) :
    value depth ((renderBoolean b).toList ++ rest) = some (.boolean b, rest) := by
  cases b <;> cases depth <;> simp [value, scalar, renderBoolean]

theorem skipLayout_of_visible {c : Char} (hblank : isBlank c = false) (hline : c ≠ '\n')
    (hreturn : c ≠ '\r') (hcomment : c ≠ '#') (rest : List Char) :
    skipLayout false (c :: rest) = c :: rest := by
  rw [skipLayout.eq_def]
  split <;> simp_all

/-- One string of an array, and what follows it. -/
theorem arrayItems_string (depth fuel : Nat) (text : String) {rest : List Char}
    (hdouble : rest.head? ≠ some '"') (hsingle : rest.head? ≠ some '\'') :
    arrayItems (value depth) (fuel + 1) ((renderString text).toList ++ rest) =
      match skipLayout false rest with
      | ']' :: rest => some ([.string text], rest)
      | ',' :: rest =>
        (arrayItems (value depth) fuel rest).map fun (vs, rest) => (.string text :: vs, rest)
      | _ => none := by
  have hvalue := value_string depth text hdouble hsingle
  have hskip : skipLayout false ((renderString text).toList ++ rest) =
      (renderString text).toList ++ rest := by
    obtain ⟨quote, more, hform, hquote⟩ := stringForm_cons text.toList
    rw [renderString, String.toList_ofList, hform]
    rcases hquote with rfl | rfl <;> exact skipLayout_of_visible rfl (by decide) (by decide) (by decide) _
  have hopen : ∀ more, (renderString text).toList ++ rest ≠ ']' :: more := by
    obtain ⟨quote, more, hform, hquote⟩ := stringForm_cons text.toList
    rw [renderString, String.toList_ofList, hform]
    rintro tail htail
    rcases hquote with rfl | rfl <;> cases htail
  rw [arrayItems, hskip]
  split
  · rename_i htail
    exact absurd htail (hopen _)
  · simp only [hvalue, Option.bind_eq_bind, Option.bind_some]
    generalize skipLayout false rest = after
    split
    · rfl
    · rename_i more
      show _ = Option.map _ (arrayItems (value depth) fuel more)
      cases arrayItems (value depth) fuel more <;> rfl
    · simp_all

theorem arrayItems_blank (item : Reader Value) (fuel : Nat) (cs : List Char) :
    arrayItems item fuel (' ' :: cs) = arrayItems item fuel cs := by
  cases fuel with
  | zero => rfl
  | succ fuel =>
    rw [arrayItems, arrayItems]
    rfl

/-- The strings of an array from one of them on. -/
theorem arrayItems_texts (depth : Nat) (text : String) (texts : List String) {fuel : Nat}
    (hfuel : texts.length < fuel) (rest : List Char) :
    arrayItems (value depth) fuel
        ((", ".intercalate ((text :: texts).map renderString)).toList ++ ']' :: rest) =
      some ((text :: texts).map .string, rest) := by
  induction texts generalizing text fuel with
  | nil =>
    obtain ⟨fuel, rfl⟩ := Nat.exists_eq_succ_of_ne_zero (Nat.ne_of_gt hfuel)
    have hjoined : (", ".intercalate ([text].map renderString)).toList = (renderString text).toList := by
      simp
    rw [hjoined, arrayItems_string]
    · rfl
    · simp
    · simp
  | cons next texts ih =>
    obtain ⟨fuel, rfl⟩ := Nat.exists_eq_succ_of_ne_zero (Nat.ne_of_gt (Nat.zero_lt_of_lt hfuel))
    have hjoined : (", ".intercalate ((text :: next :: texts).map renderString)).toList ++ ']' :: rest =
        (renderString text).toList ++ (',' :: ' ' ::
          ((", ".intercalate ((next :: texts).map renderString)).toList ++ ']' :: rest)) := by
      simp
    rw [hjoined, arrayItems_string]
    · -- The blank after the comma belongs to the next item, whose reader skips it.
      show Option.map _ (arrayItems (value depth) fuel (' ' :: _)) = _
      rw [arrayItems_blank, ih next (Nat.lt_of_succ_lt_succ hfuel)]
      rfl
    · simp
    · simp

theorem length_le_intercalate (texts : List String) :
    texts.length ≤ (", ".intercalate (texts.map renderString)).toList.length + 1 := by
  induction texts with
  | nil => simp
  | cons text texts ih =>
    cases texts with
    | nil => simp
    | cons next texts =>
      simp at ih ⊢
      omega

theorem value_strings (depth : Nat) (texts : List String) (rest : List Char) :
    value (depth + 1) ((renderStrings texts).toList ++ rest) =
      some (.array (texts.map .string), rest) := by
  have hshape : (renderStrings texts).toList ++ rest =
      '[' :: ((", ".intercalate (texts.map renderString)).toList ++ ']' :: rest) := by
    simp [renderStrings]
  rw [hshape, value]
  cases texts with
  | nil => simp [arrayItems, skipLayout, isBlank]
  | cons text texts =>
    rw [arrayItems_texts]
    · rfl
    · have hlength := length_le_intercalate (text :: texts)
      simp only [List.length_cons, List.length_append] at hlength ⊢
      omega

theorem value_datum (depth : Nat) (d : Datum) (rest : List Char) :
    value (depth + 1) (d.render.toList ++ '\n' :: rest) = some (d.value, '\n' :: rest) := by
  cases d with
  | text s => exact value_string _ s (by simp) (by simp)
  | flag b => exact value_boolean _ b _
  | texts ss => exact value_strings depth ss _

/-! ## Lines -/

/-- A key that stands for itself. -/
def isBare (name : String) : Bool := !name.toList.isEmpty && name.toList.all isBareKeyChar

theorem ne_of_bare {c d : Char} (h : isBareKeyChar c = true) (hd : isBareKeyChar d = false) :
    c ≠ d := by
  rintro rfl
  rw [h] at hd
  cases hd

theorem not_blank_of_bare {c : Char} (h : isBareKeyChar c = true) : isBlank c = false := by
  have hspace : c ≠ ' ' := ne_of_bare h (by decide)
  have htab : c ≠ '\t' := ne_of_bare h (by decide)
  simp [isBlank, hspace, htab]

theorem isBare_cons {name : String} (h : isBare name = true) :
    ∃ c more, name.toList = c :: more ∧ isBareKeyChar c = true := by
  unfold isBare at h
  cases hchars : name.toList with
  | nil =>
    rw [hchars] at h
    cases h
  | cons c more =>
    rw [hchars] at h
    simp only [List.all_cons, Bool.and_eq_true] at h
    exact ⟨c, more, rfl, h.2.1⟩

theorem skipBlanks_of_visible {c : Char} (h : isBlank c = false) (rest : List Char) :
    skipBlanks (c :: rest) = c :: rest := by
  simp [skipBlanks, h]

theorem simpleKey_bare {name : String} (h : isBare name = true) {c : Char}
    (hc : isBareKeyChar c = false) (rest : List Char) :
    simpleKey (name.toList ++ c :: rest) = some (name, c :: rest) := by
  have hall : ∀ d ∈ name.toList, isBareKeyChar d = true := by
    simp only [isBare, Bool.and_eq_true, List.all_eq_true] at h
    exact h.2
  have htake : (name.toList ++ c :: rest).takeWhile isBareKeyChar = name.toList := by
    rw [List.takeWhile_append_of_pos hall, List.takeWhile_cons_of_neg (by simp [hc]), List.append_nil]
  have hdrop : (name.toList ++ c :: rest).dropWhile isBareKeyChar = c :: rest := by
    rw [List.dropWhile_append_of_pos hall, List.dropWhile_cons_of_neg (by simp [hc])]
  obtain ⟨first, more, hchars, hfirst⟩ := isBare_cons h
  have hdouble : first ≠ '"' := ne_of_bare hfirst (by decide)
  have hsingle : first ≠ '\'' := ne_of_bare hfirst (by decide)
  have hname : String.ofList (first :: more) = name := by rw [← hchars, String.ofList_toList]
  rw [hchars] at htake hdrop ⊢
  rw [List.cons_append] at htake hdrop ⊢
  simp [simpleKey, hdouble, hsingle, htake, hdrop, hname]

theorem keyRest_of_ne {cs : List Char} (h : cs.head? ≠ some '.') (fuel : Nat) :
    keyRest (fuel + 1) cs = some ([], cs) := by
  unfold keyRest
  split
  · exact absurd rfl h
  · rfl

theorem key_bare {name : String} (h : isBare name = true) {c : Char}
    (hc : isBareKeyChar c = false) {rest : List Char}
    (hrest : (skipBlanks (c :: rest)).head? ≠ some '.') :
    key (name.toList ++ c :: rest) = some (⟨[], name⟩, skipBlanks (c :: rest)) := by
  have hstart : skipBlanks (name.toList ++ c :: rest) = name.toList ++ c :: rest := by
    obtain ⟨first, more, hchars, hfirst⟩ := isBare_cons h
    rw [hchars]
    exact skipBlanks_of_visible (not_blank_of_bare hfirst) _
  have hend : keyRest (depthLimit - 1) (skipBlanks (c :: rest)) = some ([], skipBlanks (c :: rest)) :=
    keyRest_of_ne hrest _
  simp [key, hstart, simpleKey_bare h hc, hend]

theorem skipBlanks_datum (d : Datum) (rest : List Char) :
    skipBlanks (d.render.toList ++ rest) = d.render.toList ++ rest := by
  cases d with
  | text s =>
    obtain ⟨quote, more, hform, hquote⟩ := stringForm_cons s.toList
    rw [Datum.render, renderString, String.toList_ofList, hform]
    rcases hquote with rfl | rfl <;> rfl
  | flag b => cases b <;> rfl
  | texts ss =>
    have hrender : (Datum.texts ss).render.toList =
        '[' :: ((", ".intercalate (ss.map renderString)).toList ++ [']']) := by
      simp [Datum.render, renderStrings]
    rw [hrender]
    rfl

theorem statement_entry {name : String} (h : isBare name = true) (d : Datum) (rest : List Char) :
    statement (name.toList ++ ' ' :: '=' :: ' ' :: (d.render.toList ++ '\n' :: rest)) =
      some (.entry ⟨⟨[], name⟩, d.value⟩, '\n' :: rest) := by
  have hkey : key (name.toList ++ ' ' :: '=' :: ' ' :: (d.render.toList ++ '\n' :: rest)) =
      some (⟨[], name⟩, '=' :: ' ' :: (d.render.toList ++ '\n' :: rest)) :=
    key_bare h (by decide) (by simp [skipBlanks, isBlank])
  have hvalue : value (depthLimit - 1) (d.render.toList ++ '\n' :: rest) =
      some (d.value, '\n' :: rest) := value_datum _ d rest
  obtain ⟨first, more, hchars, hfirst⟩ := isBare_cons h
  have hbracket : first ≠ '[' := ne_of_bare hfirst (by decide)
  have hentry : entry (name.toList ++ ' ' :: '=' :: ' ' :: (d.render.toList ++ '\n' :: rest)) =
      some (⟨⟨[], name⟩, d.value⟩, '\n' :: rest) := by
    have hequals : skipBlanks ('=' :: ' ' :: (d.render.toList ++ '\n' :: rest)) =
        '=' :: ' ' :: (d.render.toList ++ '\n' :: rest) := rfl
    have hskip : skipBlanks (' ' :: (d.render.toList ++ '\n' :: rest)) =
        d.render.toList ++ '\n' :: rest := skipBlanks_datum d _
    simp [entry, entryOf, hkey, hequals, hskip, hvalue]
  rw [hchars, List.cons_append] at hentry ⊢
  simp [statement, hbracket, hentry]

theorem statement_header {name : String} (h : isBare name = true) (rest : List Char) :
    statement ('[' :: (name.toList ++ ']' :: '\n' :: rest)) =
      some (.header ⟨⟨[], name⟩, false⟩, '\n' :: rest) := by
  have hkey : key (name.toList ++ ']' :: '\n' :: rest) = some (⟨[], name⟩, ']' :: '\n' :: rest) :=
    key_bare h (by decide) (by simp [skipBlanks, isBlank])
  have hheader : header false (name.toList ++ ']' :: '\n' :: rest) =
      some (⟨⟨[], name⟩, false⟩, '\n' :: rest) := by
    simp [header, hkey, word]
  obtain ⟨first, more, hchars, hfirst⟩ := isBare_cons h
  have hbracket : first ≠ '[' := ne_of_bare hfirst (by decide)
  rw [hchars, List.cons_append] at hheader ⊢
  simp [statement, hbracket, hheader]

theorem skipBlanks_of_start {c : Char} (hc : isBareKeyChar c = true ∨ c = '[') (rest : List Char) :
    skipBlanks (c :: rest) = c :: rest := by
  rcases hc with hbare | rfl
  · exact skipBlanks_of_visible (not_blank_of_bare hbare) rest
  · exact skipBlanks_of_visible rfl rest

/-- A line that starts with a key or a bracket is not empty. -/
theorem lineTrailing?_of_start {c : Char} (hc : isBareKeyChar c = true ∨ c = '[')
    (rest : List Char) : lineTrailing? (c :: rest) = none := by
  have hne : ∀ d, d ≠ '[' → isBareKeyChar d = false → c ≠ d := by
    intro d hbracket hd
    rcases hc with hbare | rfl
    · exact ne_of_bare hbare hd
    · exact hbracket.symm
  have hcomment : c ≠ '#' := hne '#' (by decide) (by decide)
  have hline : c ≠ '\n' := hne '\n' (by decide) (by decide)
  have hreturn : c ≠ '\r' := hne '\r' (by decide) (by decide)
  rw [lineTrailing?, skipBlanks_of_start hc]
  simp [lineEnd?, newline?, hcomment, hline, hreturn]

/-- What a text says, line by line.  A line takes one unit of fuel and a character at least, so
that any fuel above the length will do. -/
def Says (cs : List Char) (lines : List Statement) : Prop :=
  ∀ fuel, cs.length < fuel → statements fuel cs = some lines

namespace Says

theorem nil : Says [] [] := by
  intro fuel hfuel
  cases fuel with
  | zero => cases hfuel
  | succ fuel => rfl

theorem blank {rest : List Char} {lines : List Statement} (h : Says rest lines) :
    Says ('\n' :: rest) lines := by
  intro fuel hfuel
  cases fuel with
  | zero => cases hfuel
  | succ fuel => exact h fuel (Nat.lt_of_succ_lt_succ hfuel)

theorem line {c : Char} {cs rest : List Char} {s : Statement} {lines : List Statement}
    (hc : isBareKeyChar c = true ∨ c = '[')
    (hread : statement (c :: cs) = some (s, '\n' :: rest)) (hshort : rest.length < cs.length)
    (h : Says rest lines) : Says (c :: cs) (s :: lines) := by
  intro fuel hfuel
  cases fuel with
  | zero => cases hfuel
  | succ fuel =>
    have hend : lineTrailing? ('\n' :: rest) = some rest := rfl
    have hlater : statements fuel rest = some lines := by
      apply h
      simp only [List.length_cons] at hfuel
      omega
    rw [statements, lineTrailing?_of_start hc, skipBlanks_of_start hc]
    · simp [hread, hend, hlater]
    · simp

theorem entry {name : String} (hname : isBare name = true) (d : Datum) {rest : List Char}
    {lines : List Statement} (h : Says rest lines) :
    Says ((renderEntry name d.render).toList ++ rest) (.entry ⟨⟨[], name⟩, d.value⟩ :: lines) := by
  have hshape : (renderEntry name d.render).toList ++ rest =
      name.toList ++ ' ' :: '=' :: ' ' :: (d.render.toList ++ '\n' :: rest) := by
    simp [renderEntry, toString]
  have hread := statement_entry hname d rest
  obtain ⟨c, more, hchars, hc⟩ := isBare_cons hname
  rw [hshape, hchars, List.cons_append]
  rw [hchars, List.cons_append] at hread
  refine line (Or.inl hc) hread ?_ h
  simp only [List.length_append, List.length_cons]
  omega

theorem header {name : String} (hname : isBare name = true) {rest : List Char}
    {lines : List Statement} (h : Says rest lines) :
    Says ('[' :: (name.toList ++ ']' :: '\n' :: rest)) (.header ⟨⟨[], name⟩, false⟩ :: lines) := by
  refine line (Or.inr rfl) (statement_header hname rest) ?_ h
  simp only [List.length_append, List.length_cons]
  omega

end Says

/-! ## Tables -/

def plainEntry (e : String × Datum) : Entry := ⟨⟨[], e.1⟩, e.2.value⟩

/-- A table as it is written: bare keys, all different, under a bare name. -/
structure PlainTable where
  name : String
  entries : List (String × Datum)
  bareName : isBare name = true
  bareKeys : ∀ e ∈ entries, isBare e.1 = true
  distinct : (entries.map Prod.fst).Nodup

namespace PlainTable

def render (t : PlainTable) : String :=
  renderTable t.name (t.entries.map fun e => renderEntry e.1 e.2.render)

def values (t : PlainTable) : List (String × Value) := t.entries.map fun e => (e.1, e.2.value)

def header (t : PlainTable) : Header := ⟨⟨[], t.name⟩, false⟩

/-- The lines of a table. -/
def lines (t : PlainTable) : List Statement :=
  .header t.header :: t.entries.map fun e => .entry (plainEntry e)

end PlainTable

theorem Says.entries {entries : List (String × Datum)} (hbare : ∀ e ∈ entries, isBare e.1 = true)
    {rest : List Char} {lines : List Statement} (h : Says rest lines) :
    Says ((String.join (entries.map fun e => renderEntry e.1 e.2.render)).toList ++ rest)
      (entries.map (fun e => .entry (plainEntry e)) ++ lines) := by
  induction entries with
  | nil => simpa using h
  | cons e entries ih =>
    have hlater := ih fun other hother => hbare other (List.mem_cons_of_mem e hother)
    have hfirst := hlater.entry (hbare e List.mem_cons_self) e.2
    simpa [plainEntry] using hfirst

theorem Says.table (t : PlainTable) {rest : List Char} {lines : List Statement}
    (h : Says rest lines) : Says (t.render.toList ++ rest) (t.lines ++ lines) := by
  have hheader := (h.entries t.bareKeys).header t.bareName
  simpa [PlainTable.render, renderTable, PlainTable.lines, PlainTable.header, toString] using hheader

theorem Says.tables (tables : List PlainTable) :
    Says (renderTables (tables.map PlainTable.render)).toList (tables.flatMap PlainTable.lines) := by
  induction tables with
  | nil => exact Says.nil
  | cons t tables ih =>
    cases tables with
    | nil =>
      have hlast := Says.nil.table t
      simpa [renderTables] using hlast
    | cons next tables =>
      have hfirst := ih.blank.table t
      simpa [renderTables] using hfirst

/-! ## Documents -/

theorem entryValues_eq_map (entries : List (String × Item)) :
    entryValues entries = entries.map fun e => (e.1, e.2.toValue) := by
  induction entries with
  | nil => rfl
  | cons e entries ih => simp [entryValues, ih]

theorem Table.find?_eq_none {t : Table} {name : String} (h : name ∉ t.entries.map Prod.fst) :
    t.find? name = none := by
  rw [Table.find?, List.lookup_eq_none_iff]
  intro e he
  rw [bne_iff_ne]
  rintro rfl
  exact h (List.mem_map_of_mem he)

theorem Table.put_new {t : Table} {name : String} (h : name ∉ t.entries.map Prod.fst) (i : Item) :
    t.put name i = { t with entries := t.entries ++ [(name, i)] } := by
  rw [Table.put, Table.find?_eq_none h]
  rfl

/-- Steps that add an item under a key of its own each add all their items. -/
theorem Table.foldlM_append {α : Type} {add : Table → α → Option Table} {item : α → String × Item}
    (hadd : ∀ t a, t.dotted = false → (item a).1 ∉ t.entries.map Prod.fst →
      add t a = some { t with entries := t.entries ++ [item a] })
    (t : Table) (as : List α) (hdotted : t.dotted = false)
    (hnodup : (t.entries.map Prod.fst ++ as.map fun a => (item a).1).Nodup) :
    as.foldlM add t = some { t with entries := t.entries ++ as.map item } := by
  induction as generalizing t with
  | nil => simp
  | cons a as ih =>
    have hnew : (item a).1 ∉ t.entries.map Prod.fst := by
      intro hmem
      exact (List.nodup_append.mp hnodup).2.2 _ hmem _ List.mem_cons_self rfl
    rw [List.foldlM_cons, hadd t a hdotted hnew]
    have hlater := ih { t with entries := t.entries ++ [item a] } hdotted (by simpa using hnodup)
    simpa using hlater

theorem Table.set_plain (t : Table) (e : String × Datum) (hdotted : t.dotted = false)
    (hnew : e.1 ∉ t.entries.map Prod.fst) :
    t.set (plainEntry e) = some { t with entries := t.entries ++ [(e.1, .value e.2.value)] } := by
  simp [Table.set, Table.update, plainEntry, hdotted, Table.find?_eq_none hnew, Table.put_new hnew]

theorem Table.setAll_plain (t : PlainTable) :
    Table.empty.setAll (t.entries.map plainEntry) =
      some { Table.empty with entries := t.entries.map fun e => (e.1, .value e.2.value) } := by
  rw [Table.setAll, List.foldlM_map]
  exact Table.foldlM_append Table.set_plain Table.empty t.entries rfl t.distinct

/-- The entries of a table where a document keeps them. -/
def PlainTable.item (t : PlainTable) : String × Item :=
  (t.name, .table false false (t.entries.map fun e => (e.1, .value e.2.value)))

theorem Table.addSection_plain (root : Table) (t : PlainTable)
    (hnew : t.name ∉ root.entries.map Prod.fst) :
    root.addSection t.header (t.entries.map plainEntry) =
      some { root with entries := root.entries ++ [t.item] } := by
  simp [Table.addSection, Table.update, PlainTable.header, PlainTable.item, Table.item,
    Table.find?_eq_none hnew, Table.put_new hnew, Table.setAll_plain]
  simp [Table.empty]

theorem sections_entries (entries : List (String × Datum)) (lines : List Statement) :
    sections (entries.map (fun e => .entry (plainEntry e)) ++ lines) =
      (entries.map plainEntry ++ (sections lines).1, (sections lines).2) := by
  induction entries with
  | nil => rfl
  | cons e entries ih => simp [sections, ih]

theorem sections_tables (tables : List PlainTable) :
    sections (tables.flatMap PlainTable.lines) =
      ([], tables.map fun t => (t.header, t.entries.map plainEntry)) := by
  induction tables with
  | nil => rfl
  | cons t tables ih => simp [PlainTable.lines, sections, sections_entries, ih]

/-- Tables with different names make a document of their own. -/
theorem ofStatements?_tables {tables : List PlainTable}
    (hnodup : (tables.map PlainTable.name).Nodup) :
    Table.ofStatements? (tables.flatMap PlainTable.lines) =
      some { Table.empty with entries := tables.map PlainTable.item } := by
  rw [Table.ofStatements?, sections_tables]
  show List.foldlM _ Table.empty (tables.map _) = _
  rw [List.foldlM_map]
  exact Table.foldlM_append (fun root t _ => Table.addSection_plain root t) Table.empty tables rfl hnodup

theorem dropMark_tables (tables : List PlainTable) :
    dropMark (renderTables (tables.map PlainTable.render)).toList =
      (renderTables (tables.map PlainTable.render)).toList := by
  cases tables with
  | nil => rfl
  | cons t tables =>
    have hbracket : ∃ more,
        (renderTables ((t :: tables).map PlainTable.render)).toList = '[' :: more := by
      cases tables <;> simp [renderTables, PlainTable.render, renderTable, toString]
    obtain ⟨more, hmore⟩ := hbracket
    rw [hmore]
    rfl

/-- A written document reads back as its tables, each with its entries. -/
theorem parse?_renderTables {tables : List PlainTable}
    (hnodup : (tables.map PlainTable.name).Nodup) :
    parse? (renderTables (tables.map PlainTable.render)) =
      some (tables.map fun t => (t.name, .table t.values)) := by
  have hlines := Says.tables tables _ (Nat.lt_succ_self _)
  have hvalues : entryValues (tables.map PlainTable.item) =
      tables.map fun t => (t.name, .table t.values) := by
    simp [entryValues_eq_map, PlainTable.item, PlainTable.values, Item.toValue]
  simp [parse?, dropMark_tables, hlines, ofStatements?_tables hnodup, Table.values, hvalues]

end Toml

end CallBridge
