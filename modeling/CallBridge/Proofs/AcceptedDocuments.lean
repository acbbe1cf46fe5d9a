/-
What is left out of accepted documents.

A section may be written as an array, which then reads as the table of its elements under the names
of the fields.  Where there are more elements than fields the rest is dropped, and by
`only_surplus_elements_ignored` nothing else is: every key that the statements of an accepted
document mention, in whatever notation, and every other element is in the settings.
-/
import CallBridge.Proofs.SchemaAcceptance

namespace CallBridge

namespace Toml

/-! ## Below a key -/

theorem rowValues_eq_map (rows : List (List (String × Item))) :
    rowValues rows = rows.map fun row => .table (entryValues row) := by
  induction rows with
  | nil => rfl
  | cons row rows ih => rw [rowValues, ih, List.map_cons]

variable {text : String} {lines : List Statement} {entries : List (String × Value)}

/-- What is mentioned below a key stands in a table there, or there are the tables of a repeated
header. -/
theorem mem_below_of_parse (hlines : lines? text = some lines) (hparse : parse? text = some entries)
    {s : String} {m : Mention} (hm : m ∈ mentions [s] [] lines) :
    (∃ held v, entries.lookup s = some (.table held) ∧ (m.key, v) ∈ held ∧
        Datum.ofValue? v = m.datum) ∨
      ∃ items, entries.lookup s = some (.array items) ∧ ∀ v ∈ items, ∃ held, v = .table held := by
  rw [parse?_eq, hlines, Option.bind_some, Option.map_eq_some_iff] at hparse
  obtain ⟨t, ht, rfl⟩ := hparse
  have hshown := shown_of_statements ht fun e he => distinct_of_statements hlines he
  have hreflects : Reflects t s (mentions [s] [] lines) := hshown.reflects s
  have hmem : ∀ {l : Level}, Level.Run [] (mentions [s] [] lines) l → (m.key, m.datum) ∈ l :=
    fun hrun => (hrun.mem List.nodup_nil _).mpr (Or.inr ⟨m, hm, rfl⟩)
  have hlevel : ∀ {held}, (m.key, m.datum) ∈ levelOf held →
      ∃ v, (m.key, v) ∈ held ∧ Datum.ofValue? v = m.datum := by
    intro held h
    simpa [levelOf] using h
  rw [lookup_values]
  generalize mentions [s] [] lines = ms at hm hreflects hmem
  cases hreflects with
  | absent => cases hm
  | @given _ v hfind hrun =>
    rw [hfind, Option.map_some, Item.toValue]
    cases v with
    | table held =>
      obtain ⟨v, hv, hdatum⟩ := hlevel (hmem hrun)
      exact Or.inl ⟨held, v, rfl, hv, hdatum⟩
    | _ => cases hmem hrun
  | built hfind hsound hrun =>
    obtain ⟨v, hv, hdatum⟩ := hlevel (hmem hrun)
    rw [hfind, Option.map_some, Item.toValue]
    exact Or.inl ⟨_, v, rfl, hv, hdatum⟩
  | rows hfind =>
    rw [hfind, Option.map_some, Item.toValue, rowValues_eq_map]
    refine Or.inr ⟨_, rfl, fun v hv => ?_⟩
    obtain ⟨row, -, rfl⟩ := List.mem_map.mp hv
    exact ⟨_, rfl⟩

end Toml

namespace Config

open Toml (Value Datum Statement)

/-! ## Sections that are arrays -/

theorem zip_take_length {α β : Type} (l : List α) (r : List β) :
    l.zip (r.take l.length) = l.zip r := by
  induction l generalizing r with
  | nil => rfl
  | cons a l ih =>
    cases r with
    | nil => rfl
    | cons b r =>
      rw [List.length_cons, List.take_succ_cons, List.zip_cons_cons, List.zip_cons_cons, ih]

namespace Schema

variable {α : Type} (s : Schema α) {items : List Value} {a : α} {v : Value}

theorem decode_array (h : s.fields.length ≤ items.length) :
    s.decode (.array items) = s.decode (.table (s.fields.zip items)) := by
  show s.ofItems items = s.ofEntries (s.fields.zip items)
  simp only [ofItems, if_neg (Nat.not_lt.mpr h), bind_pure]

/-- Elements without a field make no difference. -/
theorem decode_take (items : List Value) :
    s.decode (.array (items.take s.fields.length)) = s.decode (.array items) := by
  rcases Nat.lt_or_ge items.length s.fields.length with hshort | hlong
  · rw [List.take_of_length_le (Nat.le_of_lt hshort)]
  · have htaken : s.fields.length ≤ (items.take s.fields.length).length := by
      rw [List.length_take]
      omega
    rw [decode_array s htaken, zip_take_length, decode_array s hlong]

/-- Only tables, and arrays with an element for each field, are decoded. -/
theorem form_of_decode (h : s.decode v = .ok a) :
    (∃ held, v = .table held) ∨ ∃ items, v = .array items ∧ s.fields.length ≤ items.length := by
  cases v with
  | table held => exact Or.inl ⟨held, rfl⟩
  | array items =>
    refine Or.inr ⟨items, rfl, ?_⟩
    obtain ⟨a', -, h⟩ := bind_eq_ok (show s.ofItems items = .ok a from h)
    split at h
    · cases h
    · omega
  | _ => cases h

theorem take_eq_ok {k : String} {a' : α} (h : s.take a k v = .ok a') :
    k ∈ s.fields ∧ s.set a k v = .ok a' := by
  unfold take at h
  split at h
  · rename_i hknown
    exact ⟨by simpa using hknown, h⟩
  · cases h

theorem take_congr {k : String} {w : Value} (h : k ∈ s.fields → s.set a k v = s.set a k w) :
    s.take a k v = s.take a k w := by
  unfold take
  split
  · rename_i hknown
    exact h (by simpa using hknown)
  · rfl

end Schema

theorem section_of_mem {s : String} (hs : s ∈ settingsSchema.fields) :
    s = "call" ∨ s = "callbacks" ∨ s = "loader" := by
  simpa [settingsSchema] using hs

/-- A section as a table, if its array has an element for each field. -/
def asTable (s : String) : Value → Value
  | .array items =>
    if (fieldsOf s).length ≤ items.length then .table ((fieldsOf s).zip items) else .array items
  | v => v

/-- A section without the elements that have no field. -/
def trimmed (s : String) : Value → Value
  | .array items => .array (items.take (fieldsOf s).length)
  | v => v

def mapSections (change : String → Value → Value) (entries : List (String × Value)) :
    List (String × Value) :=
  entries.map fun e => (e.1, change e.1 e.2)

theorem keys_mapSections (change : String → Value → Value) (entries : List (String × Value)) :
    (mapSections change entries).map Prod.fst = entries.map Prod.fst := by
  rw [mapSections, List.map_map]
  rfl

/-- No schema with the fields of the section tells the two values apart. -/
def SameSection (s : String) (v w : Value) : Prop :=
  ∀ (α : Type) (schema : Schema α), schema.fields = fieldsOf s → schema.decode v = schema.decode w

theorem SameSection.take_eq {s : String} {v w : Value} (h : SameSection s v w) (a : Settings) :
    settingsSchema.take a s v = settingsSchema.take a s w := by
  refine settingsSchema.take_congr fun hs => ?_
  rcases section_of_mem hs with rfl | rfl | rfl
  · exact congrArg (· >>= _) (h _ callSchema rfl)
  · exact congrArg (· >>= _) (h _ callbackSchema rfl)
  · exact congrArg (· >>= _) (h _ loaderSchema rfl)

theorem ofEntries_mapSections {change : String → Value → Value}
    (h : ∀ s v, SameSection s (change s v) v) (entries : List (String × Value)) :
    settingsSchema.ofEntries (mapSections change entries) = settingsSchema.ofEntries entries := by
  unfold Schema.ofEntries mapSections
  rw [List.foldlM_map]
  congr 1
  funext a e
  exact (h e.1 e.2).take_eq a

theorem sameSection_asTable (s : String) (v : Value) : SameSection s (asTable s v) v := by
  intro α schema hfields
  cases v with
  | array items =>
    by_cases hlong : (fieldsOf s).length ≤ items.length
    · rw [asTable, if_pos hlong, ← hfields]
      exact (schema.decode_array (hfields ▸ hlong)).symm
    · rw [asTable, if_neg hlong]
  | _ => rfl

theorem sameSection_trimmed (s : String) (v : Value) : SameSection s (trimmed s v) v := by
  intro α schema hfields
  cases v with
  | array items =>
    rw [trimmed, ← hfields]
    exact schema.decode_take items
  | _ => rfl

/-! ## Accepted documents -/

theorem step_of_foldlM_eq_ok {ε α β : Type} {f : α → β → Except ε α} {l : List β} {a a' : α}
    (h : l.foldlM f a = .ok a') {b : β} (hb : b ∈ l) : ∃ c c', f c b = .ok c' := by
  induction l generalizing a with
  | nil => cases hb
  | cons b' l ih =>
    rw [List.foldlM_cons] at h
    obtain ⟨c, hc, h⟩ := bind_eq_ok h
    rcases List.mem_cons.mp hb with rfl | hb
    · exact ⟨a, c, hc⟩
    · exact ih h hb

theorem asTable_eq_table {s : String} {v : Value} {held : List (String × Value)}
    (h : asTable s v = .table held) :
    v = .table held ∨ ∃ items, v = .array items ∧ (fieldsOf s).length ≤ items.length ∧
      held = (fieldsOf s).zip items := by
  cases v with
  | table given => exact Or.inl h
  | array items =>
    by_cases hlong : (fieldsOf s).length ≤ items.length
    · rw [asTable, if_pos hlong] at h
      exact Or.inr ⟨items, rfl, hlong, (Value.table.inj h).symm⟩
    · rw [asTable, if_neg hlong] at h
      cases h
  | _ => cases h

theorem asTable_of_decode {α : Type} (schema : Schema α) {s : String}
    (hfields : schema.fields = fieldsOf s) {v : Value} {a : α} (h : schema.decode v = .ok a) :
    ∃ held, asTable s v = .table held := by
  rcases schema.form_of_decode h with ⟨held, rfl⟩ | ⟨items, rfl, hlong⟩
  · exact ⟨held, rfl⟩
  · rw [hfields] at hlong
    exact ⟨_, if_pos hlong⟩

theorem asTable_of_set {s : String} (hs : s ∈ settingsSchema.fields) {v : Value} {a a' : Settings}
    (h : settingsSchema.set a s v = .ok a') : ∃ held, asTable s v = .table held := by
  rcases section_of_mem hs with rfl | rfl | rfl
  · obtain ⟨_, hdecode, -⟩ := bind_eq_ok h
    exact asTable_of_decode callSchema rfl hdecode
  · obtain ⟨_, hdecode, -⟩ := bind_eq_ok h
    exact asTable_of_decode callbackSchema rfl hdecode
  · obtain ⟨_, hdecode, -⟩ := bind_eq_ok h
    exact asTable_of_decode loaderSchema rfl hdecode

theorem nodup_fieldsOf (s : String) : (fieldsOf s).Nodup := by
  unfold fieldsOf
  split <;> decide

/-- A section has a field of this name, and the settings say there what the value does. -/
def Settings.Shows (st : Settings) (s k : String) (v : Value) : Prop :=
  k ∈ fieldsOf s ∧ ∃ given, Datum.ofValue? v = some given ∧ st.field? s k = some given

section Accepted

variable {lines : List Statement} {entries : List (String × Value)} {st : Settings} {s : String}
  {v : Value}

theorem sectionTable_asTable (h : Toml.Assembled lines entries) (he : (s, v) ∈ entries)
    {held : List (String × Value)} (hheld : asTable s v = .table held) :
    SectionTable (asTable s v) := by
  refine ⟨held, hheld, ?_⟩
  have hlookup := (Toml.lookup_eq_some_of_nodup (nodup_keys h)).mpr he
  rcases asTable_eq_table hheld with rfl | ⟨items, rfl, hlong, rfl⟩
  · have hunder : Toml.heldUnder entries s = held := by simp [Toml.heldUnder, hlookup]
    have hrun := h.below s fun w hw => ⟨held, Option.some.inj (hw.symm.trans hlookup)⟩
    rw [hunder] at hrun
    rw [← keys_levelOf]
    exact hrun.nodup List.nodup_nil
  · rw [List.map_fst_zip hlong]
    exact nodup_fieldsOf s

theorem form_of_ofEntries (hok : settingsSchema.ofEntries entries = .ok st)
    (he : (s, v) ∈ entries) : s ∈ settingsSchema.fields ∧ ∃ held, asTable s v = .table held := by
  obtain ⟨a, a', htake⟩ := step_of_foldlM_eq_ok hok he
  obtain ⟨hs, hset⟩ := settingsSchema.take_eq_ok htake
  exact ⟨hs, asTable_of_set hs hset⟩

/-- What the decoder meets is the same with tables in the place of arrays. -/
theorem meets_asTable (h : Toml.Assembled lines entries)
    (hok : settingsSchema.ofEntries entries = .ok st) :
    ∀ e ∈ mapSections asTable entries, SectionTable e.2 := by
  intro e hmapped
  obtain ⟨⟨s, v⟩, he, rfl⟩ := List.mem_map.mp hmapped
  obtain ⟨-, held, hheld⟩ := form_of_ofEntries hok he
  exact sectionTable_asTable h he hheld

theorem shows_of_section {held : List (String × Value)} (hdistinct : (held.map Prod.fst).Nodup)
    (hfine : sectionOffences s (.table held) = [])
    (hsection : st.section? s = readSection (.table held)) {k : String} {w : Value}
    (hw : (k, w) ∈ held) : st.Shows s k w := by
  obtain ⟨hk, hfield⟩ := entryOffences_eq_nil.mp (List.flatMap_eq_nil_iff.mp hfine _ hw)
  obtain ⟨given, hgiven, -⟩ := Kind.offences_eq_nil.mp hfield
  refine ⟨hk, given, hgiven, ?_⟩
  rw [Settings.field?, hsection, readSection, Option.bind_some]
  show (held.lookup k).bind Datum.ofValue? = some given
  rw [(Toml.lookup_eq_some_of_nodup hdistinct).mpr hw, Option.bind_some, hgiven]

/-- An accepted section is a table, as it stands or of the elements of an array, and the settings
show every entry of it. -/
theorem shows_of_ofEntries (h : Toml.Assembled lines entries)
    (hok : settingsSchema.ofEntries entries = .ok st) (he : (s, v) ∈ entries) :
    s ∈ settingsSchema.fields ∧ (st.section? s).isSome = true ∧
      ∃ held, asTable s v = .table held ∧ ∀ k w, (k, w) ∈ held → st.Shows s k w := by
  have hmeets := meets_asTable h hok
  have hnodup : ((mapSections asTable entries).map Prod.fst).Nodup := by
    rw [keys_mapSections]
    exact nodup_keys h
  have hmapped := (ofEntries_mapSections sameSection_asTable entries).trans hok
  obtain ⟨hs, held, hheld⟩ := form_of_ofEntries hok he
  have hmem : (s, Value.table held) ∈ mapSections asTable entries :=
    List.mem_map.mpr ⟨(s, v), he, by rw [← hheld]⟩
  have hsection := settingsSchema_takes.holds_ofEntries (fun e he _ => hmeets e he) hnodup hmapped s
  rw [(Toml.lookup_eq_some_of_nodup hnodup).mpr hmem, Option.bind_some] at hsection
  have hreports := settingsSchema_takes.ofEntries_reports fun e he _ => hmeets e he
  have hnone := hreports.ok_iff.mp ⟨st, hmapped⟩
  have hfine := (entryOffences_eq_nil.mp (List.flatMap_eq_nil_iff.mp hnone _ hmem)).2
  obtain ⟨held', hheld', hdistinct⟩ := hmeets _ hmem
  obtain rfl : held = held' := Value.table.inj hheld'
  exact ⟨hs, by rw [hsection]; rfl, held, hheld, fun k w => shows_of_section hdistinct hfine hsection⟩

/-- Settings show all of a section: every entry of a table, and of an array every element for which
there is a field. -/
inductive Settings.ShowsSection (st : Settings) (s : String) : Value → Prop
  | table {held : List (String × Value)} (h : ∀ k v, (k, v) ∈ held → st.Shows s k v) :
      ShowsSection st s (.table held)
  | array {items : List Value} (hlong : (fieldsOf s).length ≤ items.length)
      (h : ∀ (i : Nat) k v, (fieldsOf s)[i]? = some k → items[i]? = some v → st.Shows s k v) :
      ShowsSection st s (.array items)

theorem showsSection_of_asTable {held : List (String × Value)} (hheld : asTable s v = .table held)
    (h : ∀ k w, (k, w) ∈ held → st.Shows s k w) : st.ShowsSection s v := by
  rcases asTable_eq_table hheld with rfl | ⟨items, rfl, hlong, rfl⟩
  · exact .table h
  · refine .array hlong fun i k v hk hv => h k v ?_
    exact List.mem_of_getElem? (List.getElem?_zip_eq_some.mpr ⟨hk, hv⟩)

/-- An accepted array begins with something that is no table. -/
theorem Settings.ShowsSection.not_rows {items : List Value} (hs : s ∈ settingsSchema.fields)
    (h : st.ShowsSection s (.array items)) : ¬∀ v ∈ items, ∃ held, v = .table held := by
  intro hrows
  cases h with
  | array hlong hshows =>
    have hfields : 0 < (fieldsOf s).length := by
      rcases section_of_mem hs with rfl | rfl | rfl <;> decide
    have hitems : 0 < items.length := Nat.lt_of_lt_of_le hfields hlong
    obtain ⟨held, hheld⟩ := hrows _ (List.getElem_mem hitems)
    obtain ⟨-, given, hgiven, -⟩ := hshows 0 _ _ (List.getElem?_eq_getElem hfields)
      (List.getElem?_eq_getElem hitems)
    rw [hheld] at hgiven
    cases hgiven

end Accepted

/-! ## The verdict -/

/-- The statements mention a key for which there is no field.  Below a field there is none for
anything, so that a table that stands there is one too many. -/
inductive Unknown (lines : List Statement) : Prop
  | inDocument {s : String} (h : Mentioned lines s) (hs : s ∉ settingsSchema.fields)
  | inSection {s k : String} {d : Option Datum} (h : Gives lines s k d) (hk : k ∉ fieldsOf s)
  | belowField {s k : String} (h : Gives lines s k none)

/-- Nothing of a document is missing in the settings, but for elements without a field. -/
structure Reflected (lines : List Statement) (entries : List (String × Value)) (st : Settings) :
    Prop where
  sections : ∀ s, Mentioned lines s → s ∈ settingsSchema.fields ∧ (st.section? s).isSome = true
  fields : ∀ s k d, Gives lines s k d →
    k ∈ fieldsOf s ∧ ∃ given, d = some given ∧ st.field? s k = some given
  values : ∀ s v, (s, v) ∈ entries → st.ShowsSection s v

section Verdict

variable {text : String} {lines : List Statement} {entries : List (String × Value)} {st : Settings}

theorem Reflected.not_unknown (h : Reflected lines entries st) : ¬Unknown lines := by
  rintro (⟨hmentioned, hs⟩ | ⟨hgives, hk⟩ | hgives)
  · exact hs (h.sections _ hmentioned).1
  · exact hk (h.fields _ _ _ hgives).1
  · obtain ⟨-, given, hgiven, -⟩ := h.fields _ _ _ hgives
    cases hgiven

theorem reflected_of_ofEntries (hlines : Toml.lines? text = some lines)
    (hparse : Toml.parse? text = some entries) (hok : settingsSchema.ofEntries entries = .ok st) :
    Reflected lines entries st := by
  have hassembled := Toml.assembled_of_parse hlines hparse
  have hmem : ∀ {s v}, entries.lookup s = some v → (s, v) ∈ entries :=
    (Toml.lookup_eq_some_of_nodup (nodup_keys hassembled)).mp
  have hshows : ∀ s v, (s, v) ∈ entries → st.ShowsSection s v := by
    intro s v he
    obtain ⟨-, -, held, hheld, h⟩ := shows_of_ofEntries hassembled hok he
    exact showsSection_of_asTable hheld h
  refine ⟨fun s hmentioned => ?_, ?_, hshows⟩
  · obtain ⟨v, hv⟩ := (mentioned_iff hassembled).mp hmentioned
    obtain ⟨hs, hsome, -⟩ := shows_of_ofEntries hassembled hok (hmem hv)
    exact ⟨hs, hsome⟩
  · rintro s k d ⟨m, hm, rfl, rfl⟩
    rcases Toml.mem_below_of_parse hlines hparse hm with
      ⟨held, v, hlookup, hv, hdatum⟩ | ⟨items, hlookup, hrows⟩
    · cases hshows s _ (hmem hlookup) with
      | table h =>
        obtain ⟨hk, given, hgiven, hfield⟩ := h m.key v hv
        exact ⟨hk, given, hdatum.symm.trans hgiven, hfield⟩
    · -- tables of a repeated header make an array, but none that is accepted
      obtain ⟨hs, -⟩ := shows_of_ofEntries hassembled hok (hmem hlookup)
      exact absurd hrows ((hshows s _ (hmem hlookup)).not_rows hs)

theorem ofEntries_of_parse_eq_ok {file : String} (hparse : Toml.parse? text = some entries)
    (hok : Settings.parse file text = .ok st) : settingsSchema.ofEntries entries = .ok st := by
  rw [parse_eq_of_document hparse] at hok
  cases hdecode : settingsSchema.ofEntries entries with
  | error e =>
    rw [hdecode] at hok
    cases hok
  | ok st' =>
    rw [hdecode] at hok
    obtain ⟨_, -, hok⟩ := bind_eq_ok hok
    rw [Except.ok.inj hok]

end Verdict

/-- A document that mentions a key without a field is refused, in whatever notation it does.  Of an
accepted one the settings show every key and every element of a section's array up to the number of
fields.  The elements after those make no difference, to the settings or to the error. -/
theorem only_surplus_elements_ignored {text : String} {lines : List Statement}
    {entries : List (String × Value)} (hlines : Toml.lines? text = some lines)
    (hparse : Toml.parse? text = some entries) (file : String) :
    (Unknown lines → ∃ e, Settings.parse file text = .error (.invalidDocument file e)) ∧
      (∀ st, Settings.parse file text = .ok st → Reflected lines entries st) ∧
      ∀ text' entries', Toml.parse? text' = some entries' →
        mapSections trimmed entries' = mapSections trimmed entries →
        Settings.parse file text' = Settings.parse file text := by
  refine ⟨fun hunknown => ?_, fun st hok => ?_, fun text' entries' hparse' htrimmed => ?_⟩
  · rw [parse_eq_of_document hparse]
    cases hdecode : settingsSchema.ofEntries entries with
    | error e => exact ⟨e, rfl⟩
    | ok st =>
      exact absurd hunknown (reflected_of_ofEntries hlines hparse hdecode).not_unknown
  · exact reflected_of_ofEntries hlines hparse (ofEntries_of_parse_eq_ok hparse hok)
  · have hdecode : settingsSchema.ofEntries entries' = settingsSchema.ofEntries entries := by
      rw [← ofEntries_mapSections sameSection_trimmed entries', htrimmed,
        ofEntries_mapSections sameSection_trimmed]
    rw [parse_eq_of_document hparse', parse_eq_of_document hparse, hdecode]

/-- Four elements for the three fields of a section, above a section that is a table. -/
def crowdedDocument : String := "call = [true, false, '2', 7]\n[loader]\nsearch_paths = ['a']\n"

def flaggedCall : List Value := [.boolean true, .boolean false, .string "2"]

def crowdedCall : List Value := flaggedCall ++ [.integer 7]

def singlePath : Value := .array [.string "a"]

def crowdedLines : List Statement :=
  [.entry ⟨⟨[], "call"⟩, .array crowdedCall⟩, .header ⟨⟨[], "loader"⟩, false⟩,
    .entry ⟨⟨[], "search_paths"⟩, singlePath⟩]

def crowdedEntries : List (String × Value) :=
  [("call", .array crowdedCall), ("loader", .table [("search_paths", singlePath)])]

def crowdedSettings : Settings :=
  ⟨some ⟨some true, some false, some "2"⟩, none, some ⟨some ["a"]⟩⟩

/-- The document without its fourth element reads as the same settings, in which all the rest is
reflected; under a key that is no field of the section the same number is refused. -/
theorem only_surplus_elements_ignored_fourth :
    Settings.parse "" crowdedDocument = .ok crowdedSettings ∧
      Reflected crowdedLines crowdedEntries crowdedSettings ∧
      ∃ e, Settings.parse "" "call.x = 7\n" = .error (.invalidDocument "" e) := by
  have hlines : Toml.lines? crowdedDocument = some crowdedLines := by cbv
  have hparse : Toml.parse? crowdedDocument = some crowdedEntries := by cbv
  obtain ⟨-, hreflected, hsame⟩ := only_surplus_elements_ignored hlines hparse ""
  have hfewer : Toml.parse? "call = [true, false, '2']\n[loader]\nsearch_paths = ['a']\n" =
      some [("call", .array flaggedCall), ("loader", .table [("search_paths", singlePath)])] := by
    cbv
  have hok : Settings.parse "" "call = [true, false, '2']\n[loader]\nsearch_paths = ['a']\n" =
      .ok crowdedSettings := by decide +kernel
  have hcrowded := (hsame _ _ hfewer rfl).symm.trans hok
  have hlines' : Toml.lines? "call.x = 7\n" =
      some [.entry ⟨⟨["call"], "x"⟩, .integer 7⟩] := by cbv
  have hparse' : Toml.parse? "call.x = 7\n" = some [("call", .table [("x", .integer 7)])] := by
    cbv
  have hunknown : Unknown [.entry ⟨⟨["call"], "x"⟩, .integer 7⟩] :=
    .inSection (s := "call") (d := none) ⟨_, List.mem_singleton_self _, rfl, rfl⟩ (by decide)
  exact ⟨hcrowded, hreflected _ hcrowded,
    (only_surplus_elements_ignored hlines' hparse' "").1 hunknown⟩

/-- A fourth element of any kind is accepted in silence. -/
theorem surplus_element_accepted :
    Toml.parse? "call = [true, false, '2', 7]\n" =
        some [("call", .array [.boolean true, .boolean false, .string "2", .integer 7])] ∧
      callSchema.fields[3]? = none ∧
      Settings.parse "" "call = [true, false, '2', 7]\n" =
        .ok ⟨some ⟨some true, some false, some "2"⟩, none, none⟩ ∧
      Settings.parse "" "call = [true, false, '2', 'x']\n" =
        Settings.parse "" "call = [true, false, '2', 7]\n" ∧
      Settings.parse "" "call = \x7b x = 7 \x7d\n" =
        .error (.invalidDocument "" (.unknownField "x" callSchema.fields)) := by
  refine ⟨by cbv, ?_⟩
  decide +kernel

end Config

end CallBridge
