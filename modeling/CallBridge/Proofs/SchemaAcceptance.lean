/-
Which documents are settings.

The schema is stated on what a document's statements mention: the sections, the fields of each, and
a datum of the right kind for every field.  `parse_accepts_schema` says that a document whose
sections are tables reads as settings exactly if it fits and its two spellings are right, that the
settings are what it says, and which error it has otherwise: the first offence in the order of the
document, and only after those a misspelling.
-/
import Mathlib
import CallBridge.Proofs.ReadDocuments
import CallBridge.Proofs.SchemaDecoding

namespace CallBridge

namespace Config

open Toml (Value Datum Level Statement mentions levelOf heldUnder)

/-! ## What a document says -/

def Mentioned (lines : List Statement) (s : String) : Prop := ∃ m ∈ mentions [] [] lines, m.key = s

/-- The statements mention a key of a section, and give it a datum or none. -/
def Gives (lines : List Statement) (s k : String) (d : Option Datum) : Prop :=
  ∃ m ∈ mentions [s] [] lines, m.key = k ∧ m.datum = d

structure Fits (lines : List Statement) : Prop where
  sections : ∀ s, Mentioned lines s → s ∈ settingsSchema.fields
  fields : ∀ s ∈ settingsSchema.fields, ∀ k d, Gives lines s k d →
    k ∈ fieldsOf s ∧ ∃ given, d = some given ∧ Kind.of given = fieldKind k

/-- The texts that have to be spellings are. -/
structure Spelled (lines : List Statement) : Prop where
  abi : ∀ text, Gives lines "call" "abi" (some (.text text)) → isAbiSpelling text = true
  onExpired : ∀ text, Gives lines "callbacks" "on_expired" (some (.text text)) →
    isPolicySpelling text = true

def Settings.field? (st : Settings) (s k : String) : Option Datum :=
  (st.section? s).bind fun section? => section? k

/-- Settings hold what the statements say and nothing else. -/
structure Holds (lines : List Statement) (st : Settings) : Prop where
  sections : ∀ s ∈ settingsSchema.fields, (st.section? s).isSome = true ↔ Mentioned lines s
  fields : ∀ s ∈ settingsSchema.fields, ∀ k d,
    st.field? s k = some d ↔ Gives lines s k (some d)

/-- The entries that a document has for its sections are tables. -/
def SectionsAreTables (entries : List (String × Value)) : Prop :=
  ∀ s ∈ settingsSchema.fields, ∀ v, entries.lookup s = some v → ∃ held, v = .table held

theorem sectionsAreTables_of_forall {entries : List (String × Value)}
    (h : ∀ e ∈ entries, ∃ held, e.2 = .table held) : SectionsAreTables entries := by
  intro s _ v hv
  obtain ⟨before, after, hentries, -⟩ := List.lookup_eq_some_iff.mp hv
  exact h (s, v) (by simp [hentries])

section Assembled

variable {lines : List Statement} {entries : List (String × Value)}

theorem mem_levelOf {k : String} {d : Option Datum} :
    (k, d) ∈ levelOf entries ↔ ∃ v, (k, v) ∈ entries ∧ Datum.ofValue? v = d := by
  simp [levelOf]

theorem keys_levelOf : (levelOf entries).keys = entries.map Prod.fst := by
  simp [levelOf, Level.keys]

theorem nodup_keys (h : Toml.Assembled lines entries) : (entries.map Prod.fst).Nodup := by
  rw [← keys_levelOf]
  exact h.top.nodup List.nodup_nil

theorem run_below (h : Toml.Assembled lines entries) (htables : SectionsAreTables entries) {s : String}
    (hs : s ∈ settingsSchema.fields) :
    Level.Run [] (mentions [s] [] lines) (levelOf (heldUnder entries s)) :=
  h.below s (htables s hs)

theorem nodup_held (h : Toml.Assembled lines entries) (htables : SectionsAreTables entries)
    {s : String} (hs : s ∈ settingsSchema.fields) :
    ((heldUnder entries s).map Prod.fst).Nodup := by
  rw [← keys_levelOf]
  exact (run_below h htables hs).nodup List.nodup_nil

theorem mentioned_iff (h : Toml.Assembled lines entries) {s : String} :
    Mentioned lines s ↔ ∃ v, entries.lookup s = some v := by
  have hmem := h.top.mem List.nodup_nil
  constructor
  · rintro ⟨m, hm, rfl⟩
    obtain ⟨v, hv, -⟩ := mem_levelOf.mp ((hmem (m.key, m.datum)).mpr (Or.inr ⟨m, hm, rfl⟩))
    exact ⟨v, (Toml.lookup_eq_some_of_nodup (nodup_keys h)).mpr hv⟩
  · rintro ⟨v, hv⟩
    have hlevel : (s, Datum.ofValue? v) ∈ levelOf entries :=
      mem_levelOf.mpr ⟨v, (Toml.lookup_eq_some_of_nodup (nodup_keys h)).mp hv, rfl⟩
    obtain ⟨m, hm, heq⟩ := ((hmem _).mp hlevel).resolve_left List.not_mem_nil
    exact ⟨m, hm, (congrArg Prod.fst heq).symm⟩

theorem gives_iff (h : Toml.Assembled lines entries) (htables : SectionsAreTables entries)
    {s : String} (hs : s ∈ settingsSchema.fields) {k : String} {d : Option Datum} :
    Gives lines s k d ↔
      ∃ v, (heldUnder entries s).lookup k = some v ∧ Datum.ofValue? v = d := by
  have hmem := (run_below h htables hs).mem List.nodup_nil
  have hlookup : ∀ v, (heldUnder entries s).lookup k = some v ↔ (k, v) ∈ heldUnder entries s :=
    fun v => Toml.lookup_eq_some_of_nodup (nodup_held h htables hs)
  simp only [hlookup, ← mem_levelOf, hmem, List.not_mem_nil, false_or]
  constructor
  · rintro ⟨m, hm, rfl, rfl⟩
    exact ⟨m, hm, rfl⟩
  · rintro ⟨m, hm, heq⟩
    exact ⟨m, hm, (congrArg Prod.fst heq).symm, (congrArg Prod.snd heq).symm⟩

theorem entryOffences_eq_nil {known : List String} {off : String → Value → List DocumentError}
    {e : String × Value} : entryOffences known off e = [] ↔ e.1 ∈ known ∧ off e.1 e.2 = [] := by
  unfold entryOffences
  split <;> simp_all

theorem section_fits_iff (h : Toml.Assembled lines entries) (htables : SectionsAreTables entries)
    {s : String} (hs : s ∈ settingsSchema.fields) {v : Value} (hv : entries.lookup s = some v) :
    sectionOffences s v = [] ↔ ∀ k d, Gives lines s k d →
      k ∈ fieldsOf s ∧ ∃ given, d = some given ∧ Kind.of given = fieldKind k := by
  have hnodup := nodup_held h htables hs
  obtain ⟨held, rfl⟩ := htables s hs v hv
  have hheld : heldUnder entries s = held := by simp [heldUnder, hv]
  rw [hheld] at hnodup
  simp only [gives_iff h htables hs, hheld, sectionOffences, List.flatMap_eq_nil_iff,
    entryOffences_eq_nil, fieldOffences, Kind.offences_eq_nil]
  constructor
  · rintro hfine k d ⟨v, hlookup, rfl⟩
    exact hfine (k, v) ((Toml.lookup_eq_some_of_nodup hnodup).mp hlookup)
  · rintro hfine ⟨k, v⟩ he
    exact hfine k _ ⟨v, (Toml.lookup_eq_some_of_nodup hnodup).mpr he, rfl⟩

theorem fits_iff (h : Toml.Assembled lines entries) (htables : SectionsAreTables entries) :
    Fits lines ↔ offences entries = [] := by
  have hlookup : ∀ s v, entries.lookup s = some v ↔ (s, v) ∈ entries :=
    fun s v => Toml.lookup_eq_some_of_nodup (nodup_keys h)
  simp only [offences, List.flatMap_eq_nil_iff, entryOffences_eq_nil]
  constructor
  · rintro hfits ⟨s, v⟩ he
    have hv := (hlookup s v).mpr he
    have hs := hfits.sections s ((mentioned_iff h).mpr ⟨v, hv⟩)
    exact ⟨hs, (section_fits_iff h htables hs hv).mpr (hfits.fields s hs)⟩
  · intro hnone
    constructor
    · intro s hmentioned
      obtain ⟨v, hv⟩ := (mentioned_iff h).mp hmentioned
      exact (hnone (s, v) ((hlookup s v).mp hv)).1
    · intro s hs k d hgives
      cases hv : entries.lookup s with
      | none =>
        -- a section that is absent gives nothing
        obtain ⟨w, hw, -⟩ := (gives_iff h htables hs).mp hgives
        simp [heldUnder, hv] at hw
      | some v =>
        have hsection := (hnone (s, v) ((hlookup s v).mp hv)).2
        exact (section_fits_iff h htables hs hv).mp hsection k d hgives

/-- What a decoder meets in a document: under a known key there is a table without any key
twice. -/
theorem meets_sections (h : Toml.Assembled lines entries) (htables : SectionsAreTables entries)
    (e : String × Value) (he : e ∈ entries) (hs : e.1 ∈ settingsSchema.fields) :
    SectionTable e.2 := by
  have hlookup : entries.lookup e.1 = some e.2 :=
    (Toml.lookup_eq_some_of_nodup (nodup_keys h)).mpr he
  have hnodup := nodup_held h htables hs
  obtain ⟨held, hheld⟩ := htables e.1 hs e.2 hlookup
  have hunder : heldUnder entries e.1 = held := by simp [heldUnder, hlookup, hheld]
  rw [hunder] at hnodup
  exact ⟨held, hheld, hnodup⟩

theorem holds_of_decode (h : Toml.Assembled lines entries) (htables : SectionsAreTables entries)
    {st : Settings} (hok : settingsSchema.ofEntries entries = .ok st) : Holds lines st := by
  have hsection : ∀ s, st.section? s = (entries.lookup s).bind readSection :=
    settingsSchema_takes.holds_ofEntries (meets_sections h htables) (nodup_keys h) hok
  constructor
  · intro s hs
    rw [hsection, mentioned_iff h]
    cases hv : entries.lookup s with
    | none => simp
    | some v =>
      obtain ⟨held, rfl⟩ := htables s hs v hv
      simp [readSection]
  · intro s hs k d
    rw [Settings.field?, hsection, gives_iff h htables hs]
    cases hv : entries.lookup s with
    | none => simp [heldUnder, hv]
    | some v =>
      obtain ⟨held, rfl⟩ := htables s hs v hv
      simp [readSection, heldUnder, hv, Option.bind_eq_some_iff]

end Assembled

/-! ## Settings by their fields -/

theorem CallSettings.eq_of_datum? {c c' : CallSettings} (h : c.datum? = c'.datum?) : c = c' := by
  have hflag : Function.Injective (Option.map Datum.flag) :=
    Option.map_injective fun _ _ h => Datum.flag.inj h
  have htext : Function.Injective (Option.map Datum.text) :=
    Option.map_injective fun _ _ h => Datum.text.inj h
  obtain ⟨errno, lock, abi⟩ := c
  obtain ⟨errno', lock', abi'⟩ := c'
  have herrno : errno = errno' := hflag (congrFun h "check_errno")
  have hlock : lock = lock' := hflag (congrFun h "release_lock")
  have habi : abi = abi' := htext (congrFun h "abi")
  rw [herrno, hlock, habi]

theorem CallbackSettings.eq_of_datum? {c c' : CallbackSettings} (h : c.datum? = c'.datum?) :
    c = c' := by
  have htext : Function.Injective (Option.map Datum.text) :=
    Option.map_injective fun _ _ h => Datum.text.inj h
  obtain ⟨policy⟩ := c
  obtain ⟨policy'⟩ := c'
  have hpolicy : policy = policy' := htext (congrFun h "on_expired")
  rw [hpolicy]

theorem LoaderSettings.eq_of_datum? {l l' : LoaderSettings} (h : l.datum? = l'.datum?) :
    l = l' := by
  have htexts : Function.Injective (Option.map Datum.texts) :=
    Option.map_injective fun _ _ h => Datum.texts.inj h
  obtain ⟨paths⟩ := l
  obtain ⟨paths'⟩ := l'
  have hpaths : paths = paths' := htexts (congrFun h "search_paths")
  rw [hpaths]

theorem Settings.eq_of_section? {st st' : Settings}
    (h : ∀ s ∈ settingsSchema.fields, st.section? s = st'.section? s) : st = st' := by
  obtain ⟨call, callbacks, loader⟩ := st
  obtain ⟨call', callbacks', loader'⟩ := st'
  have hcall : call = call' :=
    Option.map_injective (fun _ _ => CallSettings.eq_of_datum?) (h "call" (by decide))
  have hcallbacks : callbacks = callbacks' :=
    Option.map_injective (fun _ _ => CallbackSettings.eq_of_datum?) (h "callbacks" (by decide))
  have hloader : loader = loader' :=
    Option.map_injective (fun _ _ => LoaderSettings.eq_of_datum?) (h "loader" (by decide))
  rw [hcall, hcallbacks, hloader]

theorem Settings.section?_congr {st st' : Settings} {s : String}
    (hsome : (st.section? s).isSome = true ↔ (st'.section? s).isSome = true)
    (hfield : ∀ k d, st.field? s k = some d ↔ st'.field? s k = some d) :
    st.section? s = st'.section? s := by
  unfold Settings.field? at hfield
  cases hs : st.section? s with
  | none =>
    cases hs' : st'.section? s with
    | none => rfl
    | some f => simp [hs, hs'] at hsome
  | some f =>
    cases hs' : st'.section? s with
    | none => simp [hs, hs'] at hsome
    | some f' =>
      simp only [hs, hs', Option.bind_some] at hfield
      exact congrArg some (funext fun k => Option.ext (hfield k))

/-- The same mentions leave room for one answer only. -/
theorem Holds.unique {lines : List Statement} {st st' : Settings} (h : Holds lines st)
    (h' : Holds lines st') : st = st' := by
  refine Settings.eq_of_section? fun s hs => Settings.section?_congr ?_ fun k d => ?_
  · exact (h.sections s hs).trans (h'.sections s hs).symm
  · exact (h.fields s hs k d).trans (h'.fields s hs k d).symm

theorem Settings.field?_abi (st : Settings) (text : String) :
    st.field? "call" "abi" = some (.text text) ↔ st.abi = some text := by
  obtain ⟨call, _, _⟩ := st
  cases call <;> simp [Settings.field?, Settings.section?, Settings.abi, CallSettings.datum?]

theorem Settings.field?_onExpired (st : Settings) (text : String) :
    st.field? "callbacks" "on_expired" = some (.text text) ↔ st.onExpired = some text := by
  obtain ⟨_, callbacks, _⟩ := st
  cases callbacks <;>
    simp [Settings.field?, Settings.section?, Settings.onExpired, CallbackSettings.datum?]

/-! ## The verdict on a document -/

structure Verdict (file : String) (lines : List Statement) (entries : List (String × Value))
    (result : Except Error Settings) : Prop where
  accepted : (∃ st, result = .ok st) ↔ Fits lines ∧ Spelled lines
  holds : ∀ st, result = .ok st → Holds lines st
  offence : ¬Fits lines →
    ∃ e, (offences entries).head? = some e ∧ result = .error (.invalidDocument file e)
  abi : Fits lines → ∀ text e, Gives lines "call" "abi" (some (.text text)) →
    checkAbi "call.abi" text = .error e → result = .error e
  onExpired : Fits lines →
    (∀ text, Gives lines "call" "abi" (some (.text text)) → isAbiSpelling text = true) →
    ∀ text e, Gives lines "callbacks" "on_expired" (some (.text text)) →
      checkPolicy "callbacks.on_expired" text = .error e → result = .error e

/-- Sections, and the keys of each, stand in the order in which they appear. -/
structure InOrder (lines : List Statement) (entries : List (String × Value)) : Prop where
  sections : Level.Appearing (mentions [] [] lines) (entries.map Prod.fst)
  fields : ∀ s ∈ settingsSchema.fields,
    Level.Appearing (mentions [s] [] lines) ((heldUnder entries s).map Prod.fst)

/-- Two documents say the same of the settings, in whatever order and notation. -/
structure SameContent (lines lines' : List Statement) : Prop where
  sections : ∀ s, Mentioned lines s ↔ Mentioned lines' s
  fields : ∀ s ∈ settingsSchema.fields, ∀ k d, Gives lines s k d ↔ Gives lines' s k d

section Verdict

variable {file text : String} {lines lines' : List Statement} {entries : List (String × Value)}

theorem parse_eq_of_document (hparse : Toml.parse? text = some entries) (file : String) :
    Settings.parse file text =
      match settingsSchema.ofEntries entries with
      | .error e => .error (.invalidDocument file e)
      | .ok st => st.validate >>= fun _ => .ok st := by
  unfold Settings.parse Settings.decode
  rw [hparse]
  rfl

theorem ofEntries_reports (h : Toml.Assembled lines entries)
    (htables : SectionsAreTables entries) :
    Reports (settingsSchema.ofEntries entries) (offences entries) :=
  settingsSchema_takes.ofEntries_reports (meets_sections h htables)

theorem Holds.abi_iff {st : Settings} (h : Holds lines st) (spelling : String) :
    Gives lines "call" "abi" (some (.text spelling)) ↔ st.abi = some spelling :=
  (h.fields "call" (by decide) "abi" _).symm.trans (st.field?_abi spelling)

theorem Holds.onExpired_iff {st : Settings} (h : Holds lines st) (spelling : String) :
    Gives lines "callbacks" "on_expired" (some (.text spelling)) ↔ st.onExpired = some spelling :=
  (h.fields "callbacks" (by decide) "on_expired" _).symm.trans (st.field?_onExpired spelling)

theorem valid_iff_spelled {st : Settings} (h : Holds lines st) : st.Valid ↔ Spelled lines := by
  constructor
  · intro hvalid
    exact ⟨fun spelling hgives => hvalid.abi spelling ((h.abi_iff spelling).mp hgives),
      fun spelling hgives => hvalid.onExpired spelling ((h.onExpired_iff spelling).mp hgives)⟩
  · intro hspelled
    exact ⟨fun spelling habi => hspelled.abi spelling ((h.abi_iff spelling).mpr habi),
      fun spelling hpolicy => hspelled.onExpired spelling ((h.onExpired_iff spelling).mpr hpolicy)⟩

theorem verdict_of_assembled (hassembled : Toml.Assembled lines entries) (htables : SectionsAreTables entries)
    (hparse : Toml.parse? text = some entries) (file : String) :
    Verdict file lines entries (Settings.parse file text) := by
  have hreports := ofEntries_reports hassembled htables
  have hfits := fits_iff hassembled htables
  rw [parse_eq_of_document hparse]
  cases hdecode : settingsSchema.ofEntries entries with
  | error e =>
    show Verdict file lines entries (.error (.invalidDocument file e))
    rw [hdecode] at hreports
    have hne : ¬Fits lines := by
      rw [hfits, ← hreports.ok_iff]
      simp
    obtain ⟨e', hhead, he⟩ := hreports.error_of_ne_nil (mt hfits.mpr hne)
    cases he
    exact {
      accepted := ⟨fun h => (nomatch h.choose_spec), fun h => absurd h.1 hne⟩
      holds := fun _ h => nomatch h
      offence := fun _ => ⟨e, hhead, rfl⟩
      abi := fun h => absurd h hne
      onExpired := fun h => absurd h hne }
  | ok st =>
    rw [hdecode] at hreports
    have hholds := holds_of_decode hassembled htables hdecode
    have hfit : Fits lines := hfits.mpr (hreports.ok_iff.mp ⟨st, rfl⟩)
    have hvalid := valid_iff_spelled hholds
    show Verdict file lines entries (st.validate >>= fun _ => .ok st)
    constructor
    · rw [← hvalid, ← Settings.validate_eq_ok]
      constructor
      · rintro ⟨_, hok⟩
        obtain ⟨_, hok, -⟩ := bind_eq_ok hok
        exact ⟨hfit, hok⟩
      · rintro ⟨-, hok⟩
        exact ⟨st, by rw [hok]; rfl⟩
    · intro st' hok
      obtain ⟨_, -, hok⟩ := bind_eq_ok hok
      cases hok
      exact hholds
    · exact fun hne => absurd hfit hne
    · intro _ spelling e hgives hcheck
      rw [Settings.validate_of_abi ((hholds.abi_iff spelling).mp hgives) hcheck]
      rfl
    · intro _ hspelled spelling e hgives hcheck
      have habi : ∀ spelling, st.abi = some spelling → isAbiSpelling spelling = true :=
        fun spelling h => hspelled spelling ((hholds.abi_iff spelling).mpr h)
      rw [Settings.validate_of_onExpired habi ((hholds.onExpired_iff spelling).mp hgives) hcheck]
      rfl

theorem inOrder_of_assembled (h : Toml.Assembled lines entries) (htables : SectionsAreTables entries) :
    InOrder lines entries where
  sections := by
    rw [← keys_levelOf]
    exact h.top.appearing
  fields := fun s hs => by
    rw [← keys_levelOf]
    exact (run_below h htables hs).appearing

theorem SameContent.fits (h : SameContent lines lines') (hfits : Fits lines) : Fits lines' where
  sections := fun s hs => hfits.sections s ((h.sections s).mpr hs)
  fields := fun s hs k d hgives => hfits.fields s hs k d ((h.fields s hs k d).mpr hgives)

theorem SameContent.spelled (h : SameContent lines lines') (hspelled : Spelled lines) :
    Spelled lines' where
  abi := fun text hgives =>
    hspelled.abi text ((h.fields "call" (by decide) "abi" _).mpr hgives)
  onExpired := fun text hgives =>
    hspelled.onExpired text ((h.fields "callbacks" (by decide) "on_expired" _).mpr hgives)

theorem SameContent.holds (h : SameContent lines lines') {st : Settings} (hst : Holds lines st) :
    Holds lines' st where
  sections := fun s hs => (hst.sections s hs).trans (h.sections s)
  fields := fun s hs k d => (hst.fields s hs k d).trans (h.fields s hs k (some d))

/-- What is accepted with one document is accepted with another of the same content. -/
theorem Verdict.transfer {file' : String} {entries' : List (String × Value)}
    {result result' : Except Error Settings} (h : Verdict file lines entries result)
    (h' : Verdict file' lines' entries' result') (hsame : SameContent lines lines')
    {st : Settings} (hok : result = .ok st) : result' = .ok st := by
  obtain ⟨hfits, hspelled⟩ := h.accepted.mp ⟨st, hok⟩
  obtain ⟨st', hok'⟩ := h'.accepted.mpr ⟨hsame.fits hfits, hsame.spelled hspelled⟩
  rw [hok', (h'.holds st' hok').unique (hsame.holds (h.holds st hok))]

theorem SameContent.symm (h : SameContent lines lines') : SameContent lines' lines where
  sections := fun s => (h.sections s).symm
  fields := fun s hs k d => (h.fields s hs k d).symm

end Verdict

/-- A document whose sections are tables is accepted exactly if it fits the schema and its spellings
are right, and the settings are what it says.  The first offence comes before any misspelling, in
the order in which the statements mention sections and their keys.  What is accepted depends on what
the statements say, and neither on their order nor on how they spell their tables. -/
theorem parse_accepts_schema {text : String} {lines : List Statement}
    {entries : List (String × Value)} (hlines : Toml.lines? text = some lines)
    (hparse : Toml.parse? text = some entries) (htables : SectionsAreTables entries)
    (file : String) :
    Verdict file lines entries (Settings.parse file text) ∧ InOrder lines entries ∧
      ∀ file' text' lines' entries', Toml.lines? text' = some lines' →
        Toml.parse? text' = some entries' → SectionsAreTables entries' →
        SameContent lines lines' →
        ∀ st, Settings.parse file text = .ok st ↔ Settings.parse file' text' = .ok st := by
  have hassembled := Toml.assembled_of_parse hlines hparse
  have hverdict := verdict_of_assembled hassembled htables hparse file
  refine ⟨hverdict, inOrder_of_assembled hassembled htables, ?_⟩
  intro file' text' lines' entries' hlines' hparse' htables' hsame st
  have hassembled' := Toml.assembled_of_parse hlines' hparse'
  have hverdict' := verdict_of_assembled hassembled' htables' hparse' file'
  exact ⟨hverdict.transfer hverdict' hsame, hverdict'.transfer hverdict hsame.symm⟩

/-- A document in three notations, and the same with one header for each section. -/
def mixedDocument : String :=
  "call.abi = '7'\nloader = \x7b search_paths = ['a', 'b'] \x7d\n[callbacks]\non_expired = 'ignore'\n"

def plainDocument : String :=
  "[callbacks]\non_expired = 'ignore'\n[loader]\nsearch_paths = ['a', 'b']\n[call]\nabi = '7'\n"

def abiEntry (path : List String) : Toml.Entry := ⟨⟨path, "abi"⟩, .string "7"⟩

def policyEntry : Toml.Entry := ⟨⟨[], "on_expired"⟩, .string "ignore"⟩

def searchPaths : Value := .array [.string "a", .string "b"]

def mixedLines : List Statement :=
  [.entry (abiEntry ["call"]), .entry ⟨⟨[], "loader"⟩, .table [("search_paths", searchPaths)]⟩,
    .header ⟨⟨[], "callbacks"⟩, false⟩, .entry policyEntry]

def plainLines : List Statement :=
  [.header ⟨⟨[], "callbacks"⟩, false⟩, .entry policyEntry, .header ⟨⟨[], "loader"⟩, false⟩,
    .entry ⟨⟨[], "search_paths"⟩, searchPaths⟩, .header ⟨⟨[], "call"⟩, false⟩,
    .entry (abiEntry [])]

def abiSection : String × Value := ("call", .table [("abi", .string "7")])

def policySection : String × Value := ("callbacks", .table [("on_expired", .string "ignore")])

def loaderSection : String × Value := ("loader", .table [("search_paths", searchPaths)])

theorem sameContent_mixed : SameContent mixedLines plainLines where
  sections s := by
    have hmixed : mentions [] [] mixedLines =
        [⟨"call", none, false⟩, ⟨"loader", none, false⟩, ⟨"callbacks", none, true⟩,
          ⟨"callbacks", none, false⟩] := rfl
    have hplain : mentions [] [] plainLines =
        [⟨"callbacks", none, true⟩, ⟨"callbacks", none, false⟩, ⟨"loader", none, true⟩,
          ⟨"loader", none, false⟩, ⟨"call", none, true⟩, ⟨"call", none, false⟩] := rfl
    simp only [Mentioned, hmixed, hplain, List.exists_mem_cons_iff, List.not_mem_nil, false_and,
      exists_false, or_false]
    grind
  fields s hs k d := by
    have hs : s = "call" ∨ s = "callbacks" ∨ s = "loader" := by simpa [settingsSchema] using hs
    have hsame : mentions [s] [] mixedLines = mentions [s] [] plainLines := by
      rcases hs with rfl | rfl | rfl <;> rfl
    rw [Gives, Gives, hsame]

/-- Both notations read as the same settings. -/
theorem parse_accepts_schema_notations :
    Settings.parse "mixed.toml" mixedDocument =
        .ok ⟨some ⟨none, none, some "7"⟩, some ⟨some "ignore"⟩, some ⟨some ["a", "b"]⟩⟩ ∧
      Settings.parse "plain.toml" plainDocument =
        .ok ⟨some ⟨none, none, some "7"⟩, some ⟨some "ignore"⟩, some ⟨some ["a", "b"]⟩⟩ := by
  have hlines : Toml.lines? mixedDocument = some mixedLines := by cbv
  have hparse : Toml.parse? mixedDocument = some [abiSection, loaderSection, policySection] := by
    cbv
  have hlines' : Toml.lines? plainDocument = some plainLines := by cbv
  have hparse' : Toml.parse? plainDocument = some [policySection, loaderSection, abiSection] := by
    cbv
  have htables : SectionsAreTables [abiSection, loaderSection, policySection] :=
    sectionsAreTables_of_forall (by simp [abiSection, loaderSection, policySection])
  have htables' : SectionsAreTables [policySection, loaderSection, abiSection] :=
    sectionsAreTables_of_forall (by simp [abiSection, loaderSection, policySection])
  have hok : Settings.parse "mixed.toml" mixedDocument =
      .ok ⟨some ⟨none, none, some "7"⟩, some ⟨some "ignore"⟩, some ⟨some ["a", "b"]⟩⟩ := by
    decide +kernel
  have hboth := (parse_accepts_schema hlines hparse htables "mixed.toml").2.2 "plain.toml" _ _ _
    hlines' hparse' htables' sameContent_mixed
  exact ⟨hok, (hboth _).mp hok⟩

/-- A table that a longer header implied before its own header comes. -/
def reopenedDocument : String := "[call.x]\n[callbacks]\nbogus = 1\n[call]\n"

/-- The first key that appears in the document is `call`, whose `x` no field is called; but the
header of its own takes the table to the end, and the error is that of the section after it. -/
theorem reopened_section_visited_last :
    (Toml.lines? reopenedDocument).map (fun lines => (mentions [] [] lines).map (·.key)) =
        some ["call", "callbacks", "callbacks", "call"] ∧
      (Toml.parse? reopenedDocument).map (fun entries => entries.map Prod.fst) =
        some ["callbacks", "call"] ∧
      (Toml.parse? reopenedDocument).map offences =
        some [.unknownField "bogus" callbackSchema.fields, .unknownField "x" callSchema.fields] ∧
      Settings.parse "" reopenedDocument =
        .error (.invalidDocument "" (.unknownField "bogus" callbackSchema.fields)) ∧
      Settings.parse "" reopenedDocument ≠
        .error (.invalidDocument "" (.unknownField "x" callSchema.fields)) := by
  decide +kernel

end Config

end CallBridge
