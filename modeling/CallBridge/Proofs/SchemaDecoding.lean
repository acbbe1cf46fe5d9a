/-
How a schema decodes.

A decoder visits the entries of a table in their order and stops at the first one that does not
fit.  `Reports` puts a result beside the list of all that is wrong, and `Schema.Takes` says of a
schema how it takes one value; from that `Takes.ofEntries_reports` and `Takes.holds_ofEntries` give
what it makes of a whole table, for the sections and for the document alike.
-/
import CallBridge.Proofs.Assembly
import CallBridge.Proofs.Interpretation

namespace CallBridge

/-! ## First offences -/

/-- A result together with all that is wrong: nothing, or the error first of all. -/
inductive Reports {ε α : Type} : Except ε α → List ε → Prop
  | ok (a : α) : Reports (.ok a) []
  | error (e : ε) (rest : List ε) : Reports (.error e) (e :: rest)

namespace Reports

variable {ε α β : Type} {x : Except ε α} {offences offences' : List ε}

theorem ok_iff (h : Reports x offences) : (∃ a, x = .ok a) ↔ offences = [] := by
  cases h <;> simp

theorem error_of_ne_nil (h : Reports x offences) (hne : offences ≠ []) :
    ∃ e, offences.head? = some e ∧ x = .error e := by
  cases h with
  | ok => exact absurd rfl hne
  | error e => exact ⟨e, rfl, rfl⟩

theorem bind {f : α → Except ε β} (h : Reports x offences)
    (hf : ∀ a, x = .ok a → Reports (f a) offences') :
    Reports (x >>= f) (offences ++ offences') := by
  cases h with
  | ok a => exact hf a rfl
  | error e rest => exact .error e (rest ++ offences')

theorem map (f : α → β) (h : Reports x offences) :
    Reports (x >>= fun a => pure (f a)) offences := by
  have hpure := h.bind fun a _ => (Reports.ok (f a) : Reports (pure (f a)) ([] : List ε))
  rwa [List.append_nil] at hpure

theorem foldlM {f : α → β → Except ε α} {offencesOf : β → List ε} {l : List β}
    (h : ∀ a, ∀ b ∈ l, Reports (f a b) (offencesOf b)) (a : α) :
    Reports (l.foldlM f a) (l.flatMap offencesOf) := by
  induction l generalizing a with
  | nil => exact .ok a
  | cons b l ih =>
    rw [List.foldlM_cons, List.flatMap_cons]
    exact (h a b List.mem_cons_self).bind fun a' _ =>
      ih (fun a b hb => h a b (List.mem_cons_of_mem _ hb)) a'

theorem mapM {f : α → Except ε β} {offencesOf : α → List ε} (h : ∀ a, Reports (f a) (offencesOf a))
    (l : List α) : Reports (l.mapM f) (l.flatMap offencesOf) := by
  induction l with
  | nil => exact .ok []
  | cons a l ih =>
    rw [List.mapM_cons, List.flatMap_cons]
    exact (h a).bind fun b _ => ih.map (b :: ·)

end Reports

namespace Config

open Toml (Value Datum)

/-! ## Kinds of fields -/

inductive Kind where
  | flag
  | text
  | texts
deriving DecidableEq, Repr

def Kind.of : Datum → Kind
  | .flag _ => flag
  | .text _ => text
  | .texts _ => texts

def elementOffences : Value → List DocumentError
  | .string _ => []
  | v => [.invalidType (.ofValue v) "path string"]

def Kind.offences : Kind → Value → List DocumentError
  | .flag, .boolean _ => []
  | .flag, v => [.invalidType (.ofValue v) "a boolean"]
  | .text, .string _ => []
  | .text, v => [.invalidType (.ofValue v) "a string"]
  | .texts, .array items => items.flatMap elementOffences
  | .texts, v => [.invalidType (.ofValue v) "a sequence"]

theorem mapM_text_eq (items : List Value) :
    items.flatMap elementOffences = [] ↔ ∃ texts, items.mapM Value.text? = some texts := by
  induction items with
  | nil => simp
  | cons v items ih =>
    rw [List.flatMap_cons, List.append_eq_nil_iff, ih, List.mapM_cons]
    cases v <;> simp [elementOffences, Value.text?, Option.bind_eq_some_iff]

/-- A value has nothing wrong with it for a field exactly if it is a datum of the field's kind. -/
theorem Kind.offences_eq_nil {kind : Kind} {v : Value} :
    kind.offences v = [] ↔ ∃ d, Datum.ofValue? v = some d ∧ Kind.of d = kind := by
  by_cases harray : ∃ items, v = .array items
  · obtain ⟨items, rfl⟩ := harray
    cases kind with
    | texts =>
      rw [Kind.offences, mapM_text_eq]
      simp [Datum.ofValue?, Kind.of]
    | _ => simp [Kind.offences, Datum.ofValue?, Kind.of]
  · cases kind <;> cases v <;> simp_all [Kind.offences, Datum.ofValue?, Kind.of]

theorem boolean_reports (v : Value) : Reports (boolean v) (Kind.flag.offences v) := by
  cases v <;> first | exact .ok _ | exact .error _ _

theorem string_reports (v : Value) : Reports (string v) (Kind.text.offences v) := by
  cases v <;> first | exact .ok _ | exact .error _ _

theorem path_reports (v : Value) : Reports (path v) (elementOffences v) := by
  cases v <;> first | exact .ok _ | exact .error _ _

theorem paths_reports (v : Value) : Reports (paths v) (Kind.texts.offences v) := by
  cases v with
  | array items => exact Reports.mapM path_reports items
  | _ => exact .error _ _

theorem ofValue?_of_boolean {v : Value} {b : Bool} (h : boolean v = .ok b) :
    Datum.ofValue? v = some (.flag b) := by
  cases v <;> cases h
  rfl

theorem ofValue?_of_string {v : Value} {text : String} (h : string v = .ok text) :
    Datum.ofValue? v = some (.text text) := by
  cases v <;> cases h
  rfl

theorem mapM_text_of_path {items : List Value} {texts : List String}
    (h : items.mapM path = .ok texts) : items.mapM Value.text? = some texts := by
  induction items generalizing texts with
  | nil =>
    cases h
    rfl
  | cons v items ih =>
    rw [List.mapM_cons] at h
    obtain ⟨text, htext, h⟩ := bind_eq_ok h
    obtain ⟨rest, hrest, h⟩ := bind_eq_ok h
    cases h
    have hv : v.text? = some text := by
      cases v <;> cases htext
      rfl
    rw [List.mapM_cons, hv, ih hrest]
    rfl

theorem ofValue?_of_paths {v : Value} {texts : List String} (h : paths v = .ok texts) :
    Datum.ofValue? v = some (.texts texts) := by
  cases v with
  | array items =>
    rw [Datum.ofValue?, mapM_text_of_path h]
    rfl
  | _ => cases h

/-! ## Groups of keys -/

/-- What is wrong with an entry, given what may be wrong with a value under a known key. -/
def entryOffences (known : List String) (offences : String → Value → List DocumentError)
    (e : String × Value) : List DocumentError :=
  if e.1 ∈ known then offences e.1 e.2 else [.unknownField e.1 known]

/-- How a schema takes the values it may meet: which offences it reports, and what the decoded
group holds under each key. -/
structure Schema.Takes {α β : Type} (s : Schema α) (Meets : Value → Prop)
    (offences : String → Value → List DocumentError) (reads : Value → Option β)
    (holds : α → String → Option β) : Prop where
  empty : ∀ k, holds s.empty k = none
  reports : ∀ a k v, k ∈ s.fields → Meets v → Reports (s.set a k v) (offences k v)
  sets : ∀ a a' k v, k ∈ s.fields → Meets v → s.set a k v = .ok a' →
    ∀ name, holds a' name = if name = k then reads v else holds a name

namespace Schema

variable {α β : Type} {s : Schema α} {Meets : Value → Prop}
  {offences : String → Value → List DocumentError} {reads : Value → Option β}
  {holds : α → String → Option β} {entries : List (String × Value)}

theorem Takes.take_reports (h : s.Takes Meets offences reads holds) (a : α) {e : String × Value}
    (hmeets : e.1 ∈ s.fields → Meets e.2) :
    Reports (s.take a e.1 e.2) (entryOffences s.fields offences e) := by
  unfold Schema.take entryOffences
  by_cases hknown : e.1 ∈ s.fields
  · simp only [List.contains_eq_mem, hknown, decide_true, if_true]
    exact h.reports a e.1 e.2 hknown (hmeets hknown)
  · simp only [List.contains_eq_mem, hknown, decide_false, Bool.false_eq_true, if_false]
    exact .error _ []

theorem Takes.ofEntries_reports (h : s.Takes Meets offences reads holds)
    (hmeets : ∀ e ∈ entries, e.1 ∈ s.fields → Meets e.2) :
    Reports (s.ofEntries entries) (entries.flatMap (entryOffences s.fields offences)) := by
  unfold Schema.ofEntries
  refine Reports.foldlM (fun a e he => ?_) s.empty
  exact h.take_reports a (hmeets e he)

/-- What is taken last under a key is what the group says; keys come once. -/
theorem Takes.holds_foldlM (h : s.Takes Meets offences reads holds) {a a' : α}
    (hmeets : ∀ e ∈ entries, e.1 ∈ s.fields → Meets e.2)
    (hnodup : (entries.map Prod.fst).Nodup)
    (hok : entries.foldlM (fun a e => s.take a e.1 e.2) a = .ok a') (name : String) :
    holds a' name = (entries.lookup name).elim (holds a name) reads := by
  induction entries generalizing a with
  | nil =>
    cases hok
    rfl
  | cons e entries ih =>
    obtain ⟨k, v⟩ := e
    rw [List.foldlM_cons] at hok
    obtain ⟨a₁, htake, hok⟩ := bind_eq_ok hok
    obtain ⟨hfirst, hrest⟩ := List.nodup_cons.mp hnodup
    have hlater := ih (fun e he => hmeets e (List.mem_cons_of_mem _ he)) hrest hok
    have hknown : k ∈ s.fields := by
      unfold Schema.take at htake
      split at htake
      · rename_i hcontains
        simpa using hcontains
      · cases htake
    have hset : s.set a k v = .ok a₁ := by
      rwa [Schema.take, if_pos (by simpa using hknown)] at htake
    have hholds := h.sets a a₁ k v hknown (hmeets _ List.mem_cons_self hknown) hset name
    rw [hlater, hholds, Toml.lookup_cons_eq]
    by_cases hname : name = k
    · have hnone : entries.lookup name = none := by
        rw [List.lookup_eq_none_iff]
        intro e he
        rw [bne_iff_ne]
        intro heq
        exact hfirst (List.mem_map.mpr ⟨e, he, heq.symm.trans hname⟩)
      simp [hname, hname ▸ hnone]
    · simp [hname]

theorem Takes.holds_ofEntries (h : s.Takes Meets offences reads holds) {a : α}
    (hmeets : ∀ e ∈ entries, e.1 ∈ s.fields → Meets e.2)
    (hnodup : (entries.map Prod.fst).Nodup) (hok : s.ofEntries entries = .ok a) (name : String) :
    holds a name = (entries.lookup name).bind reads := by
  rw [h.holds_foldlM hmeets hnodup hok, h.empty]
  cases entries.lookup name <;> rfl

end Schema

/-! ## The schema -/

/-- What a field holds, by the names of its section and its own. -/
def CallSettings.datum? (c : CallSettings) : String → Option Datum
  | "check_errno" => c.checkErrno.map .flag
  | "release_lock" => c.releaseLock.map .flag
  | "abi" => c.abi.map .text
  | _ => none

def CallbackSettings.datum? (c : CallbackSettings) : String → Option Datum
  | "on_expired" => c.onExpired.map .text
  | _ => none

def LoaderSettings.datum? (l : LoaderSettings) : String → Option Datum
  | "search_paths" => l.searchPaths.map .texts
  | _ => none

/-- What a section says, if it is there. -/
def Settings.section? (s : Settings) : String → Option (String → Option Datum)
  | "call" => s.call.map CallSettings.datum?
  | "callbacks" => s.callbacks.map CallbackSettings.datum?
  | "loader" => s.loader.map LoaderSettings.datum?
  | _ => none

/-- The kind of each field; no two sections share a name. -/
def fieldKind : String → Kind
  | "check_errno" => .flag
  | "release_lock" => .flag
  | "search_paths" => .texts
  | _ => .text

def fieldOffences (k : String) (v : Value) : List DocumentError := (fieldKind k).offences v

theorem callSchema_takes :
    callSchema.Takes (fun _ => True) fieldOffences Datum.ofValue? CallSettings.datum? where
  empty k := by
    unfold CallSettings.datum?
    split <;> rfl
  reports a k v hk _ := by
    have hk : k = "check_errno" ∨ k = "release_lock" ∨ k = "abi" := by simpa [callSchema] using hk
    rcases hk with rfl | rfl | rfl
    · exact (boolean_reports v).map _
    · exact (boolean_reports v).map _
    · exact (string_reports v).map _
  sets a a' k v hk _ hset name := by
    have hk : k = "check_errno" ∨ k = "release_lock" ∨ k = "abi" := by simpa [callSchema] using hk
    rcases hk with rfl | rfl | rfl
    · obtain ⟨b, hb, hset⟩ := bind_eq_ok hset
      cases hset
      rw [ofValue?_of_boolean hb]
      unfold CallSettings.datum?
      split <;> simp_all
    · obtain ⟨b, hb, hset⟩ := bind_eq_ok hset
      cases hset
      rw [ofValue?_of_boolean hb]
      unfold CallSettings.datum?
      split <;> simp_all
    · obtain ⟨text, htext, hset⟩ := bind_eq_ok hset
      cases hset
      rw [ofValue?_of_string htext]
      unfold CallSettings.datum?
      split <;> simp_all

theorem callbackSchema_takes :
    callbackSchema.Takes (fun _ => True) fieldOffences Datum.ofValue? CallbackSettings.datum? where
  empty k := by
    unfold CallbackSettings.datum?
    split <;> rfl
  reports a k v hk _ := by
    obtain rfl : k = "on_expired" := by simpa [callbackSchema] using hk
    exact (string_reports v).map _
  sets a a' k v hk _ hset name := by
    obtain rfl : k = "on_expired" := by simpa [callbackSchema] using hk
    obtain ⟨text, htext, hset⟩ := bind_eq_ok hset
    cases hset
    rw [ofValue?_of_string htext]
    unfold CallbackSettings.datum?
    split <;> simp_all

theorem loaderSchema_takes :
    loaderSchema.Takes (fun _ => True) fieldOffences Datum.ofValue? LoaderSettings.datum? where
  empty k := by
    unfold LoaderSettings.datum?
    split <;> rfl
  reports a k v hk _ := by
    obtain rfl : k = "search_paths" := by simpa [loaderSchema] using hk
    exact (paths_reports v).map _
  sets a a' k v hk _ hset name := by
    obtain rfl : k = "search_paths" := by simpa [loaderSchema] using hk
    obtain ⟨texts, htexts, hset⟩ := bind_eq_ok hset
    cases hset
    rw [ofValue?_of_paths htexts]
    unfold LoaderSettings.datum?
    split <;> simp_all

def fieldsOf : String → List String
  | "call" => callSchema.fields
  | "callbacks" => callbackSchema.fields
  | "loader" => loaderSchema.fields
  | _ => []

/-- What is wrong with a section that is a table, field by field. -/
def sectionOffences (s : String) : Value → List DocumentError
  | .table held => held.flatMap (entryOffences (fieldsOf s) fieldOffences)
  | _ => []

/-- What is wrong with a document, in its own order. -/
def offences (entries : List (String × Value)) : List DocumentError :=
  entries.flatMap (entryOffences settingsSchema.fields sectionOffences)

/-- A section is a table, and has no key twice. -/
def SectionTable (v : Value) : Prop := ∃ held, v = .table held ∧ (held.map Prod.fst).Nodup

def readSection : Value → Option (String → Option Datum)
  | .table held => some fun k => (held.lookup k).bind Datum.ofValue?
  | _ => none

section Decode

variable {α : Type} {s : Schema α} {holds : α → String → Option Datum}
  {held : List (String × Value)} {a : α}

theorem decode_table_reports (h : s.Takes (fun _ => True) fieldOffences Datum.ofValue? holds) :
    Reports (s.decode (.table held)) (held.flatMap (entryOffences s.fields fieldOffences)) :=
  h.ofEntries_reports fun _ _ _ => trivial

theorem holds_decode_table (h : s.Takes (fun _ => True) fieldOffences Datum.ofValue? holds)
    (hnodup : (held.map Prod.fst).Nodup) (hok : s.decode (.table held) = .ok a) :
    some (holds a) = readSection (.table held) := by
  rw [readSection]
  congr 1
  funext k
  exact h.holds_ofEntries (fun _ _ _ => trivial) hnodup hok k

end Decode

theorem settingsSchema_takes :
    settingsSchema.Takes SectionTable sectionOffences readSection Settings.section? where
  empty k := by
    unfold Settings.section?
    split <;> rfl
  reports a k v hk hmeets := by
    obtain ⟨held, rfl, -⟩ := hmeets
    have hk : k = "call" ∨ k = "callbacks" ∨ k = "loader" := by simpa [settingsSchema] using hk
    rcases hk with rfl | rfl | rfl
    · exact (decode_table_reports callSchema_takes).map _
    · exact (decode_table_reports callbackSchema_takes).map _
    · exact (decode_table_reports loaderSchema_takes).map _
  sets a a' k v hk hmeets hset name := by
    obtain ⟨held, rfl, hnodup⟩ := hmeets
    have hk : k = "call" ∨ k = "callbacks" ∨ k = "loader" := by simpa [settingsSchema] using hk
    rcases hk with rfl | rfl | rfl
    · obtain ⟨c, hc, hset⟩ := bind_eq_ok hset
      cases hset
      rw [← holds_decode_table callSchema_takes hnodup hc]
      unfold Settings.section?
      split <;> simp_all
    · obtain ⟨c, hc, hset⟩ := bind_eq_ok hset
      cases hset
      rw [← holds_decode_table callbackSchema_takes hnodup hc]
      unfold Settings.section?
      split <;> simp_all
    · obtain ⟨c, hc, hset⟩ := bind_eq_ok hset
      cases hset
      rw [← holds_decode_table loaderSchema_takes hnodup hc]
      unfold Settings.section?
      split <;> simp_all

end Config

end CallBridge
