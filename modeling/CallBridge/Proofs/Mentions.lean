/-
What the statements of a document say of its tables.

A statement mentions a key of a table when its full path leads through that table, whether headers,
dotted keys or an inline table spell the path.  Each mention then does one of three things to the
keys of the table: it adds one, leaves them, or moves one to the end, when a header opens a table
that was only implied.  `Level.Run.keys` gives the order of the keys that a run of mentions comes
to, and `Level.Run.mem` what they hold.
-/
import Mathlib.Data.List.Induction
import Mathlib.Data.List.Nodup
import CallBridge.Proofs.WrittenDocuments

namespace CallBridge

namespace Toml

/-! ## Mentions -/

def Value.text? : Value → Option String
  | .string s => some s
  | _ => none

/-- What a value is to a setting: a flag, a text or several, or nothing of the kind. -/
def Datum.ofValue? : Value → Option Datum
  | .boolean b => some (.flag b)
  | .string s => some (.text s)
  | .array items => (items.mapM Value.text?).map .texts
  | _ => none

abbrev Level := List (String × Option Datum)

def Level.keys (l : Level) : List String := l.map Prod.fst

def levelOf (entries : List (String × Value)) : Level :=
  entries.map fun e => (e.1, Datum.ofValue? e.2)

/-- What a value shows of itself as a table. -/
def Value.level : Value → Level
  | .table held => levelOf held
  | _ => []

def Value.Distinct (v : Value) : Prop := v.level.keys.Nodup

/-- What a document says of one key of a table: the datum it gives it, and whether a header opens
the table under it. -/
structure Mention where
  key : String
  datum : Option Datum
  opens : Bool

/-- The mention on the way down a path, of its first key. -/
def onTheWay (datum : Option Datum) (opens : Bool) : List String → List Mention
  | [] => []
  | [k] => [⟨k, datum, opens⟩]
  | k :: _ :: _ => [⟨k, none, false⟩]

def Key.full (k : Key) : List String := k.path ++ [k.name]

/-- What an entry under a header says of the table at `place`.  An inline table that stands there
says all it holds. -/
def Entry.mentions (place under : List String) (e : Entry) : List Mention :=
  match place.isPrefixOf? (under ++ e.key.full) with
  | none => []
  | some [] => e.value.level.map fun held => ⟨held.1, held.2, false⟩
  | some rest => onTheWay (Datum.ofValue? e.value) false rest

def Header.mentions (place : List String) (h : Header) : List Mention :=
  match place.isPrefixOf? h.key.full with
  | none => []
  | some rest => onTheWay none (!h.repeated) rest

/-- What statements say of the table at `place`, under the header they stand under. -/
def mentions (place : List String) : List String → List Statement → List Mention
  | _, [] => []
  | under, .entry e :: rest => e.mentions place under ++ mentions place under rest
  | _, .header h :: rest => h.mentions place ++ mentions place h.key.full rest

theorem onTheWay_cons (datum : Option Datum) (opens : Bool) (k : String) {rest : List String}
    (h : rest ≠ []) : onTheWay datum opens (k :: rest) = [⟨k, none, false⟩] := by
  obtain ⟨k', rest, rfl⟩ := List.exists_cons_of_ne_nil h
  rfl

section Place

variable {s k : String} {under rest : List String}

theorem Entry.mentions_top (e : Entry) :
    e.mentions [] under = onTheWay (Datum.ofValue? e.value) false (under ++ e.key.full) := by
  obtain ⟨k, rest, hfull⟩ := List.exists_cons_of_ne_nil
    (by simp [Key.full] : under ++ e.key.full ≠ [])
  rw [Entry.mentions, hfull]
  rfl

theorem Entry.mentions_other {e : Entry} (hfull : under ++ e.key.full = k :: rest) (hne : k ≠ s) :
    e.mentions [s] under = [] := by
  simp [Entry.mentions, hfull, List.isPrefixOf?, Ne.symm hne]

theorem Entry.mentions_here {e : Entry} (hfull : under ++ e.key.full = [s]) :
    e.mentions [s] under = e.value.level.map fun held => ⟨held.1, held.2, false⟩ := by
  simp [Entry.mentions, hfull, List.isPrefixOf?]

theorem Entry.mentions_below {e : Entry} (hfull : under ++ e.key.full = s :: rest)
    (hrest : rest ≠ []) :
    e.mentions [s] under = onTheWay (Datum.ofValue? e.value) false rest := by
  obtain ⟨k, rest, rfl⟩ := List.exists_cons_of_ne_nil hrest
  simp [Entry.mentions, hfull, List.isPrefixOf?]

theorem Header.mentions_top (h : Header) :
    h.mentions [] = onTheWay none (!h.repeated) h.key.full := rfl

theorem Header.mentions_other {h : Header} (hfull : h.key.full = k :: rest) (hne : k ≠ s) :
    h.mentions [s] = [] := by
  simp [Header.mentions, hfull, List.isPrefixOf?, Ne.symm hne]

theorem Header.mentions_below {h : Header} (hfull : h.key.full = s :: rest) :
    h.mentions [s] = onTheWay none (!h.repeated) rest := by
  simp [Header.mentions, hfull, List.isPrefixOf?]

end Place

def sectionMentions (place : List String) (part : Header × List Entry) : List Mention :=
  part.1.mentions place ++ part.2.flatMap (Entry.mentions place part.1.key.full)

theorem sectionMentions_other {s k : String} {h : Header} {rest : List String}
    (hfull : h.key.full = k :: rest) (hne : k ≠ s) (entries : List Entry) :
    sectionMentions [s] (h, entries) = [] := by
  have hentries : entries.flatMap (Entry.mentions [s] h.key.full) = [] := by
    refine List.flatMap_eq_nil_iff.mpr fun e _ => ?_
    exact Entry.mentions_other (by rw [hfull, List.cons_append]) hne
  rw [sectionMentions, hentries, Header.mentions_other hfull hne]
  rfl

theorem sectionMentions_below {s : String} {h : Header} {rest : List String}
    (hfull : h.key.full = s :: rest) (entries : List Entry) :
    sectionMentions [s] (h, entries) = onTheWay none (!h.repeated) rest ++
      entries.flatMap fun e => onTheWay (Datum.ofValue? e.value) false (rest ++ e.key.full) := by
  rw [sectionMentions, Header.mentions_below hfull]
  congr 1
  refine List.flatMap_congr fun e _ => ?_
  exact Entry.mentions_below (by rw [hfull, List.cons_append]) (by simp [Key.full])

theorem mentions_eq_sections (place under : List String) (lines : List Statement) :
    mentions place under lines =
      (sections lines).1.flatMap (Entry.mentions place under) ++
        (sections lines).2.flatMap (sectionMentions place) := by
  induction lines generalizing under with
  | nil => rfl
  | cons line lines ih =>
    cases line with
    | entry e => simp [mentions, sections, ih]
    | header h => simp [mentions, sections, ih, sectionMentions]

/-! ## Steps -/

namespace Level

/-- What a mention does to a table. -/
inductive Step : Level → Mention → Level → Prop
  | new {l : Level} {m : Mention} (hnew : m.key ∉ l.keys) : Step l m (l ++ [(m.key, m.datum)])
  | again {l : Level} {m : Mention} (hold : (m.key, none) ∈ l) (hdatum : m.datum = none)
    (hopens : m.opens = false) : Step l m l
  | moved {l : Level} {m : Mention} (hold : (m.key, none) ∈ l) (hdatum : m.datum = none)
    (hopens : m.opens = true) : Step l m (l.filter (fun e => e.1 != m.key) ++ [(m.key, none)])

inductive Run : Level → List Mention → Level → Prop
  | nil (l : Level) : Run l [] l
  | cons {l l' l'' : Level} {m : Mention} {ms : List Mention} (h : Step l m l')
    (hrest : Run l' ms l'') : Run l (m :: ms) l''

variable {l l' l'' : Level} {m : Mention} {ms ms' : List Mention}

theorem Step.run (h : Step l m l') : Run l [m] l' := .cons h (.nil l')

theorem Run.append (h : Run l ms l') (h' : Run l' ms' l'') : Run l (ms ++ ms') l'' := by
  induction h with
  | nil => exact h'
  | cons hstep _ ih => exact .cons hstep (ih h')

/-- Mentions on the way to what is deeper leave a table that is there as it is. -/
theorem Run.deeper (h : ∀ m ∈ ms, (m.key, none) ∈ l ∧ m.datum = none ∧ m.opens = false) :
    Run l ms l := by
  induction ms with
  | nil => exact .nil l
  | cons m ms ih =>
    obtain ⟨hold, hdatum, hopens⟩ := h m List.mem_cons_self
    exact .cons (.again hold hdatum hopens) (ih fun m' hm => h m' (List.mem_cons_of_mem m hm))

/-- The order of keys after one more mention: a key that is new goes to the end, and so does one
whose table a header opens. -/
def appear (seen : List String) (m : Mention) : List String :=
  if m.key ∈ seen then
    if m.opens then seen.filter (· != m.key) ++ [m.key] else seen
  else seen ++ [m.key]

/-- A header opens a table that was mentioned before. -/
def Reopens (ms : List Mention) : Prop :=
  ∃ before m after, ms = before ++ m :: after ∧ m.opens = true ∧ m.key ∈ before.map Mention.key

/-- Where no table is reopened, keys stand in the order of their first appearance. -/
theorem appear_eq_eraseDups {ms : List Mention} (h : ¬Reopens ms) :
    ms.foldl appear [] = (ms.map Mention.key).eraseDups := by
  induction ms using List.reverseRecOn with
  | nil => rfl
  | append_singleton ms m ih =>
    have hbefore : ¬Reopens ms := by
      rintro ⟨before, m', after, rfl, hm'⟩
      exact h ⟨before, m', after ++ [m], by simp, hm'⟩
    rw [List.foldl_concat, ih hbefore, List.map_append, List.eraseDups_append, appear]
    by_cases hseen : m.key ∈ ms.map Mention.key
    · have hclosed : m.opens ≠ true := fun hopens => h ⟨ms, m, [], rfl, hopens, hseen⟩
      have hnone : (List.map Mention.key [m]).removeAll (ms.map Mention.key) = [] := by
        simpa [List.removeAll] using hseen
      rw [if_pos (List.mem_eraseDups.mpr hseen), if_neg hclosed, hnone, List.eraseDups_nil,
        List.append_nil]
    · have hone : (List.map Mention.key [m]).removeAll (ms.map Mention.key) = [m.key] := by
        simpa [List.removeAll] using hseen
      rw [if_neg (mt List.mem_eraseDups.mp hseen), hone]
      rfl

/-- The order in which keys appear: that of their first mention, but for tables that are
reopened. -/
structure Appearing (ms : List Mention) (keys : List String) : Prop where
  appear : keys = ms.foldl appear []
  first : ¬Reopens ms → keys = (ms.map Mention.key).eraseDups

theorem mem_keys {k : String} : k ∈ l.keys ↔ ∃ d, (k, d) ∈ l := by
  simp [keys]

theorem keys_append (l l' : Level) : Level.keys (l ++ l') = l.keys ++ l'.keys := List.map_append

theorem keys_filter (l : Level) (k : String) :
    Level.keys (l.filter fun e => e.1 != k) = l.keys.filter (· != k) := by
  rw [keys, keys, List.filter_map]
  rfl

theorem Step.keys (h : Step l m l') : l'.keys = appear l.keys m := by
  cases h with
  | new hnew =>
    rw [appear, if_neg hnew, keys_append]
    rfl
  | again hold _ hopens => simp [appear, hopens, mem_keys.mpr ⟨_, hold⟩]
  | moved hold _ hopens =>
    rw [appear, if_pos (mem_keys.mpr ⟨_, hold⟩), if_pos hopens, keys_append, keys_filter]
    rfl

theorem Run.keys (h : Run l ms l') : l'.keys = ms.foldl appear l.keys := by
  induction h with
  | nil => rfl
  | cons hstep _ ih => rw [ih, hstep.keys, List.foldl_cons]

theorem Run.appearing (h : Run [] ms l) : Appearing ms l.keys where
  appear := h.keys
  first := fun hnot => h.keys.trans (appear_eq_eraseDups hnot)

theorem Step.nodup (h : Step l m l') (hnodup : l.keys.Nodup) : l'.keys.Nodup := by
  have hend : ∀ {ks : List String}, ks.Nodup → m.key ∉ ks → (ks ++ [m.key]).Nodup := by
    intro ks hks hkey
    simpa using hks.concat hkey
  rw [h.keys, appear]
  split
  · split
    · exact hend (hnodup.filter _) (by simp)
    · exact hnodup
  · exact hend hnodup ‹_›

theorem Run.nodup (h : Run l ms l') (hnodup : l.keys.Nodup) : l'.keys.Nodup := by
  induction h with
  | nil => exact hnodup
  | cons hstep _ ih => exact ih (hstep.nodup hnodup)

theorem eq_of_keys_nodup {l : Level} (hnodup : l.keys.Nodup) {k : String} {d d' : Option Datum}
    (h : (k, d) ∈ l) (h' : (k, d') ∈ l) : d = d' :=
  congrArg Prod.snd (List.inj_on_of_nodup_map hnodup h h' rfl)

/-- A key holds what a mention of it said, and every mention said what its key holds. -/
theorem Step.mem (h : Step l m l') (hnodup : l.keys.Nodup) (x : String × Option Datum) :
    x ∈ l' ↔ x ∈ l ∨ x = (m.key, m.datum) := by
  cases h with
  | new => simp
  | again hold hdatum =>
    rw [hdatum]
    exact (or_iff_left_of_imp fun h => h ▸ hold).symm
  | moved hold hdatum =>
    rw [hdatum, List.mem_append, List.mem_filter, List.mem_singleton]
    constructor
    · exact Or.imp_left And.left
    · intro hx
      by_cases hkey : x.1 = m.key
      · -- the key has no other entry that the filter could lose
        rcases hx with hx | hx
        · have hd := eq_of_keys_nodup hnodup (hkey ▸ hx : (m.key, x.2) ∈ l) hold
          exact Or.inr (Prod.ext hkey hd)
        · exact Or.inr hx
      · rcases hx with hx | hx
        · exact Or.inl ⟨hx, by simpa using hkey⟩
        · exact absurd (congrArg Prod.fst hx) hkey

theorem Run.mem (h : Run l ms l') (hnodup : l.keys.Nodup) (x : String × Option Datum) :
    x ∈ l' ↔ x ∈ l ∨ ∃ m ∈ ms, x = (m.key, m.datum) := by
  induction h with
  | nil => simp
  | cons hstep _ ih =>
    rw [ih (hstep.nodup hnodup), hstep.mem hnodup]
    simp [or_assoc]

/-- A table that is read off in its own order is a run. -/
theorem run_self (h : (l ++ l').keys.Nodup) :
    Run l (l'.map fun e => ⟨e.1, e.2, false⟩) (l ++ l') := by
  induction l' generalizing l with
  | nil =>
    rw [List.append_nil]
    exact .nil l
  | cons e l' ih =>
    have hnew : e.1 ∉ l.keys := by
      rw [keys_append] at h
      exact fun hmem => (List.nodup_append.mp h).2.2 _ hmem _ List.mem_cons_self rfl
    have hrest := ih (l := l ++ [e]) (by simpa using h)
    rw [List.append_assoc] at hrest
    exact .cons (.new hnew) hrest

end Level

end Toml

end CallBridge
