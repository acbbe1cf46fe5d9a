/-
How the tables of a document come together.

Setting a key and adding what stands under a header change a table at one path.  At every table on
that path the change is one step of a mention, and below a key it is a run of what the statement
mentions there.  `shown_of_statements` says so of a whole document, by induction on its sections.
-/
import CallBridge.Proofs.Mentions

namespace CallBridge

namespace Toml

/-! ## Tables under construction -/

section Lookup

variable {α : Type}

theorem lookup_cons_eq (k : String) (a : α) (l : List (String × α)) (name : String) :
    ((k, a) :: l).lookup name = if name = k then some a else l.lookup name := by
  rw [List.lookup_cons]
  by_cases h : name = k
  · simp [h]
  · have hbeq : (name == k) = false := by simpa using h
    simp [hbeq, h]

theorem lookup_eq_some_of_nodup {l : List (String × α)} (h : (l.map Prod.fst).Nodup) {k : String}
    {a : α} : l.lookup k = some a ↔ (k, a) ∈ l := by
  induction l with
  | nil => simp
  | cons e l ih =>
    obtain ⟨key, b⟩ := e
    obtain ⟨hfirst, hrest⟩ := List.nodup_cons.mp h
    rw [lookup_cons_eq, List.mem_cons]
    split
    · rename_i hk
      subst hk
      have hother : (k, a) ∉ l := fun hmem => hfirst (List.mem_map.mpr ⟨_, hmem, rfl⟩)
      simp [hother, eq_comm]
    · rename_i hk
      simp [ih hrest, hk]

theorem lookup_replace (l : List (String × α)) (k : String) (a : α) (name : String) :
    (l.map fun e => if e.1 == k then (k, a) else e).lookup name =
      if name = k then (l.lookup k).map fun _ => a else l.lookup name := by
  induction l with
  | nil => simp
  | cons e l ih =>
    obtain ⟨key, old⟩ := e
    have hfirst : (if key == k then (k, a) else (key, old)) =
        (key, if key = k then a else old) := by
      by_cases hkey : key = k <;> simp [hkey]
    rw [List.map_cons, hfirst, lookup_cons_eq, lookup_cons_eq, lookup_cons_eq, ih]
    by_cases hname : name = k
    · subst hname
      by_cases hkey : key = name
      · simp [hkey]
      · simp [Ne.symm hkey]
    · by_cases hkey : key = k
      · simp [hname, hkey]
      · simp [hname, hkey]

theorem lookup_erase (l : List (String × α)) (k name : String) :
    (l.filter fun e => e.1 != k).lookup name = if name = k then none else l.lookup name := by
  induction l with
  | nil => simp
  | cons e l ih =>
    obtain ⟨key, old⟩ := e
    rw [lookup_cons_eq]
    by_cases hkey : key = k
    · rw [List.filter_cons_of_neg (by simp [hkey]), ih]
      split <;> simp_all
    · rw [List.filter_cons_of_pos (by simp [hkey]), lookup_cons_eq, ih]
      by_cases hname : name = key <;> simp_all

end Lookup

/-- No key twice, and no repeated header without a table. -/
structure Sound (entries : List (String × Item)) : Prop where
  nodup : (entries.map Prod.fst).Nodup
  filled : ∀ k, (k, Item.tables []) ∉ entries

theorem Sound.nil : Sound [] where
  nodup := List.nodup_nil
  filled := by simp

/-- An item that headers or dotted keys made. -/
def Item.Made : Item → Prop
  | .value _ => False
  | .table _ _ _ => True
  | .tables rows => rows ≠ []

theorem Item.Made.datum {i : Item} (h : i.Made) : Datum.ofValue? i.toValue = none := by
  cases i with
  | value => cases h
  | table => simp [Item.toValue, Datum.ofValue?]
  | tables rows =>
    obtain ⟨row, rows, rfl⟩ := List.exists_cons_of_ne_nil h
    simp [Item.toValue, rowValues, Datum.ofValue?, Value.text?]

theorem Item.Made.filled {i : Item} (h : i.Made) : i ≠ .tables [] := by
  rintro rfl
  exact h rfl

namespace Table

def level (t : Table) : Level := levelOf t.values

variable {t t' u u' : Table} {k : String} {i old : Item}

theorem level_eq (t : Table) :
    t.level = t.entries.map fun e => (e.1, Datum.ofValue? e.2.toValue) := by
  simp [level, levelOf, values, entryValues_eq_map]

theorem keys_level (t : Table) : t.level.keys = t.entries.map Prod.fst := by
  simp [level_eq, Level.keys]

theorem find?_eq_some (h : Sound t.entries) : t.find? k = some i ↔ (k, i) ∈ t.entries :=
  lookup_eq_some_of_nodup h.nodup

theorem find?_put (t : Table) (k : String) (i : Item) (name : String) :
    (t.put k i).find? name = if name = k then some i else t.find? name := by
  unfold put
  split
  · rename_i hsome
    rw [find?, lookup_replace]
    split
    · obtain ⟨old, hold⟩ := Option.isSome_iff_exists.mp hsome
      rw [find?] at hold
      simp [hold]
    · rfl
  · rename_i hnone
    have hlookup : t.entries.lookup k = none := Option.not_isSome_iff_eq_none.mp hnone
    rw [find?, List.lookup_append, lookup_cons_eq]
    split
    · rename_i hname
      rw [hname, hlookup]
      rfl
    · simp [find?]

theorem find?_erase (t : Table) (k name : String) :
    (t.erase k).find? name = if name = k then none else t.find? name :=
  lookup_erase t.entries k name

theorem sound_erase {t : Table} (h : Sound t.entries) (k : String) :
    Sound (t.erase k).entries where
  nodup := h.nodup.sublist (List.filter_sublist.map Prod.fst)
  filled := fun name hmem => h.filled name (List.mem_filter.mp hmem).1

theorem put_new_step (h : Sound t.entries) (hnew : t.find? k = none) (hi : i ≠ .tables [])
    (opens : Bool) :
    Level.Step t.level ⟨k, Datum.ofValue? i.toValue, opens⟩ (t.put k i).level ∧
      Sound (t.put k i).entries := by
  have hkey : k ∉ t.entries.map Prod.fst := by
    intro hmem
    obtain ⟨⟨name, old⟩, hentry, rfl⟩ := List.mem_map.mp hmem
    rw [(find?_eq_some h).mpr hentry] at hnew
    cases hnew
  have hput := put_new hkey i
  have hlevel : (t.put k i).level = t.level ++ [(k, Datum.ofValue? i.toValue)] := by
    simp [hput, level_eq]
  rw [hlevel]
  refine ⟨.new (by rwa [keys_level]), ?_, fun name hmem => ?_⟩
  · rw [hput]
    simpa using h.nodup.concat hkey
  · rw [hput] at hmem
    rcases List.mem_append.mp hmem with hmem | hmem
    · exact h.filled name hmem
    · exact hi (congrArg Prod.snd (List.mem_singleton.mp hmem)).symm

/-- What was made by headers or dotted keys is extended in its place. -/
theorem put_made_step (h : Sound t.entries) (hold : t.find? k = some old) (hmade : old.Made)
    (hi : i.Made) :
    Level.Step t.level ⟨k, none, false⟩ (t.put k i).level ∧ Sound (t.put k i).entries := by
  have hput : (t.put k i).entries = t.entries.map fun e => if e.1 == k then (k, i) else e := by
    rw [put, hold]
    rfl
  have hmem := (find?_eq_some h).mp hold
  have hlevel : (t.put k i).level = t.level := by
    rw [level_eq, level_eq, hput, List.map_map]
    refine List.map_congr_left fun e he => ?_
    by_cases hkey : e.1 = k
    · -- the entry is the one that was found, and neither is a datum
      have hsame : e.2 = old := by
        have hfound := (find?_eq_some h).mpr (he : (e.1, e.2) ∈ t.entries)
        rw [hkey, hold] at hfound
        exact (Option.some.inj hfound).symm
      simp [hkey, hsame, hi.datum, hmade.datum]
    · simp [hkey]
  rw [hlevel]
  refine ⟨.again ?_ rfl rfl, ?_, fun name hname => ?_⟩
  · rw [level_eq]
    exact List.mem_map.mpr ⟨_, hmem, by simp [hmade.datum]⟩
  · have hkeys : (t.put k i).entries.map Prod.fst = t.entries.map Prod.fst := by
      rw [hput, List.map_map]
      refine List.map_congr_left fun e _ => ?_
      by_cases hkey : e.1 = k <;> simp [hkey]
    rw [hkeys]
    exact h.nodup
  · rw [hput] at hname
    obtain ⟨e, he, heq⟩ := List.mem_map.mp hname
    split at heq
    · exact hi.filled (congrArg Prod.snd heq)
    · exact h.filled name (heq ▸ he)

/-- A header that names what was implied takes it to the end. -/
theorem reopen_step (h : Sound t.entries) (hold : t.find? k = some old) (hmade : old.Made)
    (hi : i.Made) :
    Level.Step t.level ⟨k, none, true⟩ ((t.erase k).put k i).level ∧
      Sound ((t.erase k).put k i).entries := by
  have hgone : (t.erase k).find? k = none := by simp [find?_erase]
  have hlevel : (t.erase k).level = t.level.filter fun e => e.1 != k := by
    rw [level_eq, level_eq, List.filter_map]
    rfl
  obtain ⟨hstep, hsound⟩ := put_new_step (sound_erase h k) hgone hi.filled true
  refine ⟨?_, hsound⟩
  have hput : ((t.erase k).put k i).level = (t.level.filter fun e => e.1 != k) ++ [(k, none)] := by
    have hkey : k ∉ (t.erase k).entries.map Prod.fst := by simp [erase]
    rw [level_eq, put_new hkey, List.map_append, ← level_eq (t.erase k), hlevel]
    simp [hi.datum]
  rw [hput]
  refine .moved ?_ rfl rfl
  rw [level_eq]
  exact List.mem_map.mpr ⟨_, (find?_eq_some h).mp hold, by simp [hmade.datum]⟩

/-- What headers and dotted keys may put under a key, where it goes. -/
theorem put_step (h : Sound t.entries) (hold : ∀ old, t.find? k = some old → old.Made)
    (hi : i.Made) :
    Level.Step t.level ⟨k, none, false⟩ (t.put k i).level ∧ Sound (t.put k i).entries := by
  cases hfind : t.find? k with
  | none =>
    have hstep := put_new_step h hfind hi.filled false
    rwa [hi.datum] at hstep
  | some old => exact put_made_step h hfind (hold old hfind) hi

/-! ## What an update does -/

/-- What stands under a key after a change: the tables of a repeated header, or a table that has
grown from the one that was there, or from nothing. -/
inductive Grown (t : Table) (k : String) (grow : Table → Table → Prop) : Item → Prop
  | tables (rows : List (List (String × Item))) : Grown t k grow (.tables rows)
  | first {u u' : Table} (hnew : t.find? k = none) (hempty : u.entries = []) (h : grow u u') :
    Grown t k grow u'.item
  | more {u u' : Table} {implied dotted : Bool}
    (hold : t.find? k = some (.table implied dotted u.entries)) (h : grow u u') :
    Grown t k grow u'.item

/-- An update down a path puts something made in place of what is at the head of the path, which
is made itself or missing. -/
theorem update_cons {dotted : Bool} {change : Table → Option Table} {path : List String}
    (h : t.update dotted change (k :: path) = some t') :
    ∃ i, t' = t.put k i ∧ i.Made ∧ (∀ old, t.find? k = some old → old.Made) ∧
      Grown t k (fun u u' => u.update dotted change path = some u') i := by
  rw [update] at h
  split at h
  · rename_i hfind
    obtain ⟨u', hu, ht⟩ := Option.bind_eq_some_iff.mp h
    obtain rfl := Option.some.inj ht
    exact ⟨u'.item, rfl, trivial, by simp [hfind], .first hfind rfl hu⟩
  · cases h
  · rename_i implied made entries hfind
    split at h
    · cases h
    · obtain ⟨u', hu, ht⟩ := Option.bind_eq_some_iff.mp h
      obtain rfl := Option.some.inj ht
      refine ⟨u'.item, rfl, trivial, fun old hold => ?_, .more hfind hu⟩
      obtain rfl := Option.some.inj (hfind.symm.trans hold)
      trivial
  · rename_i rows hfind
    obtain ⟨last, hlast, h⟩ := Option.bind_eq_some_iff.mp h
    obtain ⟨row, hrow, ht⟩ := Option.bind_eq_some_iff.mp h
    obtain rfl := Option.some.inj ht
    refine ⟨_, rfl, by simp [Item.Made], fun old hold => ?_, .tables _⟩
    obtain rfl := Option.some.inj (hfind.symm.trans hold)
    intro hempty
    simp [hempty] at hlast

/-- What `set` does where the path of its key ends. -/
def setChange (e : Entry) (inner : Table) : Option Table :=
  if inner.dotted == e.key.path.isEmpty || (inner.find? e.key.name).isSome then none
  else some (inner.put e.key.name (.value e.value))

theorem set_eq (t : Table) (e : Entry) : t.set e = t.update true (setChange e) e.key.path := rfl

theorem setChange_eq_some {e : Entry} (h : setChange e u = some u') :
    u.find? e.key.name = none ∧ u' = u.put e.key.name (.value e.value) := by
  unfold setChange at h
  split at h
  · cases h
  · rename_i hfree
    simp only [Bool.or_eq_true, not_or, Option.not_isSome_iff_eq_none] at hfree
    exact ⟨hfree.2, (Option.some.inj h).symm⟩

theorem update_set_run {e : Entry} {path : List String}
    (h : t.update true (setChange e) path = some t') (hsound : Sound t.entries) :
    Level.Run t.level (onTheWay (Datum.ofValue? e.value) false (path ++ [e.key.name])) t'.level ∧
      Sound t'.entries := by
  cases path with
  | nil =>
    obtain ⟨hfree, rfl⟩ := setChange_eq_some h
    have hvalue : (Item.value e.value).toValue = e.value := by rw [Item.toValue]
    obtain ⟨hstep, hsound⟩ := put_new_step hsound hfree (by simp : Item.value e.value ≠ .tables [])
      false
    rw [hvalue] at hstep
    exact ⟨hstep.run, hsound⟩
  | cons k path =>
    obtain ⟨i, rfl, hi, hold, -⟩ := update_cons h
    obtain ⟨hstep, hsound⟩ := put_step hsound hold hi
    refine ⟨?_, hsound⟩
    cases path <;> exact hstep.run

theorem setAll_run {entries : List Entry} (h : t.setAll entries = some t')
    (hsound : Sound t.entries) :
    Level.Run t.level
        (entries.flatMap fun e => onTheWay (Datum.ofValue? e.value) false e.key.full) t'.level ∧
      Sound t'.entries := by
  induction entries generalizing t with
  | nil =>
    obtain rfl := Option.some.inj h
    exact ⟨.nil _, hsound⟩
  | cons e entries ih =>
    rw [setAll, List.foldlM_cons] at h
    obtain ⟨u, hset, h⟩ := Option.bind_eq_some_iff.mp h
    obtain ⟨hfirst, hu⟩ := update_set_run hset hsound
    obtain ⟨hrest, hsound'⟩ := ih h hu
    exact ⟨hfirst.append hrest, hsound'⟩

/-- What `addSection` does where the path of its header ends. -/
def sectionChange (header : Header) (entries : List Entry) (parent : Table) : Option Table :=
  match header.repeated, parent.find? header.key.name with
  | false, none => do return parent.put header.key.name (← empty.setAll entries).item
  | false, some (.table true false held) => do
    return (parent.erase header.key.name).put header.key.name
      (← setAll ⟨false, false, held⟩ entries).item
  | true, none => do
    return parent.put header.key.name (.tables [(← empty.setAll entries).entries])
  | true, some (.tables rows) => do
    return parent.put header.key.name (.tables (rows ++ [(← empty.setAll entries).entries]))
  | _, _ => none

theorem addSection_eq (root : Table) (header : Header) (entries : List Entry) :
    root.addSection header entries =
      root.update false (sectionChange header entries) header.key.path := rfl

/-- A header puts what it stands for under its name. -/
theorem sectionChange_step {header : Header} {entries : List Entry}
    (h : sectionChange header entries u = some u') (hsound : Sound u.entries) :
    Level.Step u.level ⟨header.key.name, none, !header.repeated⟩ u'.level ∧ Sound u'.entries ∧
      ∃ i, (∀ name, u'.find? name = if name = header.key.name then some i else u.find? name) ∧
        Grown u header.key.name (fun v v' => v.setAll entries = some v') i := by
  unfold sectionChange at h
  split at h
  · rename_i hrepeated hfind
    obtain ⟨v, hv, hu⟩ := Option.bind_eq_some_iff.mp h
    obtain rfl := Option.some.inj hu
    have hmade : v.item.Made := trivial
    obtain ⟨hstep, hsound'⟩ := put_new_step hsound hfind hmade.filled true
    rw [hmade.datum] at hstep
    rw [hrepeated]
    exact ⟨hstep, hsound', _, find?_put u _ _, .first hfind rfl hv⟩
  · rename_i held hrepeated hfind
    obtain ⟨v, hv, hu⟩ := Option.bind_eq_some_iff.mp h
    obtain rfl := Option.some.inj hu
    have hheld : (Item.table true false held).Made := trivial
    have hmade : v.item.Made := trivial
    obtain ⟨hstep, hsound'⟩ := reopen_step hsound hfind hheld hmade
    rw [hrepeated]
    refine ⟨hstep, hsound', _, fun name => ?_, .more hfind hv⟩
    rw [find?_put, find?_erase]
    split <;> rfl
  · rename_i hrepeated hfind
    obtain ⟨v, hv, hu⟩ := Option.bind_eq_some_iff.mp h
    obtain rfl := Option.some.inj hu
    have hmade : (Item.tables [v.entries]).Made := by simp [Item.Made]
    obtain ⟨hstep, hsound'⟩ := put_new_step hsound hfind hmade.filled false
    rw [hmade.datum] at hstep
    rw [hrepeated]
    exact ⟨hstep, hsound', _, find?_put u _ _, .tables _⟩
  · rename_i rows hrepeated hfind
    obtain ⟨v, hv, hu⟩ := Option.bind_eq_some_iff.mp h
    obtain rfl := Option.some.inj hu
    have hold : (Item.tables rows).Made := by
      rintro rfl
      exact hsound.filled _ ((find?_eq_some hsound).mp hfind)
    have hmade : (Item.tables (rows ++ [v.entries])).Made := by simp [Item.Made]
    obtain ⟨hstep, hsound'⟩ := put_made_step hsound hfind hold hmade
    rw [hrepeated]
    exact ⟨hstep, hsound', _, find?_put u _ _, .tables _⟩
  · cases h

/-- A header is one mention, and the entries under it say no more of the table that its path
starts in. -/
theorem update_section_run {header : Header} {entries : List Entry} {path : List String}
    (h : t.update false (sectionChange header entries) path = some t')
    (hsound : Sound t.entries) :
    Level.Run t.level
        (onTheWay none (!header.repeated) (path ++ [header.key.name]) ++
          entries.flatMap fun e => onTheWay (Datum.ofValue? e.value) false
            (path ++ [header.key.name] ++ e.key.full)) t'.level ∧
      Sound t'.entries := by
  -- the first key of the header's path, and what the header does to it
  obtain ⟨k, rest, m, hpath, hm, hkey, hdatum, hstep, hsound'⟩ : ∃ k rest m,
      path ++ [header.key.name] = k :: rest ∧
        onTheWay none (!header.repeated) (path ++ [header.key.name]) = [m] ∧
        m.key = k ∧ m.datum = none ∧ Level.Step t.level m t'.level ∧ Sound t'.entries := by
    cases path with
    | nil =>
      obtain ⟨hstep, hsound', -⟩ := sectionChange_step h hsound
      exact ⟨_, _, _, rfl, rfl, rfl, rfl, hstep, hsound'⟩
    | cons k path =>
      obtain ⟨i, rfl, hi, hold, -⟩ := update_cons h
      obtain ⟨hstep, hsound'⟩ := put_step hsound hold hi
      exact ⟨k, _, _, rfl, onTheWay_cons none _ k (by simp), rfl, rfl, hstep, hsound'⟩
  refine ⟨?_, hsound'⟩
  rw [hm]
  refine hstep.run.append (.deeper fun m' hm' => ?_)
  obtain ⟨e, -, he⟩ := List.mem_flatMap.mp hm'
  have hmore : rest ++ e.key.full ≠ [] := by simp [Key.full]
  rw [hpath, List.cons_append, onTheWay_cons _ _ _ hmore, List.mem_singleton] at he
  subst he
  have hmem := (hstep.mem (by rw [keys_level]; exact hsound.nodup) (k, none)).mpr
    (Or.inr (by rw [hkey, hdatum]))
  exact ⟨hmem, rfl, rfl⟩

end Table

/-! ## One section of a document -/

/-- What stands under a key shows what was mentioned below it, unless it is the tables of a
repeated header. -/
inductive Reflects (t : Table) (s : String) : List Mention → Prop
  | absent (hfind : t.find? s = none) : Reflects t s []
  | given {ms : List Mention} {v : Value} (hfind : t.find? s = some (.value v))
    (hrun : Level.Run [] ms v.level) : Reflects t s ms
  | built {ms : List Mention} {implied dotted : Bool} {entries : List (String × Item)}
    (hfind : t.find? s = some (.table implied dotted entries)) (hsound : Sound entries)
    (hrun : Level.Run [] ms (levelOf (entryValues entries))) : Reflects t s ms
  | rows {ms : List Mention} {rows : List (List (String × Item))}
    (hfind : t.find? s = some (.tables rows)) : Reflects t s ms

namespace Reflects

variable {t t' : Table} {s : String} {ms : List Mention}

theorem of_find?_eq (h : Reflects t s ms) (heq : t'.find? s = t.find? s) : Reflects t' s ms := by
  cases h with
  | absent hfind => exact .absent (heq.trans hfind)
  | given hfind hrun => exact .given (heq.trans hfind) hrun
  | built hfind hsound hrun => exact .built (heq.trans hfind) hsound hrun
  | rows hfind => exact .rows (heq.trans hfind)

theorem grown {grow : Table → Table → Prop} {i : Item} {ms' : List Mention}
    (h : Reflects t s ms) (hgrown : Table.Grown t s grow i) (hfind : t'.find? s = some i)
    (hgrow : ∀ u u', grow u u' → Sound u.entries →
      Level.Run u.level ms' u'.level ∧ Sound u'.entries) :
    Reflects t' s (ms ++ ms') := by
  cases hgrown with
  | tables rows => exact .rows hfind
  | @first u u' hnew hempty hu =>
    obtain ⟨hrun, hsound⟩ := hgrow u u' hu (hempty ▸ Sound.nil)
    have hlevel : u.level = [] := by rw [Table.level_eq, hempty]; rfl
    rw [hlevel] at hrun
    cases h with
    | absent => exact .built hfind hsound hrun
    | given hold | built hold | rows hold => rw [hnew] at hold; cases hold
  | @more u u' implied dotted hold hu =>
    cases h with
    | absent hnone => rw [hold] at hnone; cases hnone
    | given hvalue => rw [hold] at hvalue; cases hvalue
    | rows hrows => rw [hold] at hrows; cases hrows
    | built htable hsound hrun =>
      rw [hold] at htable
      cases htable
      obtain ⟨hmore, hsound'⟩ := hgrow u u' hu hsound
      exact .built hfind hsound' (hrun.append hmore)

theorem set {e : Entry} (h : Reflects t s ms) (hset : t.set e = some t')
    (hdistinct : e.value.Distinct) : Reflects t' s (ms ++ e.mentions [s] []) := by
  rw [Table.set_eq] at hset
  cases hpath : e.key.path with
  | nil =>
    rw [hpath] at hset
    have hfull : [] ++ e.key.full = [e.key.name] := by simp [Key.full, hpath]
    obtain ⟨hfree, rfl⟩ := Table.setChange_eq_some hset
    by_cases hs : e.key.name = s
    · subst hs
      rw [Entry.mentions_here hfull]
      cases h with
      | absent =>
        refine .given (by rw [Table.find?_put, if_pos rfl]) ?_
        exact Level.run_self hdistinct
      | given hold | built hold | rows hold => rw [hfree] at hold; cases hold
    · rw [Entry.mentions_other hfull hs, List.append_nil]
      exact h.of_find?_eq (by rw [Table.find?_put, if_neg (Ne.symm hs)])
  | cons k path =>
    rw [hpath] at hset
    have hfull : [] ++ e.key.full = k :: (path ++ [e.key.name]) := by simp [Key.full, hpath]
    obtain ⟨i, rfl, -, -, hgrown⟩ := Table.update_cons hset
    by_cases hs : k = s
    · subst hs
      rw [Entry.mentions_below hfull (by simp)]
      exact h.grown hgrown (by rw [Table.find?_put, if_pos rfl])
        fun u u' hu hsound => Table.update_set_run hu hsound
    · rw [Entry.mentions_other hfull hs, List.append_nil]
      exact h.of_find?_eq (by rw [Table.find?_put, if_neg (Ne.symm hs)])

theorem addSection {header : Header} {entries : List Entry} (h : Reflects t s ms)
    (hsound : Sound t.entries) (hadd : t.addSection header entries = some t') :
    Reflects t' s (ms ++ sectionMentions [s] (header, entries)) := by
  rw [Table.addSection_eq] at hadd
  cases hpath : header.key.path with
  | nil =>
    rw [hpath] at hadd
    have hfull : header.key.full = [header.key.name] := by simp [Key.full, hpath]
    obtain ⟨-, -, i, hfind, hgrown⟩ := Table.sectionChange_step hadd hsound
    by_cases hs : header.key.name = s
    · subst hs
      rw [sectionMentions_below hfull]
      exact h.grown hgrown (by rw [hfind, if_pos rfl])
        fun u u' hu hsound => Table.setAll_run hu hsound
    · rw [sectionMentions_other hfull hs, List.append_nil]
      exact h.of_find?_eq (by rw [hfind, if_neg (Ne.symm hs)])
  | cons k path =>
    rw [hpath] at hadd
    have hfull : header.key.full = k :: (path ++ [header.key.name]) := by simp [Key.full, hpath]
    obtain ⟨i, rfl, -, -, hgrown⟩ := Table.update_cons hadd
    by_cases hs : k = s
    · subst hs
      rw [sectionMentions_below hfull]
      exact h.grown hgrown (by rw [Table.find?_put, if_pos rfl])
        fun u u' hu hsound => Table.update_section_run hu hsound
    · rw [sectionMentions_other hfull hs, List.append_nil]
      exact h.of_find?_eq (by rw [Table.find?_put, if_neg (Ne.symm hs)])

end Reflects

/-! ## Documents -/

theorem mem_sections {lines : List Statement} {e : Entry} (h : e ∈ (sections lines).1) :
    .entry e ∈ lines := by
  induction lines with
  | nil => simp [sections] at h
  | cons line lines ih =>
    cases line with
    | entry e' =>
      rcases List.mem_cons.mp h with rfl | h
      · exact List.mem_cons_self
      · exact List.mem_cons_of_mem _ (ih h)
    | header => simp [sections] at h

/-- What statements come to: the document's own table, and each one in it. -/
structure Shown (t : Table) (ms : List Mention) (below : String → List Mention) : Prop where
  sound : Sound t.entries
  run : Level.Run [] ms t.level
  reflects : ∀ s, Reflects t s (below s)

theorem Shown.set {t t' : Table} {e : Entry} {ms : List Mention} {below : String → List Mention}
    (h : Shown t ms below) (hset : t.set e = some t') (hdistinct : e.value.Distinct) :
    Shown t' (ms ++ e.mentions [] []) fun s => below s ++ e.mentions [s] [] := by
  obtain ⟨hrun, hsound⟩ := Table.update_set_run hset h.sound
  refine ⟨hsound, ?_, fun s => (h.reflects s).set hset hdistinct⟩
  rw [Entry.mentions_top]
  exact h.run.append hrun

theorem Shown.setAll {t t' : Table} {entries : List Entry} {ms : List Mention}
    {below : String → List Mention} (h : Shown t ms below) (hset : t.setAll entries = some t')
    (hdistinct : ∀ e ∈ entries, e.value.Distinct) :
    Shown t' (ms ++ entries.flatMap (Entry.mentions [] []))
      fun s => below s ++ entries.flatMap (Entry.mentions [s] []) := by
  induction entries generalizing t ms below with
  | nil =>
    obtain rfl := Option.some.inj hset
    simpa using h
  | cons e entries ih =>
    rw [Table.setAll, List.foldlM_cons] at hset
    obtain ⟨u, hfirst, hrest⟩ := Option.bind_eq_some_iff.mp hset
    have hu := h.set hfirst (hdistinct e List.mem_cons_self)
    have hlater := ih hu hrest fun e' he' => hdistinct e' (List.mem_cons_of_mem e he')
    simpa using hlater

theorem Shown.addSection {t t' : Table} {header : Header} {entries : List Entry}
    {ms : List Mention} {below : String → List Mention} (h : Shown t ms below)
    (hadd : t.addSection header entries = some t') :
    Shown t' (ms ++ sectionMentions [] (header, entries))
      fun s => below s ++ sectionMentions [s] (header, entries) := by
  obtain ⟨hrun, hsound⟩ := Table.update_section_run hadd h.sound
  refine ⟨hsound, ?_, fun s => (h.reflects s).addSection h.sound hadd⟩
  have htop : sectionMentions [] (header, entries) =
      onTheWay none (!header.repeated) (header.key.path ++ [header.key.name]) ++
        entries.flatMap fun e => onTheWay (Datum.ofValue? e.value) false
          (header.key.path ++ [header.key.name] ++ e.key.full) := by
    rw [sectionMentions, Header.mentions_top]
    congr 1
    exact List.flatMap_congr fun e _ => Entry.mentions_top e
  rw [htop]
  exact h.run.append hrun

theorem Shown.addSections {t t' : Table} {later : List (Header × List Entry)} {ms : List Mention}
    {below : String → List Mention} (h : Shown t ms below)
    (hadd : later.foldlM (fun t s => t.addSection s.1 s.2) t = some t') :
    Shown t' (ms ++ later.flatMap (sectionMentions []))
      fun s => below s ++ later.flatMap (sectionMentions [s]) := by
  induction later generalizing t ms below with
  | nil =>
    obtain rfl := Option.some.inj hadd
    simpa using h
  | cons first later ih =>
    rw [List.foldlM_cons] at hadd
    obtain ⟨u, hfirst, hrest⟩ := Option.bind_eq_some_iff.mp hadd
    have hlater := ih (h.addSection hfirst) hrest
    simpa using hlater

theorem shown_of_statements {lines : List Statement} {t : Table}
    (h : Table.ofStatements? lines = some t)
    (hdistinct : ∀ e, .entry e ∈ lines → e.value.Distinct) :
    Shown t (mentions [] [] lines) fun s => mentions [s] [] lines := by
  unfold Table.ofStatements? at h
  obtain ⟨root, hroot, hlater⟩ := Option.bind_eq_some_iff.mp h
  have hempty : Shown Table.empty [] fun _ => [] :=
    ⟨Sound.nil, .nil [], fun _ => .absent rfl⟩
  have hshown := (hempty.setAll hroot fun e he => hdistinct e (mem_sections he)).addSections hlater
  simp only [mentions_eq_sections]
  simpa using hshown

end Toml

end CallBridge
