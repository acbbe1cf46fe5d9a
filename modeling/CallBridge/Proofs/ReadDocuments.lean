/-
The tables of a text.

A value that is read has no key twice, so `assembled_of_parse` can say of every text that is a
document that its tables are what its statements mention: the order of their keys and what they
hold can be read off the statements.
-/
import CallBridge.Proofs.Assembly

namespace CallBridge

namespace Toml

/-! ## Values as they are read -/

def Plain (r : Reader Value) : Prop := ∀ cs v rest, r cs = some (v, rest) → v.level = []

theorem Plain.firstOf {rs : List (Reader Value)} (h : ∀ r ∈ rs, Plain r) :
    Plain (firstOf rs) := by
  intro cs v rest hread
  obtain ⟨r, hr, hread⟩ := List.exists_of_findSome?_eq_some hread
  exact h r hr cs v rest hread

theorem level_integerValue {n : Int} {v : Value} (h : integerValue n = some v) : v.level = [] := by
  unfold integerValue at h
  split at h <;> cases h
  rfl

theorem plain_datetime : Plain datetime := by
  intro cs v rest h
  unfold datetime at h
  split at h
  · cases h
    rfl
  · obtain ⟨_, -, heq⟩ := Option.map_eq_some_iff.mp h
    cases heq
    rfl

theorem plain_float : Plain float := by
  intro cs v rest h
  simp only [float, Option.bind_eq_bind, Option.bind_eq_some_iff] at h
  obtain ⟨_, -, _, -, _, -, _, -, h⟩ := h
  repeat' split at h
  all_goals cases h
  rfl

theorem plain_specialFloat : Plain specialFloat := by
  intro cs v rest h
  simp only [specialFloat, Option.bind_eq_bind, Option.bind_eq_some_iff] at h
  obtain ⟨_, -, h⟩ := h
  split at h
  · cases h
    rfl
  · cases h
    rfl
  · cases h

theorem plain_basedInteger (base : Nat) (isDigit : Char → Bool) :
    Plain (basedInteger base isDigit) := by
  intro cs v rest h
  simp only [basedInteger, Option.bind_eq_bind, Option.bind_eq_some_iff] at h
  obtain ⟨_, -, w, hw, h⟩ := h
  cases h
  exact level_integerValue hw

theorem plain_integer : Plain integer := by
  intro cs v rest h
  unfold integer at h
  split at h
  · exact plain_basedInteger _ _ _ _ _ h
  · exact plain_basedInteger _ _ _ _ _ h
  · exact plain_basedInteger _ _ _ _ _ h
  · simp only [Option.bind_eq_bind, Option.bind_eq_some_iff] at h
    obtain ⟨_, -, _, -, w, hw, h⟩ := h
    cases h
    exact level_integerValue hw

theorem plain_scalar : Plain scalar := by
  intro cs v rest h
  unfold scalar at h
  split at h
  · obtain ⟨_, -, heq⟩ := Option.map_eq_some_iff.mp h
    cases heq
    rfl
  · obtain ⟨_, -, heq⟩ := Option.map_eq_some_iff.mp h
    cases heq
    rfl
  · cases h
    rfl
  · cases h
    rfl
  · refine Plain.firstOf (fun r hr => ?_) _ _ _ h
    simp only [List.mem_cons, List.not_mem_nil, or_false] at hr
    rcases hr with rfl | rfl | rfl | rfl
    · exact plain_datetime
    · exact plain_float
    · exact plain_specialFloat
    · exact plain_integer

theorem distinct_of_level {v : Value} (h : v.level = []) : v.Distinct := by
  rw [Value.Distinct, h]
  exact List.nodup_nil

theorem distinct_of_setAll {entries : List Entry} {t : Table}
    (h : Table.empty.setAll entries = some t) : (Value.table t.values).Distinct :=
  (Table.setAll_run h Sound.nil).1.nodup List.nodup_nil

theorem distinct_inlineTable (item : Reader Value) {cs rest : List Char} {v : Value}
    (h : inlineTable item cs = some (v, rest)) : v.Distinct := by
  unfold inlineTable at h
  split at h
  · cases h
    exact distinct_of_level rfl
  · simp only [Option.bind_eq_bind, Option.bind_eq_some_iff] at h
    obtain ⟨_, -, t, ht, h⟩ := h
    cases h
    exact distinct_of_setAll ht

theorem distinct_value {depth : Nat} {cs rest : List Char} {v : Value}
    (h : value depth cs = some (v, rest)) : v.Distinct := by
  cases depth with
  | zero => exact distinct_of_level (plain_scalar _ _ _ h)
  | succ depth =>
    unfold value at h
    split at h
    · simp only [Option.bind_eq_bind, Option.bind_eq_some_iff] at h
      obtain ⟨_, -, h⟩ := h
      cases h
      exact distinct_of_level rfl
    · exact distinct_inlineTable _ h
    · exact distinct_of_level (plain_scalar _ _ _ h)

theorem distinct_statement {cs rest : List Char} {e : Entry}
    (h : statement cs = some (.entry e, rest)) : e.value.Distinct := by
  unfold statement at h
  split at h
  · obtain ⟨_, -, heq⟩ := Option.map_eq_some_iff.mp h
    cases heq
  · obtain ⟨_, -, heq⟩ := Option.map_eq_some_iff.mp h
    cases heq
  · obtain ⟨_, hentry, heq⟩ := Option.map_eq_some_iff.mp h
    cases heq
    simp only [entry, entryOf, Option.bind_eq_bind, Option.bind_eq_some_iff] at hentry
    obtain ⟨_, -, hentry⟩ := hentry
    split at hentry
    · simp only [Option.bind_eq_some_iff] at hentry
      obtain ⟨_, hvalue, hentry⟩ := hentry
      cases hentry
      exact distinct_value hvalue
    · cases hentry

theorem distinct_of_statements {fuel : Nat} {cs : List Char} {lines : List Statement}
    (h : statements fuel cs = some lines) {e : Entry} (he : .entry e ∈ lines) :
    e.value.Distinct := by
  induction fuel generalizing cs lines with
  | zero => simp [statements] at h
  | succ fuel ih =>
    cases cs with
    | nil =>
      simp only [statements] at h
      cases h
      cases he
    | cons c cs =>
      simp only [statements] at h
      split at h
      · exact ih h he
      · simp only [Option.bind_eq_bind, Option.bind_eq_some_iff] at h
        obtain ⟨⟨line, rest⟩, hline, after, -, later, hlater, h⟩ := h
        cases h
        rcases List.mem_cons.mp he with rfl | he
        · exact distinct_statement hline
        · exact ih hlater he

/-! ## Texts -/

def lines? (text : String) : Option (List Statement) :=
  statements ((dropMark text.toList).length + 1) (dropMark text.toList)

theorem parse?_eq (text : String) :
    parse? text = (lines? text).bind fun lines => (Table.ofStatements? lines).map Table.values := by
  unfold parse? lines?
  simp only [Option.bind_eq_bind]
  congr 1
  funext lines
  cases Table.ofStatements? lines <;> rfl

theorem lookup_values (t : Table) (s : String) :
    t.values.lookup s = (t.find? s).map Item.toValue := by
  rw [Table.values, Table.find?, entryValues_eq_map]
  induction t.entries with
  | nil => rfl
  | cons e entries ih =>
    rw [List.map_cons, lookup_cons_eq, lookup_cons_eq, ih]
    split <;> rfl

/-- What a document holds under a key, if that is a table. -/
def heldUnder (entries : List (String × Value)) (s : String) : List (String × Value) :=
  match entries.lookup s with
  | some (.table held) => held
  | _ => []

/-- The tables of a document are what its statements mention. -/
structure Assembled (lines : List Statement) (entries : List (String × Value)) : Prop where
  top : Level.Run [] (mentions [] [] lines) (levelOf entries)
  below : ∀ s, (∀ v, entries.lookup s = some v → ∃ held, v = .table held) →
    Level.Run [] (mentions [s] [] lines) (levelOf (heldUnder entries s))

theorem assembled_of_parse {text : String} {lines : List Statement}
    {entries : List (String × Value)} (hlines : lines? text = some lines)
    (hparse : parse? text = some entries) : Assembled lines entries := by
  rw [parse?_eq, hlines, Option.bind_some, Option.map_eq_some_iff] at hparse
  obtain ⟨t, ht, rfl⟩ := hparse
  have hshown := shown_of_statements ht fun e he => distinct_of_statements hlines he
  refine ⟨hshown.run, fun s htable => ?_⟩
  unfold heldUnder
  rw [lookup_values] at htable ⊢
  have hreflects : Reflects t s (mentions [s] [] lines) := hshown.reflects s
  generalize mentions [s] [] lines = ms at hreflects ⊢
  cases hreflects with
  | absent hfind =>
    rw [hfind]
    exact .nil []
  | given hfind hrun =>
    rw [hfind, Option.map_some, Item.toValue] at htable ⊢
    obtain ⟨held, rfl⟩ := htable _ rfl
    exact hrun
  | built hfind hsound hrun =>
    rw [hfind, Option.map_some, Item.toValue]
    exact hrun
  | rows hfind =>
    rw [hfind] at htable
    obtain ⟨held, heq⟩ := htable _ rfl
    rw [Item.toValue] at heq
    cases heq

end Toml

end CallBridge
