/-
Histories of a registry.

A history is a log of what was done to a registry since it was empty.  `History.sound` says
what any log with fewer registrations than there are words tells: which keys were issued, how
many functions there are, and which function a key has.
-/
import CallBridge.Registry
import Mathlib.Data.List.Nodup

namespace CallBridge

namespace Registry

/-- What a registry can be asked for. -/
inductive Operation (φ : Type) where
  | register (f : φ)
  | revoke (key : FunctionKey)
  | resolve (key : FunctionKey)

/-- An operation with its outcome. -/
inductive Event (φ : Type) where
  | registered (key : FunctionKey) (f : φ)
  | revoked (key : FunctionKey) (f : φ)
  | resolved (key : FunctionKey) (f : φ)
  /-- A revocation or resolution that found nothing. -/
  | missed (key : FunctionKey)

variable {φ : Type}

def perform (r : Registry φ) : Operation φ → Event φ × Registry φ
  | .register f => (.registered (r.register f).1 f, (r.register f).2)
  | .revoke key => ((r.revoke key).1.elim (.missed key) (.revoked key), (r.revoke key).2)
  | .resolve key => ((r.resolve? key).elim (.missed key) (.resolved key), r)

/-- What a registry is after the events of a log. -/
inductive History : List (Event φ) → Registry φ → Prop
  | empty : History [] empty
  | step {log : List (Event φ)} {r : Registry φ} (h : History log r) (op : Operation φ) :
    History (log ++ [(r.perform op).1]) (r.perform op).2

/-! ## Logs -/

def Event.issued? : Event φ → Option FunctionKey
  | registered key _ => some key
  | _ => none

def Event.isRevocation : Event φ → Bool
  | revoked _ _ => true
  | _ => false

/-- The keys that registrations returned, in order. -/
def issued (log : List (Event φ)) : List FunctionKey := log.filterMap Event.issued?

def registrations (log : List (Event φ)) : Nat := (issued log).length

/-- The revocations that removed a function. -/
def revocations (log : List (Event φ)) : Nat := log.countP Event.isRevocation

/-- By this log, `f` was registered under `key` and has not been revoked since. -/
def Live (log : List (Event φ)) (key : FunctionKey) (f : φ) : Prop :=
  ∃ before since, log = before ++ .registered key f :: since ∧ ∀ g, .revoked key g ∉ since

theorem issued_concat (log : List (Event φ)) (e : Event φ) :
    issued (log ++ [e]) = issued log ++ e.issued?.toList := by
  rw [issued, List.filterMap_append, List.filterMap_cons]
  cases e.issued? <;> rfl

theorem revocations_concat (log : List (Event φ)) (e : Event φ) :
    revocations (log ++ [e]) = revocations log + if e.isRevocation then 1 else 0 := by
  simp [revocations, List.countP_append, List.countP_cons]

theorem live_concat {log : List (Event φ)} {e : Event φ} {key : FunctionKey} {f : φ} :
    Live (log ++ [e]) key f ↔
      e = .registered key f ∨ (Live log key f ∧ ∀ g, e ≠ .revoked key g) := by
  constructor
  · rintro ⟨before, since, hlog, hsince⟩
    rcases List.eq_nil_or_concat since with rfl | ⟨since, last, rfl⟩
    · exact Or.inl (List.cons.inj (List.append_inj' hlog rfl).2).1
    · rw [List.concat_eq_append, ← List.cons_append, ← List.append_assoc] at hlog
      obtain ⟨rfl, hlast⟩ := List.append_inj' hlog rfl
      cases hlast
      rw [List.concat_eq_append] at hsince
      refine Or.inr ⟨⟨before, since, rfl, fun g hg => ?_⟩, fun g hg => ?_⟩
      · exact hsince g (List.mem_append_left _ hg)
      · exact hsince g (List.mem_append_right _ (hg ▸ List.mem_singleton_self e))
  · rintro (rfl | ⟨⟨before, since, rfl, hsince⟩, hne⟩)
    · exact ⟨log, [], rfl, fun _ hg => by cases hg⟩
    · refine ⟨before, since ++ [e], ?_, fun g hg => ?_⟩
      · rw [List.append_assoc, List.cons_append]
      · rcases List.mem_append.mp hg with hg | hg
        · exact hsince g hg
        · exact hne g (List.mem_singleton.mp hg).symm

theorem Live.mem_issued {log : List (Event φ)} {key : FunctionKey} {f : φ} (h : Live log key f) :
    key ∈ issued log := by
  obtain ⟨before, since, rfl, -⟩ := h
  exact List.mem_filterMap.mpr ⟨_, List.mem_append_right _ List.mem_cons_self, rfl⟩

/-! ## Functions by key -/

theorem resolve?_eq_none {r : Registry φ} {key : FunctionKey} :
    r.resolve? key = none ↔ key ∉ r.functions.map Prod.fst := by
  rw [resolve?, List.lookup_eq_none_iff]
  constructor
  · intro h hmem
    obtain ⟨e, he, rfl⟩ := List.mem_map.mp hmem
    exact bne_iff_ne.mp (h e he) rfl
  · intro h e he
    exact bne_iff_ne.mpr fun hkey => h (List.mem_map.mpr ⟨e, he, hkey.symm⟩)

theorem filter_ne_of_none {r : Registry φ} {key : FunctionKey} (h : r.resolve? key = none) :
    (r.functions.filter fun e => e.1 != key) = r.functions := by
  refine List.filter_eq_self.mpr fun e he => bne_iff_ne.mpr fun hkey => ?_
  exact resolve?_eq_none.mp h (List.mem_map.mpr ⟨e, he, hkey⟩)

theorem resolve?_revoke (r : Registry φ) (key : FunctionKey) :
    (r.revoke key).2.resolve? key = none := by
  refine resolve?_eq_none.mpr fun hmem => ?_
  obtain ⟨e, he, hkey⟩ := List.mem_map.mp hmem
  exact bne_iff_ne.mp (List.mem_filter.mp he).2 hkey

theorem resolve?_revoke_of_ne (r : Registry φ) {key other : FunctionKey} (h : other ≠ key) :
    (r.revoke key).2.resolve? other = r.resolve? other := by
  show (r.functions.filter _).lookup other = r.functions.lookup other
  induction r.functions with
  | nil => rfl
  | cons e rest ih =>
    by_cases hkey : e.1 = key
    · have hother : (other == e.1) = false := beq_false_of_ne (hkey ▸ h)
      rw [List.filter_cons_of_neg (by rw [bne_iff_ne]; exact fun hne => hne hkey), ih,
        List.lookup_cons, hother]
    · have hkept : ((e.1 != key) : Bool) = true := bne_iff_ne.mpr hkey
      rw [List.filter_cons, if_pos hkept, List.lookup_cons, List.lookup_cons, ih]

theorem resolve?_register (r : Registry φ) (f : φ) :
    (r.register f).2.resolve? r.next = some f := by
  show ((r.revoke r.next).2.functions ++ [(r.next, f)]).lookup r.next = _
  have hnone : (r.revoke r.next).2.functions.lookup r.next = none := resolve?_revoke r r.next
  rw [List.lookup_append, hnone]
  exact List.lookup_cons_self

theorem resolve?_register_of_ne (r : Registry φ) (f : φ) {key : FunctionKey} (h : key ≠ r.next) :
    (r.register f).2.resolve? key = r.resolve? key := by
  show ((r.revoke r.next).2.functions ++ [(r.next, f)]).lookup key = _
  have hsame : (r.revoke r.next).2.functions.lookup key = r.resolve? key :=
    resolve?_revoke_of_ne r h
  have hnew : [(r.next, f)].lookup key = none := by
    rw [List.lookup_cons, beq_false_of_ne h]
    rfl
  rw [List.lookup_append, hsame, hnew, Option.or_none]

theorem size_revoke {r : Registry φ} {key : FunctionKey} {f : φ}
    (hkeys : (r.functions.map Prod.fst).Nodup) (h : r.resolve? key = some f) :
    (r.revoke key).2.size + 1 = r.size := by
  have hmem : key ∈ r.functions.map Prod.fst := by
    by_contra hnot
    rw [resolve?_eq_none.mpr hnot] at h
    cases h
  have hone : r.functions.countP (fun e => e.1 == key) = 1 := by
    have hcount := List.count_eq_one_of_mem hkeys hmem
    rwa [List.count, List.countP_map] at hcount
  have hall : r.functions.length = r.functions.countP (fun e => e.1 == key) +
      r.functions.countP (fun e => ¬(e.1 == key) = true) :=
    List.length_eq_countP_add_countP _
  have hrest : (r.revoke key).2.size = r.functions.countP fun e => ¬(e.1 == key) = true := by
    show (r.functions.filter _).length = _
    rw [List.countP_eq_length_filter]
    congr 2
    funext e
    cases hkey : e.1 == key <;> simp [bne, hkey]
  unfold size at *
  omega

/-! ## The invariant -/

/-- What a log tells of the registry it led to. -/
structure Sound (log : List (Event φ)) (r : Registry φ) : Prop where
  issued_eq : issued log = List.range' 1 (registrations log)
  next_eq : r.next = (registrations log + 1) % keyLimit
  keys : (r.functions.map Prod.fst).Sublist (issued log)
  size_eq : r.size + revocations log = registrations log
  resolve_iff : ∀ key f, r.resolve? key = some f ↔ Live log key f
  /-- A revoked key has nothing, and is not a key that is still to come. -/
  revoked : ∀ {key f}, .revoked key f ∈ log → r.resolve? key = none ∧ key ∈ issued log

variable {log : List (Event φ)} {r : Registry φ}

theorem sound_empty : Sound [] (empty : Registry φ) where
  issued_eq := rfl
  next_eq := rfl
  keys := List.Sublist.refl []
  size_eq := rfl
  resolve_iff := fun key f => by
    constructor
    · intro h
      cases h
    · rintro ⟨before, since, h, -⟩
      cases before <;> cases h
  revoked := fun h => by cases h

namespace Sound

theorem le_of_issued (h : Sound log r) {key : FunctionKey} (hkey : key ∈ issued log) :
    key ≤ registrations log := by
  rw [h.issued_eq, List.mem_range'_1, Nat.add_comm] at hkey
  exact Nat.le_of_lt_succ hkey.2

theorem nodup_issued (h : Sound log r) : (issued log).Nodup := by
  rw [h.issued_eq]
  exact List.nodup_range'

/-- An event that neither issues nor removes a key changes nothing. -/
theorem quiet (h : Sound log r) {e : Event φ} (hissued : e.issued? = none)
    (hrevoked : ∀ key f, e ≠ .revoked key f) : Sound (log ++ [e]) r := by
  have hlog : issued (log ++ [e]) = issued log := by
    rw [issued_concat, hissued]
    exact List.append_nil _
  have hregistrations : registrations (log ++ [e]) = registrations log := congrArg List.length hlog
  have hrevocations : revocations (log ++ [e]) = revocations log := by
    rw [revocations_concat]
    cases e with
    | revoked key f => exact absurd rfl (hrevoked key f)
    | _ => rfl
  refine ⟨?_, ?_, ?_, ?_, fun key f => ?_, fun {key f} hmem => ?_⟩
  · rw [hlog, hregistrations, h.issued_eq]
  · rw [hregistrations, h.next_eq]
  · rw [hlog]
    exact h.keys
  · rw [hrevocations, hregistrations, h.size_eq]
  · rw [h.resolve_iff, live_concat]
    constructor
    · exact fun hlive => Or.inr ⟨hlive, hrevoked key⟩
    · rintro (rfl | ⟨hlive, -⟩)
      · cases hissued
      · exact hlive
  · rw [hlog]
    rcases List.mem_append.mp hmem with hmem | hmem
    · exact h.revoked hmem
    · exact absurd (List.mem_singleton.mp hmem).symm (hrevoked key f)

/-- While there are words left, a registration takes a key above all others. -/
theorem register (h : Sound log r) (f : φ) (hcount : registrations log + 1 < keyLimit) :
    Sound (log ++ [.registered (r.register f).1 f]) (r.register f).2 := by
  have hnext : r.next = registrations log + 1 := h.next_eq.trans (Nat.mod_eq_of_lt hcount)
  have hfresh : r.next ∉ issued log := by
    intro hmem
    have hle := h.le_of_issued hmem
    rw [hnext] at hle
    exact Nat.not_succ_le_self _ hle
  have hnone : r.resolve? r.next = none :=
    resolve?_eq_none.mpr fun hmem => hfresh (h.keys.subset hmem)
  have hfunctions : (r.register f).2.functions = r.functions ++ [(r.next, f)] := by
    show (r.functions.filter _) ++ _ = _
    rw [filter_ne_of_none hnone]
  have hlog : issued (log ++ [.registered r.next f]) = issued log ++ [r.next] := issued_concat log _
  have hregistrations : registrations (log ++ [.registered r.next f]) = registrations log + 1 := by
    rw [registrations, hlog, List.length_append]
    rfl
  have hrevocations : revocations (log ++ [.registered r.next f]) = revocations log :=
    revocations_concat log _
  show Sound (log ++ [.registered r.next f]) _
  refine ⟨?_, ?_, ?_, ?_, fun key g => ?_, fun {key g} hmem => ?_⟩
  · rw [hlog, hregistrations, h.issued_eq, List.range'_1_concat, hnext, Nat.add_comm 1]
  · rw [hregistrations, ← hnext]
    rfl
  · rw [hlog, hfunctions, List.map_append]
    exact h.keys.append (List.Sublist.refl _)
  · rw [hrevocations, hregistrations, ← h.size_eq, size, hfunctions, List.length_append, size]
    exact Nat.add_right_comm _ _ _
  · rw [live_concat]
    by_cases hkey : key = r.next
    · subst hkey
      rw [resolve?_register]
      constructor
      · rintro ⟨⟩
        exact Or.inl rfl
      · rintro (⟨⟨⟩⟩ | ⟨hlive, -⟩)
        · rfl
        · exact absurd hlive.mem_issued hfresh
    · rw [resolve?_register_of_ne r f hkey, h.resolve_iff]
      constructor
      · exact fun hlive => Or.inr ⟨hlive, fun _ hc => by cases hc⟩
      · rintro (⟨⟨⟩⟩ | ⟨hlive, -⟩)
        · exact absurd rfl hkey
        · exact hlive
  · have hold : .revoked key g ∈ log := by
      rcases List.mem_append.mp hmem with hmem | hmem
      · exact hmem
      · cases List.mem_singleton.mp hmem
    obtain ⟨hgone, hissued⟩ := h.revoked hold
    rw [hlog, resolve?_register_of_ne r f fun hkey => hfresh (hkey ▸ hissued)]
    exact ⟨hgone, List.mem_append_left _ hissued⟩

/-- A revocation that finds a function removes it and no other. -/
theorem revoke (h : Sound log r) {key : FunctionKey} {f : φ} (hfound : r.resolve? key = some f) :
    Sound (log ++ [.revoked key f]) (r.revoke key).2 := by
  have hlog : issued (log ++ [.revoked key f]) = issued log :=
    (issued_concat log _).trans (List.append_nil _)
  have hregistrations : registrations (log ++ [.revoked key f]) = registrations log :=
    congrArg List.length hlog
  have hrevocations : revocations (log ++ [.revoked key f]) = revocations log + 1 :=
    revocations_concat log _
  have hsize := size_revoke (h.nodup_issued.sublist h.keys) hfound
  refine ⟨?_, ?_, ?_, ?_, fun other g => ?_, fun {other g} hmem => ?_⟩
  · rw [hlog, hregistrations, h.issued_eq]
  · rw [hregistrations]
    exact h.next_eq
  · rw [hlog]
    exact (List.filter_sublist.map Prod.fst).trans h.keys
  · have hall := h.size_eq
    rw [hrevocations, hregistrations]
    omega
  · rw [live_concat]
    by_cases hkey : other = key
    · subst hkey
      rw [resolve?_revoke]
      constructor
      · intro hc
        cases hc
      · rintro (hc | ⟨-, hne⟩)
        · cases hc
        · exact absurd rfl (hne f)
    · rw [resolve?_revoke_of_ne r hkey, h.resolve_iff]
      constructor
      · refine fun hlive => Or.inr ⟨hlive, fun g hc => ?_⟩
        cases hc
        exact hkey rfl
      · rintro (hc | ⟨hlive, -⟩)
        · cases hc
        · exact hlive
  · rw [hlog]
    by_cases hkey : other = key
    · subst hkey
      exact ⟨resolve?_revoke r other, ((h.resolve_iff other f).mp hfound).mem_issued⟩
    · rw [resolve?_revoke_of_ne r hkey]
      rcases List.mem_append.mp hmem with hmem | hmem
      · exact h.revoked hmem
      · cases List.mem_singleton.mp hmem
        exact absurd rfl hkey

/-- One operation, by its kind and its outcome. -/
theorem perform (h : Sound log r) (op : Operation φ)
    (hcount : registrations (log ++ [(r.perform op).1]) < keyLimit) :
    Sound (log ++ [(r.perform op).1]) (r.perform op).2 := by
  cases op with
  | register f =>
    refine h.register f ?_
    have hlength := congrArg List.length (issued_concat log (r.perform (.register f)).1)
    rw [List.length_append] at hlength
    exact Nat.lt_of_le_of_lt (Nat.le_of_eq hlength.symm) hcount
  | revoke key =>
    show Sound (log ++ [(r.resolve? key).elim (.missed key) (.revoked key)]) (r.revoke key).2
    cases hfound : r.resolve? key with
    | none =>
      have hsame : (r.revoke key).2 = r := by
        show { r with functions := _ } = r
        rw [filter_ne_of_none hfound]
      rw [hsame]
      exact h.quiet rfl fun _ _ hc => by cases hc
    | some f => exact h.revoke hfound
  | resolve key =>
    show Sound (log ++ [(r.resolve? key).elim (.missed key) (.resolved key)]) r
    cases r.resolve? key with
    | none => exact h.quiet rfl fun _ _ hc => by cases hc
    | some f => exact h.quiet rfl fun _ _ hc => by cases hc

end Sound

/-- Registrations are never taken back. -/
theorem registrations_le (log : List (Event φ)) (e : Event φ) :
    registrations log ≤ registrations (log ++ [e]) := by
  rw [registrations, registrations, issued_concat, List.length_append]
  exact Nat.le_add_right _ _

/-- Every history with fewer registrations than there are words. -/
theorem History.sound (h : History log r) (hcount : registrations log < keyLimit) :
    Sound log r := by
  induction h with
  | empty => exact sound_empty
  | step h op ih => exact (ih (Nat.lt_of_le_of_lt (registrations_le _ _) hcount)).perform op hcount

/-- What keys are worth after a history. -/
structure Orderly (log : List (Event φ)) (r : Registry φ) : Prop where
  increasing : (issued log).Pairwise (· < ·)
  size_eq : r.size + revocations log = registrations log
  resolve_iff : ∀ key f, r.resolve? key = some f ↔ Live log key f
  gone : ∀ {key f more later}, .revoked key f ∈ log → History (log ++ more) later →
    registrations (log ++ more) < keyLimit → later.resolve? key = none

theorem History.orderly {log : List (Event φ)} {r : Registry φ} (h : History log r)
    (hcount : registrations log < keyLimit) : Orderly log r := by
  have hsound := h.sound hcount
  refine ⟨?_, hsound.size_eq, hsound.resolve_iff, fun hrevoked hlater hmore => ?_⟩
  · rw [hsound.issued_eq]
    exact List.pairwise_lt_range'
  · exact ((hlater.sound hmore).revoked (List.mem_append_left _ hrevoked)).1

end Registry

end CallBridge
