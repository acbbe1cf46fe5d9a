/-
The phases that a handle shows between requests.

Preparing takes the builder out of a handle before the sizes are summed, so a sum that does not
fit loses it.  `settled_iff_sizes_fit` says that this is the only way: as long as the true size of
whatever is prepared is a word, a handle is a builder or a specification after every request,
and where it is not, it is neither for good.
-/
import CallBridge.Proofs.Lifecycle

namespace CallBridge

/-! ## Sizes that fit -/

namespace Builder

variable {b : Builder} {abi : Abi} {returnType : TypeToken}

/-- Where the return value goes, and what the buffer needs up to the pointer array, in unbounded
numbers. -/
def trueReturnOffset (b : Builder) (returnType : TypeToken) : Nat :=
  roundUp b.bytes returnType.alignment

def trueSize (b : Builder) (returnType : TypeToken) : Nat :=
  roundUp (b.trueReturnOffset returnType + returnType.size) pointerSize + pointerSize

theorem trueSize_eq {offset padded : Nat} (hoffset : NextMultiple b.bytes returnType.alignment offset)
    (hpadded : NextMultiple (offset + returnType.size) pointerSize padded) :
    b.trueSize returnType = padded + pointerSize := by
  have hsame : b.trueReturnOffset returnType = offset :=
    (nextMultiple_roundUp returnType.alignment_pos).unique hoffset
  rw [trueSize, hsame, (nextMultiple_roundUp (by decide)).unique hpadded]

theorem returnPlacement_eq (hb : b.bytes < wordLimit) (returnType : TypeToken) :
    b.returnPlacement returnType =
      (asWord (b.trueSize returnType)).map fun n => (b.trueReturnOffset returnType, n) := by
  have hused := le_roundUp (b.trueReturnOffset returnType + returnType.size) pointerSize
  have hpadded : roundUp (b.trueReturnOffset returnType + returnType.size) pointerSize ≤
      b.trueSize returnType := Nat.le_add_right ..
  rw [returnPlacement, alignUp_eq_asWord returnType.alignment_pos hb]
  refine asWord_bind (by unfold trueReturnOffset at *; omega) fun _ => ?_
  rw [checkedAdd_eq_asWord]
  refine asWord_bind (by unfold trueReturnOffset at *; omega) fun hfits => ?_
  rw [alignUp_eq_asWord (by decide) hfits]
  refine asWord_bind hpadded fun _ => ?_
  rw [checkedAdd_eq_asWord]
  show (asWord (b.trueSize returnType) >>= fun n => pure (b.trueReturnOffset returnType, n)) = _
  cases asWord (b.trueSize returnType) <;> rfl

/-- Preparing panics exactly if the return type can be aligned and the true size is no word. -/
theorem prepare_panics_iff (hb : b.bytes < wordLimit) :
    (∃ p, b.prepare abi returnType = .error p) ↔
      returnType.alignment ≤ CallBridge.maxAlignment ∧ wordLimit ≤ b.trueSize returnType := by
  unfold prepare checkAlignment
  by_cases halign : returnType.alignment > CallBridge.maxAlignment
  · rw [if_pos halign]
    constructor
    · rintro ⟨p, hp⟩
      cases hp
    · intro h
      omega
  · rw [if_neg halign]
    simp only [returnPlacement_eq hb, asWord]
    by_cases hfits : b.trueSize returnType < wordLimit
    · rw [if_pos hfits]
      constructor
      · rintro ⟨p, hp⟩
        cases hp
      · intro h
        omega
    · rw [if_neg hfits]
      exact ⟨fun _ => ⟨by omega, by omega⟩, fun _ => ⟨.overflow, rfl⟩⟩

theorem bytes_append {grown : Builder} {t : TypeToken} {offset : Nat}
    (h : b.append t = .ok (.ok (offset, grown))) : grown.bytes < wordLimit := by
  obtain ⟨-, hbytes, -, -⟩ := append_eq_ok h
  obtain ⟨hbytes, hlt⟩ := checkedAdd_eq_ok.mp hbytes
  omega

/-- A builder is never refused for its state. -/
theorem append_ne_invalidState {t : TypeToken} {reason : String} :
    b.append t ≠ .ok (.error (.invalidState reason)) := by
  intro h
  unfold append checkAlignment at h
  split at h
  · rename_i hcheck
    split at hcheck
    · cases hcheck
      cases h
    · cases hcheck
  · obtain ⟨_, -, h⟩ := bind_eq_ok h
    obtain ⟨_, -, h⟩ := bind_eq_ok h
    cases h

theorem prepare_ne_invalidState {reason : String} :
    b.prepare abi returnType ≠ .ok (.error (.invalidState reason)) := by
  intro h
  unfold prepare checkAlignment at h
  split at h
  · rename_i hcheck
    split at hcheck
    · cases hcheck
      cases h
    · cases hcheck
  · obtain ⟨_, -, h⟩ := bind_eq_ok h
    obtain h | ⟨_, -, h⟩ := bind_eq_error (Except.ok.inj h)
    · unfold acceptSignature at h
      split at h
      · cases h
      · split at h
        · cases h
        · split at h <;> cases h
    · cases h

end Builder

/-! ## The phase after a run -/

namespace Handle

variable {h : Handle} {r : Request}

theorem ask_transitioning (r : Request) : (transitioning.ask r).2 = transitioning := by
  cases r <;> rfl

theorem run_transitioning (requests : List Request) :
    (transitioning.run requests).2 = transitioning := by
  induction requests with
  | nil => rfl
  | cons r rest ih => rw [run, ask_transitioning, ih]

/-- The phase of a builder is lost to a prepare that panics, and to nothing else. -/
theorem ask_ne_transitioning (hopen : h ≠ transitioning) (hask : (h.ask r).2 = transitioning) :
    ∃ b abi returnType p, h = building b ∧ r = .prepare abi returnType ∧
      b.prepare abi returnType = .error p := by
  cases h with
  | building b =>
    obtain ⟨_, _, _, -, -, hnext⟩ | ⟨_, _, _, -, -, hnext⟩ |
      ⟨abi, returnType, p, hr, hprepare, -⟩ | ⟨hnext, -, -⟩ := ask_building b r
    · rw [hnext] at hask
      cases hask
    · rw [hnext] at hask
      cases hask
    · exact ⟨b, abi, returnType, p, rfl, hr, hprepare⟩
    · rw [hnext] at hask
      cases hask
  | prepared p =>
    rw [ask_prepared] at hask
    cases hask
  | transitioning => exact absurd rfl hopen

/-- Somewhere in a run that ends without a phase it was lost. -/
theorem exists_loss {requests : List Request} (hopen : h ≠ transitioning)
    (hlost : (h.run requests).2 = transitioning) :
    ∃ before abi returnType after b p, requests = before ++ .prepare abi returnType :: after ∧
      (h.run before).2 = building b ∧ b.prepare abi returnType = .error p := by
  induction requests generalizing h with
  | nil => exact absurd hlost hopen
  | cons r rest ih =>
    by_cases hnext : (h.ask r).2 = transitioning
    · obtain ⟨b, abi, returnType, p, rfl, rfl, hprepare⟩ := ask_ne_transitioning hopen hnext
      exact ⟨[], abi, returnType, rest, b, p, rfl, rfl, hprepare⟩
    · obtain ⟨before, abi, returnType, after, b, p, rfl, hbefore, hprepare⟩ := ih hnext hlost
      exact ⟨r :: before, abi, returnType, after, b, p, rfl, hbefore, hprepare⟩

/-- What a handle that began as a builder is, unless it has lost its phase. -/
theorem run_phase {b : Builder} (hb : b.bytes < wordLimit) (requests : List Request)
    (hkept : ((building b).run requests).2 ≠ transitioning) :
    (∃ grown, ((building b).run requests).2 = building grown ∧ grown.bytes < wordLimit ∧
      grown.context = b.context ∧
      b.appendAll (taken ((building b).run requests).1) = .ok (.ok grown)) ∨
    ∃ p, ((building b).run requests).2 = prepared p ∧ p.context = b.context := by
  induction requests generalizing b with
  | nil => exact Or.inl ⟨b, rfl, hb, rfl, rfl⟩
  | cons r rest ih =>
    obtain ⟨t, offset, grown, rfl, happend, hask⟩ | ⟨abi, returnType, p, rfl, hprepare, hask⟩ |
      ⟨abi, returnType, p, rfl, -, hask⟩ | ⟨hask, htaken, -⟩ := ask_building b r
    · rw [run_cons hask] at *
      have hcontext := Builder.context_append happend
      rcases ih (Builder.bytes_append happend) hkept with ⟨last, hlast, hlt, hc, hall⟩ | ⟨p, hp, hc⟩
      · refine Or.inl ⟨last, hlast, hlt, hc.trans hcontext, ?_⟩
        simp only [taken, List.filterMap_cons, Exchange.taken?, Builder.appendAll, happend]
        exact hall
      · exact Or.inr ⟨p, hp, hc.trans hcontext⟩
    · rw [run_cons hask, run_prepared]
      exact Or.inr ⟨p, rfl, Builder.context_prepare hprepare⟩
    · rw [run_cons hask] at hkept
      exact absurd (run_transitioning rest) hkept
    · rw [run_cons hask] at *
      rcases ih hb hkept with ⟨last, hlast, hlt, hc, hall⟩ | hprepared
      · refine Or.inl ⟨last, hlast, hlt, hc, ?_⟩
        rw [taken, List.filterMap_cons_none htaken]
        exact hall
      · exact Or.inr hprepared

/-! ## Between requests -/

/-- What a handle created with `context` is, after requests that left the log: in one of its two
phases, and open to more as long as it is not prepared. -/
structure Settled (context : CallContext) (log : List Exchange) (h : Handle) : Prop where
  phase : (∃ b, h = building b ∧
      (Builder.empty context).appendAll (taken log) = .ok (.ok b)) ∨ ∃ p, h = prepared p
  context_eq : h.context? = some context
  accepts : h.isPrepared = false → ∀ t abi reason,
    (h.append t).1 ≠ .ok (.error (.invalidState reason)) ∧
      (h.prepare abi t).1 ≠ .ok (.error (.invalidState reason))

theorem building_accepts (b : Builder) (t : TypeToken) (abi : Abi) (reason : String) :
    ((building b).append t).1 ≠ .ok (.error (.invalidState reason)) ∧
      ((building b).prepare abi t).1 ≠ .ok (.error (.invalidState reason)) := by
  constructor
  · intro hrefused
    change (b.offer t).1 = _ at hrefused
    unfold Builder.offer at hrefused
    split at hrefused
    · cases hrefused
    · rename_i happend
      cases hrefused
      exact Builder.append_ne_invalidState happend
    · cases hrefused
  · intro hrefused
    unfold Handle.prepare at hrefused
    simp only at hrefused
    split at hrefused
    · cases hrefused
    · rename_i hprepare
      cases hrefused
      exact Builder.prepare_ne_invalidState hprepare
    · cases hrefused

theorem bytes_empty (context : CallContext) : (Builder.empty context).bytes < wordLimit :=
  Nat.zero_lt_succ _

theorem settled_of_kept {context : CallContext} {requests : List Request}
    (hkept : ((create context).run requests).2 ≠ transitioning) :
    Settled context ((create context).run requests).1 ((create context).run requests).2 := by
  rcases run_phase (bytes_empty context) requests hkept with
    ⟨b, hlast, -, hcontext, hall⟩ | ⟨p, hlast, hcontext⟩
  · refine ⟨Or.inl ⟨b, hlast, hall⟩, ?_, fun _ => ?_⟩
    · rw [create, hlast]
      exact congrArg some hcontext
    · rw [create, hlast]
      exact building_accepts b
  · refine ⟨Or.inr ⟨p, hlast⟩, ?_, fun hopen => ?_⟩
    · rw [create, hlast]
      exact congrArg some hcontext
    · rw [create, hlast] at hopen
      cases hopen

theorem Settled.ne_transitioning {context : CallContext} {log : List Exchange}
    (hsettled : Settled context log h) : h ≠ transitioning := by
  rintro rfl
  obtain ⟨b, hb, -⟩ | ⟨p, hp⟩ := hsettled.phase
  · cases hb
  · cases hp

/-- A prepare finds a builder for which arguments, return value and spare word, each at its place,
need more bytes than a word can count.  A return type that no buffer can align is refused before
that. -/
structure Overflows (context : CallContext) (before : List Request) (returnType : TypeToken) :
    Prop where
  aligned : returnType.alignment ≤ maxAlignment
  overflow : ∃ b offset padded, ((create context).run before).2 = building b ∧
    NextMultiple b.bytes returnType.alignment offset ∧
    NextMultiple (offset + returnType.size) pointerSize padded ∧ wordLimit ≤ padded + pointerSize

theorem overflows_iff {context : CallContext} {before : List Request} {returnType : TypeToken}
    (abi : Abi) :
    Overflows context before returnType ↔ ∃ b p, ((create context).run before).2 = building b ∧
      b.prepare abi returnType = .error p := by
  have hfits : ∀ b, ((create context).run before).2 = building b → b.bytes < wordLimit := by
    intro b hbefore
    have hkept : ((create context).run before).2 ≠ transitioning := by
      rw [hbefore]
      exact Handle.noConfusion
    rcases run_phase (bytes_empty context) before hkept with
      ⟨grown, hlast, hlt, -, -⟩ | ⟨p, hlast, -⟩
    · cases hlast.symm.trans hbefore
      exact hlt
    · cases hlast.symm.trans hbefore
  constructor
  · rintro ⟨haligned, b, offset, padded, hbefore, hoffset, hpadded, hlarge⟩
    rw [← Builder.trueSize_eq hoffset hpadded] at hlarge
    obtain ⟨p, hp⟩ := (Builder.prepare_panics_iff (hfits b hbefore)).mpr ⟨haligned, hlarge⟩
    exact ⟨b, p, hbefore, hp⟩
  · rintro ⟨b, p, hbefore, hp⟩
    obtain ⟨haligned, hlarge⟩ := (Builder.prepare_panics_iff (hfits b hbefore)).mp ⟨p, hp⟩
    exact ⟨haligned, b, _, _, hbefore, nextMultiple_roundUp returnType.alignment_pos,
      nextMultiple_roundUp (by decide), hlarge⟩

theorem run_of_overflows {context : CallContext} {before : List Request} {returnType : TypeToken}
    (hover : Overflows context before returnType) (abi : Abi) (after : List Request) :
    ((create context).run (before ++ .prepare abi returnType :: after)).2 = transitioning := by
  obtain ⟨b, p, hbefore, hp⟩ := (overflows_iff abi).mp hover
  have hask : ((building b).ask (.prepare abi returnType)).2 = transitioning := by
    simp only [ask, Handle.prepare, hp]
  rw [run_append, hbefore, run, hask, run_transitioning]

/-- A handle is settled after every request exactly if whatever is prepared fits.  Where it does
not, the handle has lost its phase for good. -/
theorem settled_iff_sizes_fit (context : CallContext) (requests : List Request) :
    ((∀ before after, requests = before ++ after →
        Settled context ((create context).run before).1 ((create context).run before).2) ↔
      ∀ before abi returnType after, requests = before ++ .prepare abi returnType :: after →
        ¬ Overflows context before returnType) ∧
    ∀ before abi returnType after, requests = before ++ .prepare abi returnType :: after →
      Overflows context before returnType →
        ((create context).run requests).2 = transitioning := by
  refine ⟨⟨?_, ?_⟩, ?_⟩
  · rintro hsettled before abi returnType after rfl hover
    have hafter := hsettled (before ++ [.prepare abi returnType]) after (by simp)
    exact hafter.ne_transitioning (run_of_overflows hover abi [])
  · rintro hfit before after rfl
    refine settled_of_kept fun hlost => ?_
    obtain ⟨first, abi, returnType, later, b, p, rfl, hfirst, hp⟩ :=
      exists_loss Handle.noConfusion hlost
    exact hfit first abi returnType (later ++ after) (by simp)
      ((overflows_iff abi).mpr ⟨b, p, hfirst, hp⟩)
  · rintro before abi returnType after rfl hover
    exact run_of_overflows hover abi after

theorem byte_aligned : (1 : UInt16) ≠ 0 := UInt16.zero_ne_one.symm

/-- The widest type there is. -/
def widest : TypeToken := .standing 0xffffffffffffffff 1 TypeToken.structKind byte_aligned

/-- With a single argument the spare word does not fit any more. -/
theorem overflowing_prepare_unsettled :
    let lost := ((create ⟨true, false⟩).run [.append widest, .prepare .default .uint8])
    lost.2 = transitioning ∧ lost.2.context? = none ∧
      (lost.2.append .uint8).1 = .ok (.error
        (.invalidState "cannot append an argument to a prepared call specification")) ∧
      ¬ Settled ⟨true, false⟩ lost.1 lost.2 :=
  ⟨rfl, rfl, rfl, fun hsettled => hsettled.ne_transitioning rfl⟩

end Handle

end CallBridge
