import Simutgw.Proofs.Holdings
import Simutgw.Proofs.FreezeUndone

/-! What the calls on a holding answer, held against what they leave behind. A confirm
goes through its counters one after the other and stops at the first that refuses; the
query for a creation adds up what the freeze for it would draw. -/

namespace Simutgw.Proofs.VolumeConfirm
open UserStockVolume VolumeFreeze VolumeLedger SellReserve Holdings

/-- The frozen part of a counter is less by an amount, and nothing else has changed. -/
structure TakenOff (before after : FrozeVolume) (amount : Nat) : Prop where
  frozen : after.forzeVolume.toNat + amount = before.forzeVolume.toNat
  unfrozen : after.unFrozeVolume = before.unFrozeVolume
  synced : after.latestSynVolume = before.latestSynVolume

section Counters

variable {counter : FrozeVolume} {amount : UInt64}

theorem taken_nothing (counter : FrozeVolume) : TakenOff counter counter 0 := ⟨Nat.add_zero _, rfl, rfl⟩

theorem confirm_taken (covered : amount ≤ counter.forzeVolume) :
    TakenOff counter (counter.confirm amount).volume amount.toNat := by
  rw [FrozeVolume.confirm_covered _ _ covered]
  refine ⟨?_, rfl, rfl⟩
  simp only [UInt64.toNat_sub_of_le _ _ covered]
  rw [UInt64.le_iff_toNat_le] at covered
  omega

/-- A confirm of one counter that is refused changes nothing, and one that succeeds
takes its amount off. -/
structure CounterLawful (counter : FrozeVolume) (amount : UInt64) (changed : FrozeVolume.Changed) : Prop where
  refused : changed.code = -1 → changed.volume = counter
  done : changed.code = 0 → TakenOff counter changed.volume amount.toNat

theorem counter_lawful (counter : FrozeVolume) (amount : UInt64) :
    CounterLawful counter amount (counter.confirm amount) := by
  rcases UInt64.lt_or_le counter.forzeVolume amount with short | covered
  · rw [FrozeVolume.confirm_failed _ _ short]
    refine ⟨fun _ => rfl, fun done => ?_⟩
    cases done
  · refine ⟨fun refused => ?_, fun _ => confirm_taken covered⟩
    rw [FrozeVolume.confirm_covered _ _ covered] at refused
    cases refused

end Counters

section Confirms

variable {first : Bucket} {checked : Bool} {volume : UserStockVolume} {part avl : UInt64}

/-- A confirm of a holding that is refused changes nothing, and one that succeeds takes
both amounts off their parts and the sum off the total. -/
structure Lawful (first : Bucket) (volume : UserStockVolume) (part avl : UInt64) (changed : Changed) : Prop where
  refused : changed.code = -1 → changed.volume = volume
  done : changed.code = 0 → ∀ bucket,
    TakenOff (volume.get bucket) (changed.volume.get bucket) (drawn first part avl bucket)

theorem confirmFrom_first_short (short : (volume.get first).forzeVolume < part) :
    confirmFrom first checked volume part avl = ⟨-1, volume⟩ := by
  have some : part ≠ 0 := by
    rintro rfl
    exact absurd short (by simp)
  simp only [confirmFrom, FrozeVolume.confirm_failed _ _ short, set_get]
  rw [if_pos ⟨some, by decide⟩]

/-- The first amount stays taken off where the available balance refuses. -/
theorem confirmFrom_avl_short (different : Bucket.avl ≠ first) (one : part ≤ (volume.get first).forzeVolume)
    (short : (volume.get .avl).forzeVolume < avl) :
    confirmFrom first checked volume part avl =
      ⟨-1, volume.set first ((volume.get first).confirm part).volume⟩ := by
  have passes : ¬ (part ≠ 0 ∧ ((volume.get first).confirm part).code ≠ 0) := by
    rw [FrozeVolume.confirm_covered _ _ one]
    exact fun both => both.2 rfl
  have some : avl ≠ 0 := by
    rintro rfl
    exact absurd short (by simp)
  simp only [confirmFrom, if_neg passes, confirm_guard]
  have unheld := get_set_other volume ((volume.get first).confirm part).volume different
  have refused := FrozeVolume.confirm_failed _ _ short
  simp only [unheld, refused]
  rw [if_pos ⟨some, by decide⟩, ← unheld, set_get]

theorem confirmFrom_total_short (different : Bucket.avl ≠ first) (apart : Bucket.stk ≠ first)
    (one : part ≤ (volume.get first).forzeVolume) (two : avl ≤ (volume.get .avl).forzeVolume)
    (short : (volume.get .stk).forzeVolume < part + avl) :
    confirmFrom first checked volume part avl =
      ⟨if checked then -1 else 0, (volume.set first ((volume.get first).confirm part).volume).set .avl
        ((volume.get .avl).confirm avl).volume⟩ := by
  have passes (some : Prop) : ¬ (some ∧ (0 : Int) ≠ 0) := fun both => both.2 rfl
  have first_code := congrArg FrozeVolume.Changed.code (FrozeVolume.confirm_covered _ _ one)
  have avl_code := congrArg FrozeVolume.Changed.code (FrozeVolume.confirm_covered _ _ two)
  simp only at first_code avl_code
  have unheld : ((volume.set first ((volume.get first).confirm part).volume).set .avl
      ((volume.get .avl).confirm avl).volume).get .stk = volume.get .stk := by
    rw [get_set_other _ _ (by decide), get_set_other _ _ apart]
  simp only [confirmFrom, first_code, if_neg (passes _), confirm_guard]
  simp only [get_set_other volume _ different, avl_code, if_neg (passes _), stkBalance_eq, with_stkBalance, unheld,
    FrozeVolume.confirm_failed _ _ short]
  rw [← unheld, set_get]

theorem confirmFrom_taken (different : Bucket.avl ≠ first) (apart : Bucket.stk ≠ first)
    (covers : Covers first volume part avl) (bucket : Bucket) :
    TakenOff (volume.get bucket) ((confirmFrom first checked volume part avl).volume.get bucket)
      (drawn first part avl bucket) := by
  have one := UInt64.le_iff_toNat_le.mpr covers.first
  have two := UInt64.le_iff_toNat_le.mpr covers.avl
  have total : part + avl ≤ (volume.get .stk).forzeVolume := by
    rw [UInt64.le_iff_toNat_le, covers.sum]
    exact covers.stk
  rw [confirmFrom_covered different apart one two total]
  unfold drawn
  split
  next same =>
    rw [same, get_set_other _ _ apart.symm, get_set_other _ _ different.symm, get_set_same]
    exact confirm_taken one
  next notFirst =>
    split
    next same =>
      rw [same, get_set_other _ _ (by decide), get_set_same]
      exact confirm_taken two
    next notAvl =>
      split
      next same =>
        rw [same, get_set_same, ← covers.sum]
        exact confirm_taken total
      next notStk =>
        rw [get_set_other _ _ notStk, get_set_other _ _ notAvl, get_set_other _ _ notFirst]
        exact taken_nothing _

/-- A confirm that changes nothing of a counter it covers was asked for nothing. -/
theorem nothing_of_confirm_same {counter : FrozeVolume} {amount : UInt64} (covered : amount ≤ counter.forzeVolume)
    (same : (counter.confirm amount).volume = counter) : amount = 0 := by
  have taken := (confirm_taken covered).frozen
  rw [same] at taken
  rw [← UInt64.toNat_inj, UInt64.toNat_zero]
  omega

/-- The first part refuses, or nothing is asked of it and the available balance refuses,
or all three counters cover what is asked of them, the sum as a number. -/
def Sound (first : Bucket) (volume : UserStockVolume) (part avl : UInt64) : Prop :=
  (volume.get first).forzeVolume < part ∨ part = 0 ∧ (volume.get .avl).forzeVolume < avl ∨
    Covers first volume part avl

theorem confirmFrom_lawful_iff (different : Bucket.avl ≠ first) (apart : Bucket.stk ≠ first) :
    Lawful first volume part avl (confirmFrom first checked volume part avl) ↔ Sound first volume part avl := by
  rcases UInt64.lt_or_le (volume.get first).forzeVolume part with short | one
  · refine iff_of_true ?_ (.inl short)
    rw [confirmFrom_first_short short]
    refine ⟨fun _ => rfl, fun done => ?_⟩
    cases done
  rcases UInt64.lt_or_le (volume.get .avl).forzeVolume avl with short | two
  · have refused := @confirmFrom_avl_short first checked volume part avl different one short
    rw [refused]
    constructor
    · intro lawful
      have same := congrArg (·.get first) (lawful.refused rfl)
      simp only [get_set_same] at same
      exact .inr (.inl ⟨nothing_of_confirm_same one same, short⟩)
    · rintro (lacking | ⟨rfl, -⟩ | covers)
      · exact absurd lacking (UInt64.not_lt.mpr one)
      · refine ⟨fun _ => ?_, fun done => ?_⟩
        · simp only [FrozeVolume.confirm_zero, set_get]
        · cases done
      · exact absurd short (UInt64.not_lt.mpr (UInt64.le_iff_toNat_le.mpr covers.avl))
  constructor
  · intro lawful
    -- Where the call answers 0, what is gone from the total was there.
    have done (code : (confirmFrom first checked volume part avl).code = 0) : Sound first volume part avl := by
      have total := (lawful.done code .stk).frozen
      simp only [drawn, apart, if_false, reduceCtorEq, if_true] at total
      refine .inr (.inr ⟨UInt64.le_iff_toNat_le.mp one, UInt64.le_iff_toNat_le.mp two, ?_⟩)
      omega
    rcases UInt64.lt_or_le (volume.get .stk).forzeVolume (part + avl) with short | covered
    · have refused := @confirmFrom_total_short first checked volume part avl different apart one two short
      cases checked with
      | false => exact done (by rw [refused]; rfl)
      | true =>
        rw [refused] at lawful
        have same := lawful.refused rfl
        have firsts := congrArg (·.get first) same
        have avls := congrArg (·.get .avl) same
        simp only [get_set_same, get_set_other _ _ different.symm] at firsts avls
        rw [nothing_of_confirm_same one firsts, nothing_of_confirm_same two avls] at short
        exact absurd short (by simp)
    · exact done (by rw [confirmFrom_covered different apart one two covered])
  · rintro (lacking | ⟨-, lacking⟩ | covers)
    · exact absurd lacking (UInt64.not_lt.mpr one)
    · exact absurd lacking (UInt64.not_lt.mpr two)
    · refine ⟨fun refused => ?_, fun _ => confirmFrom_taken different apart covers⟩
      rw [(confirm_takes checked different apart covers).1] at refused
      cases refused

end Confirms

/-- The confirm of a counter always keeps its promise. One of a holding does just when it
stops before it has taken anything off or all its counters cover it. -/
theorem confirms_lawful_iff (counter : FrozeVolume) (amount : UInt64) (kind : Kind) (volume : UserStockVolume)
    (part avl : UInt64) :
    CounterLawful counter amount (counter.confirm amount) ∧
      (Lawful kind.first volume part avl (kind.confirm volume part avl) ↔ Sound kind.first volume part avl) := by
  refine ⟨counter_lawful counter amount, ?_⟩
  rw [kind.confirm_eq]
  exact confirmFrom_lawful_iff kind.avl_ne_first kind.stk_ne_first

/-- Five redeemed shares are frozen, and nothing of the available balance. -/
def redeemedFrozen : UserStockVolume where
  stkBalance := { forzeVolume := 5 }
  stkEtfRdpBalance := { forzeVolume := 5 }

theorem refused_confirm_takes :
    (sellConfirm redeemedFrozen 5 1).code = -1 ∧
      (sellConfirm redeemedFrozen 5 1).volume.stkEtfRdpBalance.forzeVolume = 0 ∧
      ¬ Lawful .etfRdp redeemedFrozen 5 1 (sellConfirm redeemedFrozen 5 1) := by
  refine ⟨by decide, by decide, fun lawful => ?_⟩
  have same := lawful.refused (by decide)
  exact absurd same (by decide)

section Queries

variable {volume : UserStockVolume} {wanted : UInt64}

theorem creationFroze_code (volume : UserStockVolume) (wanted : UInt64) :
    (volume.creationFroze wanted).code = 0 ↔ wanted.toNat ≤ free .actPch volume := by
  rw [creationFroze, frozeFrom_code (by decide) (by decide)]
  split
  next short => exact iff_of_false (by decide) (by omega)
  next enough => exact iff_of_true rfl (by omega)

theorem creationQuery_max (refused : (volume.creationQuery wanted).code ≠ 0) :
    (volume.creationQuery wanted).max.toNat = free .actPch volume := by
  have lacking := mt (FreezeUndone.creationQuery_code volume wanted).mpr refused
  have bound := wanted.toNat_lt
  unfold free at lacking ⊢
  have short : (volume.get .actPch).unFrozeVolume < wanted := by
    rw [UInt64.lt_iff_toNat_lt]
    omega
  have rest : (volume.get .avl).unFrozeVolume < wanted - (volume.get .actPch).unFrozeVolume := by
    rw [UInt64.lt_iff_toNat_lt, UInt64.toNat_sub_of_le _ _ (UInt64.le_of_lt short)]
    omega
  have act : volume.stkActPchBalance = volume.get .actPch := rfl
  have avl : volume.stkAvlBalance = volume.get .avl := rfl
  simp only [creationQuery, act, avl, FrozeVolume.query, if_pos short, if_pos rest, Int.reduceNeg, Int.reduceEq,
    if_false, UInt64.toNat_add]
  exact Nat.mod_eq_of_lt (by omega)

end Queries

/-- The query for a creation answers as the freeze would, and where it refuses it reports
the most that the freeze would take. -/
theorem creationQuery_answers (volume : UserStockVolume) (wanted : UInt64) :
    ((volume.creationQuery wanted).code = 0 ↔ (volume.creationFroze wanted).code = 0) ∧
      ((volume.creationQuery wanted).code ≠ 0 →
        (volume.creationFroze (volume.creationQuery wanted).max).code = 0 ∧
          ∀ more, (volume.creationFroze more).code = 0 → more ≤ (volume.creationQuery wanted).max) := by
  refine ⟨?_, fun refused => ⟨?_, fun more taken => ?_⟩⟩
  · rw [FreezeUndone.creationQuery_code, creationFroze_code]
  · rw [creationFroze_code, creationQuery_max refused]
  · rw [creationFroze_code] at taken
    rw [UInt64.le_iff_toNat_le, creationQuery_max refused]
    exact taken

end Simutgw.Proofs.VolumeConfirm
