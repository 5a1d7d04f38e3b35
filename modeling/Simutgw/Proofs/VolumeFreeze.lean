import Simutgw.UserStockVolume

/-! What each bucket operation does, case by case. Every later result about a
holding cites these and never opens the bodies the operations share. -/

namespace Simutgw.Proofs.VolumeFreeze
open UserStockVolume

variable {first rollback : Bucket} {self : UserStockVolume} {froze : UInt64}

/-- What is free in the first bucket and in the available balance together. -/
def free (first : Bucket) (self : UserStockVolume) : Nat :=
  (self.get first).unFrozeVolume.toNat + (self.get .avl).unFrozeVolume.toNat

theorem actualFroze_of_lt {volume : FrozeVolume} (short : volume.unFrozeVolume < froze) :
    volume.actualFroze froze = volume.unFrozeVolume := by
  simp [FrozeVolume.actualFroze, short]

theorem actualFroze_of_le {volume : FrozeVolume} (enough : froze ≤ volume.unFrozeVolume) :
    volume.actualFroze froze = froze :=
  (volume.actualFroze_eq_iff froze).mpr enough

/-- The first bucket covers the request: nothing else is touched, the total included. -/
theorem frozeFrom_covered (enough : froze ≤ (self.get first).unFrozeVolume) :
    frozeFrom first rollback self froze =
      ⟨0, froze, 0, self.set first ((self.get first).froze froze).volume⟩ := by
  simp [frozeFrom, actualFroze_of_le enough]

private theorem rest_toNat (short : (self.get first).unFrozeVolume < froze) :
    (froze - (self.get first).unFrozeVolume).toNat = froze.toNat - (self.get first).unFrozeVolume.toNat :=
  UInt64.toNat_sub_of_le _ _ (UInt64.le_of_lt short)

theorem frozeFrom_drained (different : Bucket.avl ≠ first)
    (short : (self.get first).unFrozeVolume < froze) (enough : froze.toNat ≤ free first self) :
    frozeFrom first rollback self froze =
      let part := (self.get first).unFrozeVolume
      let drained := (self.set first ((self.get first).froze froze).volume).set .avl
        ((self.get .avl).froze (froze - part)).volume
      ⟨0, part, froze - part, drained.set .stk ((drained.get .stk).froze froze).volume⟩ := by
  have covered : froze - (self.get first).unFrozeVolume ≤ (self.get .avl).unFrozeVolume := by
    rw [UInt64.le_iff_toNat_le, rest_toNat short]
    unfold free at enough
    omega
  have unequal : (self.get first).unFrozeVolume ≠ froze := fun same => by simp [same] at short
  have whole : (self.get first).unFrozeVolume + (froze - (self.get first).unFrozeVolume) = froze := by
    rw [UInt64.add_comm, UInt64.sub_add_cancel]
  simp [frozeFrom, actualFroze_of_lt short, get_set_other self _ different, actualFroze_of_le covered, unequal,
    whole, frozeStkBalance_eq]

/-- A refused request leaves the available balance as it was; the part drawn
from the first bucket goes to `rollback`. -/
theorem frozeFrom_refused (different : Bucket.avl ≠ first) (apart : Bucket.avl ≠ rollback)
    (short : free first self < froze.toNat) :
    frozeFrom first rollback self froze =
      ⟨-1, (self.get first).unFrozeVolume, (self.get .avl).unFrozeVolume,
        (self.set first ((self.get first).froze froze).volume).putBack rollback (self.get first).unFrozeVolume⟩ := by
  unfold free at short
  have drained : (self.get first).unFrozeVolume < froze := by
    rw [UInt64.lt_iff_toNat_lt]
    omega
  have unequal : (self.get first).unFrozeVolume ≠ froze := fun same => by simp [same] at drained
  have lacking : (self.get .avl).unFrozeVolume < froze - (self.get first).unFrozeVolume := by
    rw [UInt64.lt_iff_toNat_lt, rest_toNat drained]
    omega
  have total : (self.get first).unFrozeVolume + (self.get .avl).unFrozeVolume < froze := by
    have bound := froze.toNat_lt
    rw [UInt64.lt_iff_toNat_lt, UInt64.toNat_add, Nat.mod_eq_of_lt (by omega)]
    omega
  have restored := (self.get .avl).defroze_froze (froze - (self.get first).unFrozeVolume)
  rw [FrozeVolume.froze_maxfroze, actualFroze_of_lt lacking] at restored
  have kept : ((self.set first ((self.get first).froze froze).volume).putBack rollback
      (self.get first).unFrozeVolume).get .avl = self.get .avl := by
    rw [putBack_eq, get_set_other _ _ apart, get_set_other _ _ different]
  simp only [frozeFrom, FrozeVolume.froze_maxfroze, actualFroze_of_lt drained, unequal, if_false,
    get_set_other self _ different, actualFroze_of_lt lacking, total, if_true]
  congr 1
  rw [putBack_eq _ .avl, putBack_eq _ rollback, get_set_other _ _ apart.symm, ← set_comm _ _ _ apart.symm,
    get_set_same, restored, set_set, ← putBack_eq, ← kept, set_get]

theorem frozeFrom_code (different : Bucket.avl ≠ first) (apart : Bucket.avl ≠ rollback) :
    (frozeFrom first rollback self froze).code = if free first self < froze.toNat then -1 else 0 := by
  split
  next short => rw [frozeFrom_refused different apart short]
  next enough =>
    rcases UInt64.lt_or_le (self.get first).unFrozeVolume froze with short | covered
    · rw [frozeFrom_drained different short (by omega)]
    · rw [frozeFrom_covered covered]

theorem frozeFrom_hands_out (different : Bucket.avl ≠ first) (apart : Bucket.avl ≠ rollback)
    (success : (frozeFrom first rollback self froze).code = 0) :
    (frozeFrom first rollback self froze).first.toNat + (frozeFrom first rollback self froze).avl.toNat =
      froze.toNat := by
  rw [frozeFrom_code different apart] at success
  split at success
  next => cases success
  next enough =>
    rcases UInt64.lt_or_le (self.get first).unFrozeVolume froze with short | covered
    · rw [frozeFrom_drained different short (by omega)]
      simp only [rest_toNat short]
      rw [UInt64.lt_iff_toNat_lt] at short
      omega
    · rw [frozeFrom_covered covered]
      simp

/-- The guard against an empty amount makes no difference to a release. -/
private theorem release_guard (self : UserStockVolume) (bucket : Bucket) (amount : UInt64) :
    (if amount ≠ 0 then self.set bucket ((self.get bucket).defroze amount).volume else self) =
      self.set bucket ((self.get bucket).defroze amount).volume := by
  simpa only [putBack] using putBack_eq self bucket amount

theorem confirm_guard (self : UserStockVolume) (bucket : Bucket) (amount : UInt64) :
    (if amount ≠ 0 then self.set bucket ((self.get bucket).confirm amount).volume else self) =
      self.set bucket ((self.get bucket).confirm amount).volume := by
  split
  next => rfl
  next nothing =>
    rw [Decidable.not_not.mp nothing, FrozeVolume.confirm_zero, set_get]

/-- A release always succeeds and is done word for word in all three buckets. -/
theorem deFrozeTo_eq (different : Bucket.avl ≠ first) (apart : Bucket.stk ≠ first) (part avl : UInt64) :
    deFrozeTo first self part avl =
      ⟨0, ((self.set first ((self.get first).defroze part).volume).set .avl
        ((self.get .avl).defroze avl).volume).set .stk ((self.get .stk).defroze (part + avl)).volume⟩ := by
  have passes (some : Prop) : ¬ (some ∧ (0 : Int) ≠ 0) := fun both => both.2 rfl
  simp only [deFrozeTo, FrozeVolume.defroze_code, if_neg (passes _), release_guard, deFrozeStkBalance_eq]
  simp only [get_set_other _ _ (show Bucket.stk ≠ .avl by decide), get_set_other self _ apart,
    get_set_other self _ different]

theorem confirmFrom_covered {checked : Bool} {part avl : UInt64} (different : Bucket.avl ≠ first)
    (apart : Bucket.stk ≠ first) (one : part ≤ (self.get first).forzeVolume) (two : avl ≤ (self.get .avl).forzeVolume)
    (total : part + avl ≤ (self.get .stk).forzeVolume) :
    confirmFrom first checked self part avl =
      ⟨0, ((self.set first ((self.get first).confirm part).volume).set .avl
        ((self.get .avl).confirm avl).volume).set .stk ((self.get .stk).confirm (part + avl)).volume⟩ := by
  have passes (some : Prop) : ¬ (some ∧ (0 : Int) ≠ 0) := fun both => both.2 rfl
  have first_code := (congrArg FrozeVolume.Changed.code (FrozeVolume.confirm_covered _ _ one))
  have avl_code := (congrArg FrozeVolume.Changed.code (FrozeVolume.confirm_covered _ _ two))
  have stk_code := (congrArg FrozeVolume.Changed.code (FrozeVolume.confirm_covered _ _ total))
  simp only at first_code avl_code stk_code
  simp only [confirmFrom, first_code, if_neg (passes _), confirm_guard]
  simp only [get_set_other self _ different, avl_code, if_neg (passes _), stkBalance_eq, with_stkBalance,
    get_set_other _ _ (show Bucket.stk ≠ .avl by decide), get_set_other self _ apart, stk_code, ite_self]

/-- Whatever the parts hold, a confirm the total covers either goes through and
takes its sum from the total, or fails and leaves the total alone. -/
theorem confirmFrom_total (checked : Bool) {part avl : UInt64} (apart : Bucket.stk ≠ first)
    (total : part + avl ≤ (self.get .stk).forzeVolume) :
    (confirmFrom first checked self part avl).code = 0 ∧
        (confirmFrom first checked self part avl).volume.get .stk = ((self.get .stk).confirm (part + avl)).volume ∨
      (confirmFrom first checked self part avl).code = -1 ∧
        (confirmFrom first checked self part avl).volume.get .stk = self.get .stk := by
  have stk_code := congrArg FrozeVolume.Changed.code (FrozeVolume.confirm_covered _ _ total)
  simp only at stk_code
  have beside : Bucket.stk ≠ .avl := by decide
  simp only [confirmFrom, confirm_guard]
  split
  next => exact Or.inr ⟨rfl, get_set_other self _ apart⟩
  next =>
    split
    next => exact Or.inr ⟨rfl, by rw [get_set_other _ _ beside, get_set_other self _ apart]⟩
    next =>
      refine Or.inl ⟨?_, ?_⟩
      · simp only [stkBalance_eq, get_set_other _ _ beside, get_set_other self _ apart, stk_code, ite_self]
      · simp only [stkBalance_eq, with_stkBalance, get_set_same, get_set_other _ _ beside,
          get_set_other self _ apart]

end Simutgw.Proofs.VolumeFreeze
