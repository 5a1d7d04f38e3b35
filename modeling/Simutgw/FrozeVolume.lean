import Mathlib.Algebra.BigOperators.Group.List.Basic
import Mathlib.Algebra.Order.Ring.Int
import Mathlib.Data.UInt

/-! A counter of shares or money of which a part can be frozen. The three fields
are machine words and wrap as the source's `uint64_t` do: an overfull counter is
logged by the source, never refused. -/

namespace Simutgw

structure FrozeVolume where
  latestSynVolume : UInt64 := 0
  unFrozeVolume : UInt64 := 0
  forzeVolume : UInt64 := 0
  deriving Repr, DecidableEq

namespace FrozeVolume

/-- The last value synchronised with the database, and the value now. -/
structure Synced where
  origin : UInt64
  update : UInt64
  volume : FrozeVolume

/-- A return code, the amount the call was able to freeze, and the counter. -/
structure Frozen where
  code : Int
  maxfroze : UInt64
  volume : FrozeVolume

structure Queried where
  code : Int
  maxAvl : UInt64
  deriving DecidableEq

/-- A return code and the counter after the call. -/
structure Changed where
  code : Int
  volume : FrozeVolume

def init (self : FrozeVolume) (volume : UInt64) : FrozeVolume :=
  { self with latestSynVolume := volume, unFrozeVolume := volume }

def query (self : FrozeVolume) (cnt : UInt64) : Queried :=
  if self.unFrozeVolume < cnt then ⟨-1, self.unFrozeVolume⟩ else ⟨0, cnt⟩

/-- What `froze` freezes: the request, or whatever is left. -/
def actualFroze (self : FrozeVolume) (frozev : UInt64) : UInt64 :=
  if self.unFrozeVolume < frozev then self.unFrozeVolume else frozev

def froze (self : FrozeVolume) (frozev : UInt64) : Frozen :=
  let actual := self.actualFroze frozev
  { code := 0
    maxfroze := actual
    volume := { self with
      forzeVolume := self.forzeVolume + actual
      unFrozeVolume := self.unFrozeVolume - actual } }

/-- Releasing more than is frozen is logged by the source and done all the same. -/
def defroze (self : FrozeVolume) (frozev : UInt64) : Changed :=
  { code := 0
    volume := { self with
      forzeVolume := self.forzeVolume - frozev
      unFrozeVolume := self.unFrozeVolume + frozev } }

def confirm (self : FrozeVolume) (amount : UInt64) : Changed :=
  if self.forzeVolume < amount then ⟨-1, self⟩
  else ⟨0, { self with forzeVolume := self.forzeVolume - amount }⟩

def dbSyn (self : FrozeVolume) : Synced :=
  let update := self.forzeVolume + self.unFrozeVolume
  ⟨self.latestSynVolume, update, { self with latestSynVolume := update }⟩

def resetSyn (self : FrozeVolume) (volume : UInt64) : UInt64 × FrozeVolume :=
  (self.latestSynVolume, { self with latestSynVolume := volume })

def add (self : FrozeVolume) (inc : UInt64) : FrozeVolume :=
  { self with unFrozeVolume := self.unFrozeVolume + inc }

theorem actualFroze_toNat (self : FrozeVolume) (frozev : UInt64) :
    (self.actualFroze frozev).toNat = min self.unFrozeVolume.toNat frozev.toNat := by
  unfold actualFroze
  split
  next short => rw [UInt64.lt_iff_toNat_lt] at short; omega
  next enough => rw [UInt64.lt_iff_toNat_lt] at enough; omega

theorem actualFroze_eq_iff (self : FrozeVolume) (frozev : UInt64) :
    self.actualFroze frozev = frozev ↔ frozev ≤ self.unFrozeVolume := by
  rw [← UInt64.toNat_inj, actualFroze_toNat, UInt64.le_iff_toNat_le]
  omega

theorem froze_unfrozen (self : FrozeVolume) (frozev : UInt64) :
    (self.froze frozev).volume.unFrozeVolume.toNat + (self.actualFroze frozev).toNat = self.unFrozeVolume.toNat := by
  have least := self.actualFroze_toNat frozev
  have left : (self.unFrozeVolume - self.actualFroze frozev).toNat =
      self.unFrozeVolume.toNat - (self.actualFroze frozev).toNat := by
    apply UInt64.toNat_sub_of_le
    rw [UInt64.le_iff_toNat_le]
    omega
  show (self.unFrozeVolume - self.actualFroze frozev).toNat + _ = _
  omega

theorem froze_frozen (self : FrozeVolume) (frozev : UInt64) :
    (self.froze frozev).volume.forzeVolume.toNat =
      (self.forzeVolume.toNat + (self.actualFroze frozev).toNat) % 2 ^ 64 :=
  UInt64.toNat_add ..

/-- Releasing what a freeze has just drawn undoes it, word for word. -/
theorem defroze_froze (self : FrozeVolume) (frozev : UInt64) :
    ((self.froze frozev).volume.defroze (self.froze frozev).maxfroze).volume = self := by
  simp only [froze, defroze]
  cases self
  simp

@[simp] theorem froze_code (self : FrozeVolume) (frozev : UInt64) : (self.froze frozev).code = 0 := rfl

@[simp] theorem froze_maxfroze (self : FrozeVolume) (frozev : UInt64) :
    (self.froze frozev).maxfroze = self.actualFroze frozev := rfl

@[simp] theorem defroze_code (self : FrozeVolume) (frozev : UInt64) : (self.defroze frozev).code = 0 := rfl

theorem froze_zero (self : FrozeVolume) : (self.froze 0).volume = self := by
  have nothing : self.actualFroze 0 = 0 := by
    rw [actualFroze_eq_iff, UInt64.le_iff_toNat_le]
    simp
  simp [froze, nothing]

theorem defroze_zero (self : FrozeVolume) : (self.defroze 0).volume = self := by
  simp [defroze]

theorem confirm_zero (self : FrozeVolume) : (self.confirm 0).volume = self := by
  unfold confirm
  split
  next => rfl
  next => simp

/-- A confirm that succeeds takes the amount from the frozen part and from
nothing else; one that fails changes nothing. -/
theorem confirm_covered (self : FrozeVolume) (amount : UInt64) (covered : amount ≤ self.forzeVolume) :
    self.confirm amount = ⟨0, { self with forzeVolume := self.forzeVolume - amount }⟩ := by
  unfold confirm
  rw [if_neg (UInt64.not_lt.mpr covered)]

theorem confirm_failed (self : FrozeVolume) (amount : UInt64) (short : self.forzeVolume < amount) :
    self.confirm amount = ⟨-1, self⟩ := by
  unfold confirm
  rw [if_pos short]

end FrozeVolume
end Simutgw
