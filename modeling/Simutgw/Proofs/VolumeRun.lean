import Simutgw.FrozeVolume
import Simutgw.Logic.Runs

/-! A counter over whole runs of its operations. A freeze that finds too little
answers as if it had found enough, and a release of more than is frozen is carried
out; between them they are all that can go wrong. -/

namespace Simutgw.Proofs.VolumeRun
open Logic FrozeVolume

inductive Operation where
  | init (volume : UInt64)
  | add (inc : UInt64)
  | froze (frozev : UInt64)
  | defroze (frozev : UInt64)
  | confirm (amount : UInt64)
  deriving DecidableEq, Repr

/-- A counter, and what has been put into it and confirmed out of it so far. -/
structure Ledger where
  volume : FrozeVolume
  initial : Nat
  added : Nat := 0
  confirmed : Nat := 0
  deriving DecidableEq

namespace Operation

def run (self : FrozeVolume) : Operation → Changed
  | init volume => ⟨0, self.init volume⟩
  | add inc => ⟨0, self.add inc⟩
  | froze frozev => ⟨(self.froze frozev).code, (self.froze frozev).volume⟩
  | defroze frozev => self.defroze frozev
  | confirm amount => self.confirm amount

/-- What an operation adds to the unfrozen and to the frozen counter, as integers. -/
def moves (self : FrozeVolume) : Operation → Int × Int
  | init volume => (volume.toNat - self.unFrozeVolume.toNat, 0)
  | add inc => (inc.toNat, 0)
  | froze frozev => (-(self.actualFroze frozev).toNat, (self.actualFroze frozev).toNat)
  | defroze frozev => (frozev.toNat, -frozev.toNat)
  | confirm amount => (0, if self.forzeVolume < amount then 0 else -amount.toNat)

end Operation

namespace Ledger

/-- The counter as either constructor makes it: the one without a maximum starts at zero. -/
def opened (max : UInt64) : Ledger where
  volume := { latestSynVolume := max, unFrozeVolume := max }
  initial := max.toNat

/-- Only a confirm that succeeds is counted. -/
def step (ledger : Ledger) (operation : Operation) : Ledger :=
  let changed := operation.run ledger.volume
  let after := { ledger with volume := changed.volume }
  match operation with
  | .init volume => { after with initial := ledger.initial + volume.toNat }
  | .add inc => { after with added := ledger.added + inc.toNat }
  | .confirm amount =>
    if changed.code = 0 then { after with confirmed := ledger.confirmed + amount.toNat } else after
  | .froze _ | .defroze _ => after

end Ledger

/-- The operations, for as long as what is put in is less than a word holds. -/
def Step : Steps Ledger Operation :=
  fun before operation after => before.step operation = after ∧ after.initial + after.added < 2 ^ 64

/-- What is there is what was put in, less what was confirmed. -/
def Balanced (ledger : Ledger) : Prop :=
  ledger.volume.unFrozeVolume.toNat + ledger.volume.forzeVolume.toNat + ledger.confirmed =
    ledger.initial + ledger.added

/-- Neither counter has wrapped. -/
def Unwrapped (before : FrozeVolume) (operation : Operation) (after : FrozeVolume) : Prop :=
  (after.unFrozeVolume.toNat : Int) = before.unFrozeVolume.toNat + (operation.moves before).1 ∧
    (after.forzeVolume.toNat : Int) = before.forzeVolume.toNat + (operation.moves before).2

structure Lawful (before : Ledger) (operation : Operation) (after : Ledger) : Prop where
  balanced : Balanced after
  unwrapped : Unwrapped before.volume operation after.volume
  whole : ∀ frozev, operation = .froze frozev → (operation.run before.volume).code = 0 →
    after.volume.forzeVolume.toNat = before.volume.forzeVolume.toNat + frozev.toNat
  refused : ∀ frozev, operation = .defroze frozev → before.volume.forzeVolume < frozev →
    (operation.run before.volume).code = -1 ∧ after.volume = before.volume

/-- The counter is initialised while nothing is unfrozen, nothing is frozen beyond what
is there, and nothing released beyond what is frozen. -/
def Meets (ledger : Ledger) : Operation → Prop
  | .init _ => ledger.volume.unFrozeVolume = 0
  | .add _ | .confirm _ => True
  | .froze frozev => frozev ≤ ledger.volume.unFrozeVolume
  | .defroze frozev => frozev ≤ ledger.volume.forzeVolume

variable {ledger : Ledger}

theorem balanced_opened (max : UInt64) : Balanced (.opened max) := by
  simp [Balanced, Ledger.opened]

theorem init_lawful_iff (balanced : Balanced ledger) (volume : UInt64) :
    Lawful ledger (.init volume) (ledger.step (.init volume)) ↔ ledger.volume.unFrozeVolume = 0 := by
  have balance := balanced
  unfold Balanced at balance
  rw [← UInt64.toNat_inj, UInt64.toNat_zero]
  constructor
  · intro lawful
    have after : volume.toNat + ledger.volume.forzeVolume.toNat + ledger.confirmed =
      ledger.initial + volume.toNat + ledger.added := lawful.balanced
    omega
  · intro nothing
    refine ⟨?_, ?_, ?_, ?_⟩
    · show volume.toNat + ledger.volume.forzeVolume.toNat + ledger.confirmed =
        ledger.initial + volume.toNat + ledger.added
      omega
    · constructor
      · show (volume.toNat : Int) =
          ledger.volume.unFrozeVolume.toNat + (volume.toNat - ledger.volume.unFrozeVolume.toNat)
        omega
      · exact (Int.add_zero _).symm
    · rintro _ ⟨⟩
    · rintro _ ⟨⟩

theorem add_lawful (balanced : Balanced ledger) {inc : UInt64}
    (bounded : ledger.initial + ledger.added + inc.toNat < 2 ^ 64) :
    Lawful ledger (.add inc) (ledger.step (.add inc)) := by
  have balance := balanced
  unfold Balanced at balance
  have sum : (ledger.volume.unFrozeVolume + inc).toNat = ledger.volume.unFrozeVolume.toNat + inc.toNat := by
    rw [UInt64.toNat_add, Nat.mod_eq_of_lt (by omega)]
  refine ⟨?_, ?_, ?_, ?_⟩
  · show (ledger.volume.unFrozeVolume + inc).toNat + ledger.volume.forzeVolume.toNat + ledger.confirmed =
      ledger.initial + (ledger.added + inc.toNat)
    omega
  · constructor
    · show ((ledger.volume.unFrozeVolume + inc).toNat : Int) = ledger.volume.unFrozeVolume.toNat + inc.toNat
      omega
    · exact (Int.add_zero _).symm
  · rintro _ ⟨⟩
  · rintro _ ⟨⟩

theorem froze_moves (balanced : Balanced ledger) (bounded : ledger.initial + ledger.added < 2 ^ 64) (frozev : UInt64) :
    ((ledger.volume.froze frozev).volume.unFrozeVolume.toNat + (ledger.volume.actualFroze frozev).toNat =
      ledger.volume.unFrozeVolume.toNat) ∧
    (ledger.volume.froze frozev).volume.forzeVolume.toNat =
      ledger.volume.forzeVolume.toNat + (ledger.volume.actualFroze frozev).toNat := by
  have balance := balanced
  unfold Balanced at balance
  have drawn := ledger.volume.froze_unfrozen frozev
  refine ⟨drawn, ?_⟩
  rw [froze_frozen, Nat.mod_eq_of_lt (by omega)]

theorem froze_lawful_iff (balanced : Balanced ledger) (bounded : ledger.initial + ledger.added < 2 ^ 64)
    (frozev : UInt64) :
    Lawful ledger (.froze frozev) (ledger.step (.froze frozev)) ↔ frozev ≤ ledger.volume.unFrozeVolume := by
  have balance := balanced
  unfold Balanced at balance
  obtain ⟨unfrozen, frozen⟩ := froze_moves balanced bounded frozev
  rw [← actualFroze_eq_iff, ← UInt64.toNat_inj]
  constructor
  · intro lawful
    have whole : (ledger.volume.froze frozev).volume.forzeVolume.toNat =
        ledger.volume.forzeVolume.toNat + frozev.toNat := lawful.whole frozev rfl rfl
    omega
  · intro all
    refine ⟨?_, ?_, ?_, ?_⟩
    · show (ledger.volume.froze frozev).volume.unFrozeVolume.toNat +
        (ledger.volume.froze frozev).volume.forzeVolume.toNat + ledger.confirmed = ledger.initial + ledger.added
      omega
    · constructor
      · show ((ledger.volume.froze frozev).volume.unFrozeVolume.toNat : Int) =
          ledger.volume.unFrozeVolume.toNat + -((ledger.volume.actualFroze frozev).toNat : Int)
        omega
      · show ((ledger.volume.froze frozev).volume.forzeVolume.toNat : Int) =
          ledger.volume.forzeVolume.toNat + ((ledger.volume.actualFroze frozev).toNat : Int)
        omega
    · rintro _ ⟨⟩ _
      exact frozen.trans (by rw [all])
    · rintro _ ⟨⟩

theorem defroze_lawful_iff (balanced : Balanced ledger) (bounded : ledger.initial + ledger.added < 2 ^ 64)
    (frozev : UInt64) :
    Lawful ledger (.defroze frozev) (ledger.step (.defroze frozev)) ↔ frozev ≤ ledger.volume.forzeVolume := by
  have balance := balanced
  unfold Balanced at balance
  constructor
  · intro lawful
    refine Decidable.byContradiction fun beyond => ?_
    have code : (0 : Int) = -1 := (lawful.refused frozev rfl (UInt64.not_le.mp beyond)).1
    omega
  · intro covered
    have small := UInt64.le_iff_toNat_le.mp covered
    have frozen : (ledger.volume.forzeVolume - frozev).toNat = ledger.volume.forzeVolume.toNat - frozev.toNat :=
      UInt64.toNat_sub_of_le _ _ covered
    have unfrozen : (ledger.volume.unFrozeVolume + frozev).toNat =
        ledger.volume.unFrozeVolume.toNat + frozev.toNat := by
      rw [UInt64.toNat_add, Nat.mod_eq_of_lt (by omega)]
    refine ⟨?_, ?_, ?_, ?_⟩
    · show (ledger.volume.unFrozeVolume + frozev).toNat + (ledger.volume.forzeVolume - frozev).toNat +
        ledger.confirmed = ledger.initial + ledger.added
      omega
    · constructor
      · show ((ledger.volume.unFrozeVolume + frozev).toNat : Int) = ledger.volume.unFrozeVolume.toNat + frozev.toNat
        omega
      · show ((ledger.volume.forzeVolume - frozev).toNat : Int) =
          ledger.volume.forzeVolume.toNat + -(frozev.toNat : Int)
        omega
    · rintro _ ⟨⟩
    · rintro _ ⟨⟩ beyond
      exact absurd covered (UInt64.not_le.mpr beyond)

theorem confirm_lawful (balanced : Balanced ledger) (amount : UInt64) :
    Lawful ledger (.confirm amount) (ledger.step (.confirm amount)) := by
  have balance := balanced
  unfold Balanced at balance
  by_cases short : ledger.volume.forzeVolume < amount
  · have failed := confirm_failed ledger.volume amount short
    have same : ledger.step (.confirm amount) = ledger := by
      simp only [Ledger.step, Operation.run, failed]
      rfl
    rw [same]
    refine ⟨balanced, ?_, ?_, ?_⟩
    · simp [Unwrapped, Operation.moves, short]
    · rintro _ ⟨⟩
    · rintro _ ⟨⟩
  · have covered := UInt64.not_lt.mp short
    have small := UInt64.le_iff_toNat_le.mp covered
    have taken : (ledger.volume.forzeVolume - amount).toNat = ledger.volume.forzeVolume.toNat - amount.toNat :=
      UInt64.toNat_sub_of_le _ _ covered
    have after : ledger.step (.confirm amount) = { ledger with
        volume := { ledger.volume with forzeVolume := ledger.volume.forzeVolume - amount }
        confirmed := ledger.confirmed + amount.toNat } := by
      simp only [Ledger.step, Operation.run, confirm_covered _ _ covered, if_true]
    rw [after]
    refine ⟨?_, ?_, ?_, ?_⟩
    · show ledger.volume.unFrozeVolume.toNat + (ledger.volume.forzeVolume - amount).toNat +
        (ledger.confirmed + amount.toNat) = ledger.initial + ledger.added
      omega
    · simp only [Unwrapped, Operation.moves, if_neg short, taken, Int.add_zero, true_and]
      omega
    · rintro _ ⟨⟩
    · rintro _ ⟨⟩

theorem step_lawful_iff {before after : Ledger} {operation : Operation} (balanced : Balanced before)
    (taken : Step before operation after) : Lawful before operation after ↔ Meets before operation := by
  obtain ⟨rfl, bounded⟩ := taken
  cases operation with
  | init volume => exact init_lawful_iff balanced volume
  | add inc =>
    have total : before.initial + (before.added + inc.toNat) < 2 ^ 64 := bounded
    exact iff_of_true (add_lawful balanced (by omega)) trivial
  | froze frozev => exact froze_lawful_iff balanced bounded frozev
  | defroze frozev => exact defroze_lawful_iff balanced bounded frozev
  | confirm amount => exact iff_of_true (confirm_lawful balanced amount) trivial

/-- The runs that keep the law throughout are those that ask for no more than there is. -/
theorem operations_lawful_iff (max : UInt64) (operations : List Operation) (last : Ledger) :
    Run (fun before operation after => Step before operation after ∧ Lawful before operation after)
        (.opened max) operations last ↔
      Run (Step.guarded Meets) (.opened max) operations last :=
  Run.lawful_iff_guarded (fun _ _ _ => step_lawful_iff) (fun _ _ _ _ _ lawful => lawful.balanced) (balanced_opened max)

/-- On an empty counter a freeze of one succeeds without freezing it, and a release of
one leaves the frozen counter at its largest value. -/
theorem empty_counter_releases :
    ∃ frozen released, Run Step (.opened 0) [.froze 1] frozen ∧ ¬ Lawful (.opened 0) (.froze 1) frozen ∧
      Run Step frozen [.defroze 1] released ∧ ¬ Lawful frozen (.defroze 1) released ∧
      released.volume.forzeVolume = 18446744073709551615 := by
  refine ⟨.opened 0, { Ledger.opened 0 with volume := { unFrozeVolume := 1, forzeVolume := 18446744073709551615 } },
    .single ⟨by decide, by decide⟩, ?_, .single ⟨by decide, by decide⟩, ?_, rfl⟩
  · intro lawful
    exact absurd (lawful.whole 1 rfl rfl) (by decide)
  · intro lawful
    exact absurd (lawful.refused 1 rfl (by decide)).1 (by decide)

end Simutgw.Proofs.VolumeRun
