import Simutgw.Logic.Runs
import Simutgw.Proofs.VolumeFreeze

/-! Runs of one holding, with the reserves its successful freezes handed out
kept beside it. The total counter should carry exactly what is outstanding. A
freeze that its first bucket covers returns before it reaches the total, so the
law needs a condition on each freeze; the condition is exact. -/

namespace Simutgw.Proofs.VolumeLedger
open UserStockVolume VolumeFreeze Logic

/-- The four ways shares are reserved. -/
inductive Kind where
  | sell
  | sellEtf
  | creation
  | redemption
  deriving DecidableEq

namespace Kind

def first : Kind → Bucket
  | .sell => .etfRdp
  | .sellEtf => .crt
  | .creation => .actPch
  | .redemption => .actPch

def rollback : Kind → Bucket
  | .sell => .etfRdp
  | .sellEtf => .crt
  | .creation => .etfRdp
  | .redemption => .etfRdp

def checked : Kind → Bool
  | .sell => true
  | .sellEtf => true
  | .creation => false
  | .redemption => false

def froze : Kind → UserStockVolume → UInt64 → Drawn
  | .sell => sellFroze
  | .sellEtf => sellEtfFroze
  | .creation => creationFroze
  | .redemption => redemptionFroze

def deFroze : Kind → UserStockVolume → UInt64 → UInt64 → Changed
  | .sell => sellDeFroze
  | .sellEtf => sellEtfDeFroze
  | .creation => creationDeFroze
  | .redemption => redemptionDeFroze

def confirm : Kind → UserStockVolume → UInt64 → UInt64 → Changed
  | .sell => sellConfirm
  | .sellEtf => sellEtfConfirm
  | .creation => creationConfirm
  | .redemption => redemptionConfirm

theorem froze_eq (kind : Kind) : kind.froze = frozeFrom kind.first kind.rollback := by
  cases kind <;> rfl

theorem deFroze_eq (kind : Kind) : kind.deFroze = deFrozeTo kind.first := by
  cases kind <;> rfl

theorem confirm_eq (kind : Kind) : kind.confirm = confirmFrom kind.first kind.checked := by
  cases kind <;> rfl

theorem avl_ne_first (kind : Kind) : Bucket.avl ≠ kind.first := by cases kind <;> decide

theorem stk_ne_first (kind : Kind) : Bucket.stk ≠ kind.first := by cases kind <;> decide

theorem avl_ne_rollback (kind : Kind) : Bucket.avl ≠ kind.rollback := by cases kind <;> decide

theorem stk_ne_rollback (kind : Kind) : Bucket.stk ≠ kind.rollback := by cases kind <;> decide

end Kind

/-- What one successful freeze handed out and has not yet got back. -/
structure Reserve where
  kind : Kind
  part : UInt64
  avl : UInt64
  deriving DecidableEq

def Reserve.amount (reserve : Reserve) : Nat := reserve.part.toNat + reserve.avl.toNat

def Reserve.spend (part avl : UInt64) (reserve : Reserve) : Reserve :=
  { reserve with part := reserve.part - part, avl := reserve.avl - avl }

def outstanding (reserves : List Reserve) : Nat := (reserves.map Reserve.amount).sum

structure Ledger where
  volume : UserStockVolume
  reserves : List Reserve

inductive Call where
  | froze (kind : Kind) (volume : UInt64)
  | deFroze (kind : Kind) (index : Nat) (part avl : UInt64)
  | confirm (kind : Kind) (index : Nat) (part avl : UInt64)
  | addAct (num : UInt64)
  | addCrt (num : UInt64)
  | addRdp (num : UInt64)

namespace Ledger

def fresh (volume : UserStockVolume) : Ledger := ⟨volume, []⟩

def froze (ledger : Ledger) (kind : Kind) (volume : UInt64) : Ledger :=
  let drawn := kind.froze ledger.volume volume
  ⟨drawn.volume, if drawn.code = 0 then ledger.reserves ++ [⟨kind, drawn.first, drawn.avl⟩] else ledger.reserves⟩

/-- A release or confirm uses up a reserve only when it reports success. -/
def settle (ledger : Ledger) (changed : Changed) (index : Nat) (part avl : UInt64) : Ledger :=
  ⟨changed.volume, if changed.code = 0 then ledger.reserves.modify index (Reserve.spend part avl) else ledger.reserves⟩

/-- The reserve at this index still covers these amounts of the same two buckets. -/
def Lends (ledger : Ledger) (kind : Kind) (index : Nat) (part avl : UInt64) : Prop :=
  ∃ reserve, ledger.reserves[index]? = some reserve ∧ reserve.kind.first = kind.first ∧
    part ≤ reserve.part ∧ avl ≤ reserve.avl

/-- The total has frozen what is outstanding. -/
def Balanced (ledger : Ledger) : Prop :=
  (ledger.volume.get .stk).forzeVolume.toNat = outstanding ledger.reserves

instance (ledger : Ledger) : Decidable ledger.Balanced :=
  inferInstanceAs (Decidable (_ = _))

end Ledger

inductive Step : Steps Ledger Call
  | froze {ledger : Ledger} (kind : Kind) (volume : UInt64) :
      Step ledger (.froze kind volume) (ledger.froze kind volume)
  | deFroze {ledger : Ledger} {kind : Kind} {index : Nat} {part avl : UInt64}
      (lent : ledger.Lends kind index part avl) :
      Step ledger (.deFroze kind index part avl)
        (ledger.settle (kind.deFroze ledger.volume part avl) index part avl)
  | confirm {ledger : Ledger} {kind : Kind} {index : Nat} {part avl : UInt64}
      (lent : ledger.Lends kind index part avl) :
      Step ledger (.confirm kind index part avl)
        (ledger.settle (kind.confirm ledger.volume part avl) index part avl)
  | addAct {ledger : Ledger} (num : UInt64) : Step ledger (.addAct num) { ledger with volume := ledger.volume.addAct num }
  | addCrt {ledger : Ledger} (num : UInt64) : Step ledger (.addCrt num) { ledger with volume := ledger.volume.addCrt num }
  | addRdp {ledger : Ledger} (num : UInt64) : Step ledger (.addRdp num) { ledger with volume := ledger.volume.addRdp num }

/-- The freeze is refused, asks for nothing, or goes past its first bucket and
fits the total. -/
def Counted (volume : UserStockVolume) (kind : Kind) (froze : UInt64) : Prop :=
  froze = 0 ∨ free kind.first volume < froze.toNat ∨
    (volume.get kind.first).unFrozeVolume < froze ∧ froze ≤ (volume.get .stk).unFrozeVolume ∧
      (volume.get .stk).forzeVolume.toNat + froze.toNat < 2 ^ 64

def Meets (ledger : Ledger) : Call → Prop
  | .froze kind volume => Counted ledger.volume kind volume
  | _ => True

private theorem outstanding_append (reserves : List Reserve) (reserve : Reserve) :
    outstanding (reserves ++ [reserve]) = outstanding reserves + reserve.amount := by
  simp [outstanding]

private theorem outstanding_spend {reserves : List Reserve} {index : Nat} {reserve : Reserve} {part avl : UInt64}
    (found : reserves[index]? = some reserve) (one : part ≤ reserve.part) (two : avl ≤ reserve.avl) :
    outstanding (reserves.modify index (Reserve.spend part avl)) + (part.toNat + avl.toNat) =
      outstanding reserves := by
  induction reserves generalizing index with
  | nil => simp at found
  | cons head tail ih =>
    cases index with
    | zero =>
      simp only [List.getElem?_cons_zero, Option.some.injEq] at found
      subst found
      have first_left := UInt64.toNat_sub_of_le _ _ one
      have avl_left := UInt64.toNat_sub_of_le _ _ two
      rw [UInt64.le_iff_toNat_le] at one two
      simp only [List.modify_zero_cons, outstanding, List.map_cons, List.sum_cons, Reserve.amount, Reserve.spend,
        first_left, avl_left]
      omega
    | succ index =>
      simp only [List.getElem?_cons_succ] at found
      have rest := ih found
      simp only [List.modify_succ_cons, outstanding, List.map_cons, List.sum_cons] at rest ⊢
      omega

private theorem lent_le {ledger : Ledger} {kind : Kind} {index : Nat} {part avl : UInt64}
    (lent : ledger.Lends kind index part avl) : part.toNat + avl.toNat ≤ outstanding ledger.reserves := by
  obtain ⟨reserve, found, _, one, two⟩ := lent
  have spent := outstanding_spend found one two
  omega

private theorem lent_toNat {ledger : Ledger} {kind : Kind} {index : Nat} {part avl : UInt64}
    (balanced : ledger.Balanced) (lent : ledger.Lends kind index part avl) :
    (part + avl).toNat = part.toNat + avl.toNat ∧ part + avl ≤ (ledger.volume.get .stk).forzeVolume := by
  have inside := lent_le lent
  have bound := (ledger.volume.get .stk).forzeVolume.toNat_lt
  unfold Ledger.Balanced at balanced
  have sum : (part + avl).toNat = part.toNat + avl.toNat := by
    rw [UInt64.toNat_add, Nat.mod_eq_of_lt (by omega)]
  refine ⟨sum, ?_⟩
  rw [UInt64.le_iff_toNat_le]
  omega

theorem balanced_froze_iff {ledger : Ledger} (balanced : ledger.Balanced) (kind : Kind) (volume : UInt64) :
    (ledger.froze kind volume).Balanced ↔ Counted ledger.volume kind volume := by
  unfold Ledger.Balanced at balanced
  unfold Ledger.Balanced Ledger.froze Counted
  simp only [kind.froze_eq]
  by_cases refused : free kind.first ledger.volume < volume.toNat
  · rw [frozeFrom_refused kind.avl_ne_first kind.avl_ne_rollback refused]
    simp [putBack_eq, kind.stk_ne_rollback, kind.stk_ne_first, balanced, refused]
  · rcases UInt64.lt_or_le (ledger.volume.get kind.first).unFrozeVolume volume with short | covered
    · rw [frozeFrom_drained kind.avl_ne_first short (by omega)]
      have rest := UInt64.toNat_sub_of_le _ _ (UInt64.le_of_lt short)
      have drawn := (ledger.volume.get .stk).actualFroze_toNat volume
      have bound := (ledger.volume.get .stk).forzeVolume.toNat_lt
      have apart : Bucket.stk ≠ .avl := by decide
      rw [UInt64.lt_iff_toNat_lt] at short
      have asked : volume ≠ 0 := by
        rintro rfl
        simp at short
      simp only [get_set_same, get_set_other _ _ apart, get_set_other _ _ kind.stk_ne_first, FrozeVolume.froze,
        UInt64.toNat_add, drawn, if_true, outstanding_append, Reserve.amount, rest, UInt64.lt_iff_toNat_lt,
        UInt64.le_iff_toNat_le, refused, asked, false_or, short, true_and]
      omega
    · rw [frozeFrom_covered covered]
      have within := UInt64.le_iff_toNat_le.mp covered
      simp only [get_set_other _ _ kind.stk_ne_first, balanced, if_true, outstanding_append, Reserve.amount,
        refused, UInt64.not_lt.mpr covered, false_and, or_false, ← UInt64.toNat_inj]
      simp

private theorem settled_balanced {ledger : Ledger} {kind : Kind} {index : Nat} {part avl : UInt64}
    (balanced : ledger.Balanced) (lent : ledger.Lends kind index part avl) (changed : Changed)
    (outcome : changed.code = 0 ∧ (changed.volume.get .stk).forzeVolume =
        (ledger.volume.get .stk).forzeVolume - (part + avl) ∨
      changed.code = -1 ∧ changed.volume.get .stk = ledger.volume.get .stk) :
    (ledger.settle changed index part avl).Balanced := by
  obtain ⟨sum, inside⟩ := lent_toNat balanced lent
  obtain ⟨reserve, found, _, one, two⟩ := lent
  have spent := outstanding_spend found one two
  unfold Ledger.Balanced at balanced
  unfold Ledger.Balanced Ledger.settle
  rcases outcome with ⟨done, total⟩ | ⟨failed, same⟩
  · simp only [done, if_true, total, UInt64.toNat_sub_of_le _ _ inside, sum]
    omega
  · simp [failed, same, balanced]

theorem step_balanced {before after : Ledger} {call : Call} (balanced : before.Balanced)
    (step : Step before call after) (meets : Meets before call) : after.Balanced := by
  cases step with
  | froze kind volume => exact (balanced_froze_iff balanced kind volume).mpr meets
  | @deFroze _ kind index part avl lent =>
    apply settled_balanced balanced lent
    rw [kind.deFroze_eq, deFrozeTo_eq kind.avl_ne_first kind.stk_ne_first]
    exact Or.inl ⟨rfl, by rw [get_set_same]; rfl⟩
  | @confirm _ kind index part avl lent =>
    apply settled_balanced balanced lent
    rw [kind.confirm_eq]
    have inside := (lent_toNat balanced lent).2
    rcases confirmFrom_total kind.checked kind.stk_ne_first inside with ⟨done, total⟩ | failed
    · exact Or.inl ⟨done, by rw [total, FrozeVolume.confirm_covered _ _ inside]⟩
    · exact Or.inr failed
  | addAct num => exact balanced
  | addCrt num => exact balanced
  | addRdp num => exact balanced

/-- In every run whose freezes are counted the total has frozen exactly what is
outstanding, and at any state of such a run the next freeze keeps the law, and
freezes its own amount in the total, only if it is counted as well. -/
theorem stkBalance_freezes_outstanding {stored : Bool} {stk actPch stpPch etfRdp crt avl last : UInt64}
    {calls : List Call} {ledger : Ledger}
    (run : Run (Steps.guarded Step Meets) (.fresh (create stored stk actPch stpPch etfRdp crt avl last)) calls ledger) :
    ledger.Balanced ∧ ∀ kind volume,
      ((ledger.froze kind volume).Balanced ↔ Counted ledger.volume kind volume) ∧
      ((kind.froze ledger.volume volume).code = 0 →
        (((kind.froze ledger.volume volume).volume.get .stk).forzeVolume.toNat =
          (ledger.volume.get .stk).forzeVolume.toNat + volume.toNat ↔ Counted ledger.volume kind volume)) := by
  have balanced : ledger.Balanced :=
    run.invariant (fun _ _ _ balanced taken => step_balanced balanced taken.1 taken.2) rfl
  refine ⟨balanced, fun kind volume => ⟨balanced_froze_iff balanced kind volume, fun success => ?_⟩⟩
  rw [← balanced_froze_iff balanced kind volume]
  have handed : (kind.froze ledger.volume volume).first.toNat + (kind.froze ledger.volume volume).avl.toNat =
      volume.toNat := by
    rw [kind.froze_eq] at success ⊢
    exact frozeFrom_hands_out kind.avl_ne_first kind.avl_ne_rollback success
  unfold Ledger.Balanced at balanced
  simp only [Ledger.Balanced, Ledger.froze, success, if_true, outstanding_append, Reserve.amount, handed, balanced]

theorem stkBalance_freezes_outstanding_drawn :
    let start := Ledger.fresh (create true 30 0 0 10 0 20 0)
    (start.froze .sell 15).Balanced :=
  (stkBalance_freezes_outstanding (.single
    ⟨.froze .sell 15, Or.inr (Or.inr ⟨by decide, by decide, by decide⟩)⟩)).1

/-- Ten redeemed shares, all sold: the freeze succeeds and the total has nothing frozen. -/
theorem stkBalance_not_always_frozen :
    ¬ ∀ (stored : Bool) (stk actPch stpPch etfRdp crt avl last : UInt64) (calls : List Call) (ledger : Ledger),
      Run Step (.fresh (create stored stk actPch stpPch etfRdp crt avl last)) calls ledger → ledger.Balanced := by
  intro always
  have reached := always true 10 0 0 10 0 0 0 _ _ (.single (.froze .sell 10))
  revert reached
  decide

/-- What a refused freeze drew goes back where it came from, or it drew nothing
from its first bucket, or the request is covered. -/
def Restored (volume : UserStockVolume) (kind : Kind) (froze : UInt64) : Prop :=
  kind = .sell ∨ kind = .sellEtf ∨ (volume.get .actPch).unFrozeVolume = 0 ∨ froze.toNat ≤ free .actPch volume

private theorem rollback_restores (volume : UserStockVolume) (bucket : Bucket) {froze : UInt64}
    (short : (volume.get bucket).unFrozeVolume < froze) :
    (volume.set bucket ((volume.get bucket).froze froze).volume).putBack bucket (volume.get bucket).unFrozeVolume =
      volume := by
  have undone := (volume.get bucket).defroze_froze froze
  rw [FrozeVolume.froze_maxfroze, actualFroze_of_lt short] at undone
  rw [putBack_eq, get_set_same, set_set, undone, set_get]

private theorem refused_drains {volume : UserStockVolume} {first : Bucket} {froze : UInt64}
    (refused : free first volume < froze.toNat) : (volume.get first).unFrozeVolume < froze := by
  unfold free at refused
  rw [UInt64.lt_iff_toNat_lt]
  omega

/-- The bought shares a refused creation or redemption freeze drew are lost to
their bucket unless there were none. -/
private theorem misplaced_iff (volume : UserStockVolume) {froze : UInt64}
    (refused : free .actPch volume < froze.toNat) :
    (frozeFrom .actPch .etfRdp volume froze).volume = volume ↔ (volume.get .actPch).unFrozeVolume = 0 := by
  have short := refused_drains refused
  rw [frozeFrom_refused (by decide) (by decide) refused]
  constructor
  · intro same
    have drained := congrArg (fun volume => (volume.get .actPch).unFrozeVolume) same
    simp only [putBack_eq, get_set_other _ _ (show Bucket.actPch ≠ .etfRdp by decide), get_set_same,
      FrozeVolume.froze, actualFroze_of_lt short, UInt64.sub_self] at drained
    exact drained.symm
  · intro none
    have nothing : ((volume.get .actPch).froze froze).volume = volume.get .actPch := by
      have drawn := actualFroze_of_lt short
      rw [none] at drawn
      simp [FrozeVolume.froze, drawn]
    rw [none, nothing, set_get, putBack_eq, FrozeVolume.defroze_zero, set_get]

/-- A refused freeze leaves the holding as it was exactly when its rollback
bucket is its own or there was nothing to roll back. -/
theorem refused_freeze_unchanged_iff (volume : UserStockVolume) (kind : Kind) (froze : UInt64) :
    ((kind.froze volume froze).code = -1 → (kind.froze volume froze).volume = volume) ↔
      Restored volume kind froze := by
  rw [kind.froze_eq, frozeFrom_code kind.avl_ne_first kind.avl_ne_rollback]
  unfold Restored
  have own (bucket : Bucket) (different : Bucket.avl ≠ bucket) (refused : free bucket volume < froze.toNat) :
      (frozeFrom bucket bucket volume froze).volume = volume := by
    rw [frozeFrom_refused different different refused]
    exact rollback_restores volume bucket (refused_drains refused)
  have other : ((if free .actPch volume < froze.toNat then (-1 : Int) else 0) = -1 →
      (frozeFrom .actPch .etfRdp volume froze).volume = volume) ↔
      (volume.get .actPch).unFrozeVolume = 0 ∨ froze.toNat ≤ free .actPch volume := by
    by_cases refused : free .actPch volume < froze.toNat
    · simp [refused, misplaced_iff volume refused, Nat.not_le.mpr refused]
    · simp [refused, Nat.not_lt.mp refused]
  cases kind with
  | sell =>
    simp only [true_or, iff_true]
    intro code
    exact own .etfRdp (by decide) (by by_contra enough; simp [Kind.first, enough] at code)
  | sellEtf =>
    simp only [true_or, or_true, iff_true]
    intro code
    exact own .crt (by decide) (by by_contra enough; simp [Kind.first, enough] at code)
  | creation =>
    simp only [reduceCtorEq, false_or, Kind.first, Kind.rollback]
    exact other
  | redemption =>
    simp only [reduceCtorEq, false_or, Kind.first, Kind.rollback]
    exact other

/-- Five bought shares, ten asked for: the five come back as redeemed ones. -/
theorem refused_freeze_changes :
    ¬ ∀ (stored : Bool) (stk actPch stpPch etfRdp crt avl last : UInt64) (calls : List Call) (ledger : Ledger),
      Run Step (.fresh (create stored stk actPch stpPch etfRdp crt avl last)) calls ledger →
      ∀ (kind : Kind) (froze : UInt64), (kind.froze ledger.volume froze).code = -1 →
        (kind.froze ledger.volume froze).volume = ledger.volume := by
  intro always
  have unchanged := always true 5 5 0 0 0 0 0 _ _ (.nil _) .creation 10 (by decide)
  revert unchanged
  decide

end Simutgw.Proofs.VolumeLedger
