import Simutgw.Proofs.EtfSettlement
import Simutgw.Proofs.FreezeUndone

/-! What a creation's freezing loop leaves frozen beside what it notes. One component
after another draws on the bought shares and on the available balance of its own
security; what earlier components have set aside of it is no longer there. -/

namespace Simutgw.Proofs.CreationFreeze
open UserStockHelper UserStockVolume VolumeFreeze VolumeLedger Holdings EtfSettlement FreezeUndone

def loose (volume : UserStockVolume) (bucket : Bucket) : Nat := (volume.get bucket).unFrozeVolume.toNat

def tied (volume : UserStockVolume) (bucket : Bucket) : Nat := (volume.get bucket).forzeVolume.toNat

/-- Drawing this much empties the bought shares, is covered by the available balance and
counted in the total, and overfills no frozen counter. -/
structure Fits (volume : UserStockVolume) (amount : Nat) : Prop where
  beyond : loose volume .actPch < amount
  covered : amount ≤ free .actPch volume
  total : amount ≤ loose volume .stk
  act : tied volume .actPch + loose volume .actPch < 2 ^ 64
  avl : tied volume .avl + (amount - loose volume .actPch) < 2 ^ 64
  stk : tied volume .stk + amount < 2 ^ 64

/-- Nothing is wanted, nothing is there, or what is wanted is frozen in all three counters. -/
def Whole (volume : UserStockVolume) (wanted : UInt64) : Prop :=
  wanted = 0 ∨ free .actPch volume = 0 ∨ Fits volume wanted.toNat

/-- So much of a holding has been set aside, out of the bought shares first. -/
structure SetAside (before now : UserStockVolume) (amount : Nat) : Prop where
  act : loose now .actPch + min amount (loose before .actPch) = loose before .actPch ∧
    tied now .actPch = tied before .actPch + min amount (loose before .actPch)
  avl : loose now .avl + (amount - loose before .actPch) = loose before .avl ∧
    tied now .avl = tied before .avl + (amount - loose before .actPch)
  stk : loose now .stk + amount = loose before .stk ∧ tied now .stk = tied before .stk + amount

section Volumes

variable {volume : UserStockVolume} {wanted amount : UInt64} {counter : FrozeVolume}

theorem froze_tied_le (counter : FrozeVolume) (amount : UInt64) :
    (counter.froze amount).volume.forzeVolume.toNat ≤
      counter.forzeVolume.toNat + (counter.actualFroze amount).toNat := by
  rw [FrozeVolume.froze_frozen]
  exact Nat.mod_le ..

theorem froze_tied_iff (counter : FrozeVolume) (amount : UInt64) :
    (counter.froze amount).volume.forzeVolume.toNat =
        counter.forzeVolume.toNat + (counter.actualFroze amount).toNat ↔
      counter.forzeVolume.toNat + (counter.actualFroze amount).toNat < 2 ^ 64 := by
  rw [FrozeVolume.froze_frozen]
  constructor
  · intro exact
    rw [← exact]
    exact Nat.mod_lt _ (by decide)
  · exact Nat.mod_eq_of_lt

/-- The three ways a creation's freeze of a component ends. -/
inductive Froze (volume : UserStockVolume) (wanted : UInt64) (drawn : Drawn) : Prop
  | covered (enough : wanted.toNat ≤ loose volume .actPch) (code : drawn.code = 0) (first : drawn.first = wanted)
      (avl : drawn.avl = 0)
      (after : drawn.volume = volume.set .actPch ((volume.get .actPch).froze wanted).volume)
  | drained (short : loose volume .actPch < wanted.toNat) (enough : wanted.toNat ≤ free .actPch volume)
      (code : drawn.code = 0) (first : drawn.first.toNat = loose volume .actPch)
      (avl : drawn.avl.toNat = wanted.toNat - loose volume .actPch)
      (act : drawn.volume.get .actPch = ((volume.get .actPch).froze wanted).volume)
      (available : drawn.volume.get .avl = ((volume.get .avl).froze drawn.avl).volume)
      (total : drawn.volume.get .stk = ((volume.get .stk).froze wanted).volume)
      (rest : ∀ bucket, bucket ≠ .actPch → bucket ≠ .avl → bucket ≠ .stk →
        drawn.volume.get bucket = volume.get bucket)
  | refused (short : free .actPch volume < wanted.toNat) (code : drawn.code = -1)
      (first : drawn.first.toNat = loose volume .actPch) (avl : drawn.avl.toNat = loose volume .avl)
      (act : drawn.volume.get .actPch = ((volume.get .actPch).froze wanted).volume)
      (available : drawn.volume.get .avl = volume.get .avl) (total : drawn.volume.get .stk = volume.get .stk)
      (nothing : loose volume .actPch = 0 → drawn.volume = volume)

theorem creationFroze_cases (volume : UserStockVolume) (wanted : UInt64) :
    Froze volume wanted (volume.creationFroze wanted) := by
  have first_toNat : free .actPch volume = loose volume .actPch + loose volume .avl := rfl
  by_cases enough : wanted.toNat ≤ free .actPch volume
  · rcases UInt64.lt_or_le (volume.get .actPch).unFrozeVolume wanted with short | covered
    · have drained := @frozeFrom_drained .actPch .etfRdp volume wanted (by decide) short enough
      have left := UInt64.toNat_sub_of_le _ _ (UInt64.le_of_lt short)
      simp only at drained
      rw [get_set_other _ _ (show Bucket.stk ≠ .avl by decide),
        get_set_other _ _ (show Bucket.stk ≠ .actPch by decide)] at drained
      rw [show volume.creationFroze wanted = _ from drained]
      refine .drained (UInt64.lt_iff_toNat_lt.mp short) enough rfl rfl left ?_ ?_ ?_ ?_
      · simp only [get_set_other _ _ (show Bucket.actPch ≠ .stk by decide),
          get_set_other _ _ (show Bucket.actPch ≠ .avl by decide), get_set_same]
      · simp only [get_set_other _ _ (show Bucket.avl ≠ .stk by decide), get_set_same]
      · simp only [get_set_same]
      · intro bucket notAct notAvl notStk
        simp only [get_set_other _ _ notStk, get_set_other _ _ notAvl, get_set_other _ _ notAct]
    · rw [show volume.creationFroze wanted = _ from frozeFrom_covered covered]
      exact .covered (UInt64.le_iff_toNat_le.mp covered) rfl rfl rfl rfl
  · have refused := @frozeFrom_refused .actPch .etfRdp volume wanted (by decide) (by decide) (by omega)
    have short : (volume.get .actPch).unFrozeVolume < wanted := by
      have beyond : loose volume .actPch < wanted.toNat := by omega
      exact UInt64.lt_iff_toNat_lt.mpr beyond
    rw [putBack_eq] at refused
    rw [show volume.creationFroze wanted = _ from refused]
    refine .refused (by omega) rfl rfl rfl ?_ ?_ ?_ ?_
    · simp only [get_set_other _ _ (show Bucket.actPch ≠ .etfRdp by decide), get_set_same]
    · simp only [get_set_other _ _ (show Bucket.avl ≠ .etfRdp by decide),
        get_set_other _ _ (show Bucket.avl ≠ .actPch by decide)]
    · simp only [get_set_other _ _ (show Bucket.stk ≠ .etfRdp by decide),
        get_set_other _ _ (show Bucket.stk ≠ .actPch by decide)]
    · intro nothing
      have zero : (volume.get .actPch).unFrozeVolume = 0 := UInt64.toNat_inj.mp nothing
      have drewNothing : (volume.get .actPch).actualFroze wanted = 0 := by
        rw [actualFroze_of_lt short, zero]
      have same : ((volume.get .actPch).froze wanted).volume = volume.get .actPch := by
        simp only [FrozeVolume.froze, drewNothing, UInt64.add_zero, UInt64.sub_zero]
      rw [same, zero, set_get, FrozeVolume.defroze_zero, set_get]

theorem drawn_act (part avl : UInt64) : drawn .actPch part avl .actPch = part.toNat := rfl

theorem drawn_avl (part avl : UInt64) : drawn .actPch part avl .avl = avl.toNat := rfl

theorem drawn_stk (part avl : UInt64) : drawn .actPch part avl .stk = part.toNat + avl.toNat := rfl

theorem tied_froze {drawn : Drawn} {bucket : Bucket}
    (wrote : drawn.volume.get bucket = ((volume.get bucket).froze amount).volume) :
    tied drawn.volume bucket ≤ tied volume bucket + ((volume.get bucket).actualFroze amount).toNat ∧
      (tied drawn.volume bucket = tied volume bucket + ((volume.get bucket).actualFroze amount).toNat ↔
        tied volume bucket + ((volume.get bucket).actualFroze amount).toNat < 2 ^ 64) := by
  unfold tied
  rw [wrote]
  exact ⟨froze_tied_le _ _, froze_tied_iff _ _⟩

theorem loose_froze {drawn : Drawn} {bucket : Bucket}
    (wrote : drawn.volume.get bucket = ((volume.get bucket).froze amount).volume) :
    loose drawn.volume bucket + ((volume.get bucket).actualFroze amount).toNat = loose volume bucket := by
  unfold loose
  rw [wrote]
  exact FrozeVolume.froze_unfrozen _ _

theorem actualFroze_bucket (volume : UserStockVolume) (bucket : Bucket) (amount : UInt64) :
    ((volume.get bucket).actualFroze amount).toNat = min (loose volume bucket) amount.toNat :=
  FrozeVolume.actualFroze_toNat ..

/-- What a whole freeze sets aside. -/
def taken (volume : UserStockVolume) (wanted : UInt64) : Nat := if free .actPch volume = 0 then 0 else wanted.toNat

theorem SetAside.refl (volume : UserStockVolume) : SetAside volume volume 0 := by
  constructor <;> simp

theorem froze_nothing {drawn : Drawn} (same : drawn.volume = volume) (first : drawn.first.toNat = 0)
    (avl : drawn.avl.toNat = 0) :
    SetAside volume drawn.volume 0 ∧ drawn.first.toNat + drawn.avl.toNat = 0 ∧
      ∀ bucket, tied drawn.volume bucket =
        tied volume bucket + Holdings.drawn .actPch drawn.first drawn.avl bucket := by
  rw [same, UInt64.toNat_inj.mp (first.trans UInt64.toNat_zero.symm),
    UInt64.toNat_inj.mp (avl.trans UInt64.toNat_zero.symm)]
  refine ⟨.refl volume, rfl, fun bucket => ?_⟩
  cases bucket <;> rfl

theorem creationFroze_sets (whole : Whole volume wanted) :
    SetAside volume (volume.creationFroze wanted).volume (taken volume wanted) ∧
      (volume.creationFroze wanted).first.toNat + (volume.creationFroze wanted).avl.toNat = taken volume wanted ∧
      ∀ bucket, tied (volume.creationFroze wanted).volume bucket = tied volume bucket +
        drawn .actPch (volume.creationFroze wanted).first (volume.creationFroze wanted).avl bucket := by
  have total : free .actPch volume = loose volume .actPch + loose volume .avl := rfl
  have actual := actualFroze_bucket volume
  unfold taken
  cases creationFroze_cases volume wanted with
  | covered enough _ first avl after =>
    have zero : wanted.toNat = 0 := by
      rcases whole with rfl | nothing | fits
      · rfl
      · omega
      · have beyond := fits.beyond
        omega
    have nothing : wanted = 0 := UInt64.toNat_inj.mp (zero.trans UInt64.toNat_zero.symm)
    rw [zero, ite_self]
    refine froze_nothing ?_ (by rw [first, zero]) (by rw [avl, UInt64.toNat_zero])
    rw [after, nothing, FrozeVolume.froze_zero, set_get]
  | drained short enough _ first avl act available stk rest =>
    have fits : Fits volume wanted.toNat := by
      rcases whole with rfl | nothing | fits
      · exact absurd short (by simp)
      · omega
      · exact fits
    have some : free .actPch volume ≠ 0 := by omega
    have leastAct := actual .actPch wanted
    have leastAvl := actual .avl (volume.creationFroze wanted).avl
    have leastStk := actual .stk wanted
    obtain ⟨-, -, room, actRoom, avlRoom, stkRoom⟩ := fits
    have actTied := (tied_froze act).2.mpr (by omega)
    have avlTied := (tied_froze available).2.mpr (by omega)
    have stkTied := (tied_froze stk).2.mpr (by omega)
    have actLoose := loose_froze act
    have avlLoose := loose_froze available
    have stkLoose := loose_froze stk
    rw [if_neg some]
    refine ⟨⟨⟨?_, ?_⟩, ⟨?_, ?_⟩, ?_, ?_⟩, ?_, fun bucket => ?_⟩
    any_goals omega
    cases bucket with
    | actPch =>
      rw [drawn_act]
      omega
    | avl =>
      rw [drawn_avl]
      omega
    | stk =>
      rw [drawn_stk]
      omega
    | _ =>
      unfold tied
      rw [rest _ (by decide) (by decide) (by decide)]
      rfl
  | refused short _ first avl _ _ _ same =>
    have nothing : free .actPch volume = 0 := by
      rcases whole with rfl | nothing | fits
      · exact absurd short (by simp)
      · exact nothing
      · have covered := fits.covered
        omega
    rw [if_pos nothing]
    exact froze_nothing (same (by omega)) (by omega) (by omega)

theorem SetAside.trans {before now after : UserStockVolume} {one two : Nat} (first : SetAside before now one)
    (second : SetAside now after two) : SetAside before after (one + two) := by
  refine ⟨?_, ?_, ?_⟩
  · have act := first.act
    have actNext := second.act
    omega
  · have act := first.act
    have avl := first.avl
    have avlNext := second.avl
    omega
  · have stk := first.stk
    have stkNext := second.stk
    omega

theorem SetAside.free {before now : UserStockVolume} {amount : Nat} (set : SetAside before now amount) :
    VolumeFreeze.free .actPch now + amount = VolumeFreeze.free .actPch before := by
  obtain ⟨⟨actLoose, -⟩, ⟨avlLoose, -⟩, -⟩ := set
  show loose now .actPch + loose now .avl + amount = loose before .actPch + loose before .avl
  omega

end Volumes

section Conditions

variable {quot : StaticQuot} {times : UInt64} {component : SzEtfComponent}

/-- What is wanted of a component, as a number and as the word the code works it out to. -/
def required (times : UInt64) (component : SzEtfComponent) : Nat := times.toNat * component.componentShare.toNat

def wanted (times : UInt64) (component : SzEtfComponent) : UInt64 := times * component.componentShare

/-- What components that are not paid in cash alone want of a security. -/
def demand (times : UInt64) (components : List SzEtfComponent) (stockID : String) : Nat :=
  (components.map fun component =>
    if component.underlyingSecurityID = stockID ∧ component.substituteFlag ≠ onlyCash then
      (wanted times component).toNat else 0).sum

/-- The earlier components, up to one of them, want exactly what is there of a security. -/
def Exhausted (times : UInt64) (volume : UserStockVolume) (earlier : List SzEtfComponent) (stockID : String) : Prop :=
  ∃ done, done <+: earlier ∧ demand times done stockID = free .actPch volume

/-- The cash a share is worth in a creation. -/
def unitCash (zrsp : UInt64) (premiumRatio : Rat) : Nat := ((zrsp.toNat : Rat) * (1 + premiumRatio)).floor.toNat

/-- So many shares are all that is wanted, or the rest has a price and its cash fits a word. -/
def Payable (quot : StaticQuot) (times : UInt64) (component : SzEtfComponent) (shares : Nat) : Prop :=
  shares = required times component ∨ ∃ zrsp tpbz, quot component.underlyingSecurityID = some (zrsp, tpbz) ∧
    (required times component - shares) * unitCash zrsp component.premiumRatio < 2 ^ 64

/-- A component after others, drawn from a holding as it was before any of them: it wants
nothing, or nothing is left, or it goes beyond the bought shares and is there in full; and
where cash may stand in for what it does not get, it can. -/
structure Sound (quot : StaticQuot) (times : UInt64) (volume : UserStockVolume) (earlier : List SzEtfComponent)
    (component : SzEtfComponent) : Prop where
  drawn : wanted times component = 0 ∨ Exhausted times volume earlier component.underlyingSecurityID ∨
    Fits volume (demand times earlier component.underlyingSecurityID + (wanted times component).toNat)
  paid : component.substituteFlag = securityAndCash →
    (Exhausted times volume earlier component.underlyingSecurityID → Payable quot times component 0) ∧
    (¬ Exhausted times volume earlier component.underlyingSecurityID →
      Payable quot times component (wanted times component).toNat)

theorem demand_snoc (earlier : List SzEtfComponent) (component : SzEtfComponent) (stockID : String) :
    demand times (earlier ++ [component]) stockID = demand times earlier stockID +
      if component.underlyingSecurityID = stockID ∧ component.substituteFlag ≠ onlyCash then
        (wanted times component).toNat else 0 := by
  simp [demand]

theorem demand_begins {done earlier : List SzEtfComponent} (begins : done <+: earlier) (stockID : String) :
    demand times done stockID ≤ demand times earlier stockID := by
  obtain ⟨rest, rfl⟩ := begins
  simp [demand]

theorem Exhausted.snoc {volume : UserStockVolume} {earlier : List SzEtfComponent} {stockID : String}
    (exhausted : Exhausted times volume earlier stockID) (component : SzEtfComponent) :
    Exhausted times volume (earlier ++ [component]) stockID := by
  obtain ⟨done, begins, all⟩ := exhausted
  exact ⟨done, begins.trans (List.prefix_append ..), all⟩

/-- A holding after earlier components, each of them whole: what they wanted has been set
aside, or all there was. -/
structure Stand (times : UInt64) (before : UserStockVolume) (earlier : List SzEtfComponent) (stockID : String)
    (now : UserStockVolume) (amount : Nat) : Prop where
  set : SetAside before now amount
  beyond : amount = 0 ∨ loose before .actPch < amount
  share : amount = demand times earlier stockID ∨
    amount = free .actPch before ∧ Exhausted times before earlier stockID

variable {before now : UserStockVolume} {earlier : List SzEtfComponent} {stockID : String} {amount : Nat}

theorem Stand.exhausted_iff (stand : Stand times before earlier stockID now amount) :
    Exhausted times before earlier stockID ↔ free .actPch now = 0 := by
  have left := stand.set.free
  constructor
  · rintro ⟨done, begins, all⟩
    have most := @demand_begins times done earlier begins stockID
    rcases stand.share with whole | ⟨everything, -⟩ <;> omega
  · intro nothing
    rcases stand.share with whole | ⟨-, exhausted⟩
    · exact ⟨earlier, List.prefix_refl _, by omega⟩
    · exact exhausted

/-- A component is whole where it stands exactly when it is drawn soundly after the others. -/
theorem Stand.whole_iff (stand : Stand times before earlier component.underlyingSecurityID now amount) :
    Whole now (wanted times component) ↔
      (wanted times component = 0 ∨ Exhausted times before earlier component.underlyingSecurityID ∨
        Fits before (demand times earlier component.underlyingSecurityID + (wanted times component).toNat)) := by
  have left := stand.set.free
  have counts : free .actPch now = loose now .actPch + loose now .avl := rfl
  have before_counts : free .actPch before = loose before .actPch + loose before .avl := rfl
  unfold Whole
  rw [stand.exhausted_iff]
  apply or_congr_right'
  intro some
  apply or_congr_right'
  intro anything
  have positive : 0 < (wanted times component).toNat := by
    rcases Nat.eq_zero_or_pos (wanted times component).toNat with zero | positive
    · exact absurd (UInt64.toNat_inj.mp (zero.trans UInt64.toNat_zero.symm)) some
    · exact positive
  have all : amount = demand times earlier component.underlyingSecurityID := by
    rcases stand.share with whole | ⟨everything, -⟩
    · exact whole
    · omega
  have further := stand.beyond
  obtain ⟨⟨actLoose, actTied⟩, ⟨avlLoose, avlTied⟩, stkLoose, stkTied⟩ := stand.set
  rw [← all]
  constructor
  · rintro ⟨beyond, covered, total, act, avl, stk⟩
    constructor <;> omega
  · rintro ⟨beyond, covered, total, act, avl, stk⟩
    constructor <;> omega

theorem Stand.sound_iff (stand : Stand times before earlier component.underlyingSecurityID now amount) :
    Sound quot times before earlier component ↔ Whole now (wanted times component) ∧
      (component.substituteFlag = securityAndCash →
        Payable quot times component (taken now (wanted times component))) := by
  have exhausts := stand.exhausted_iff
  rw [stand.whole_iff]
  unfold taken
  constructor
  · rintro ⟨drawn, paid⟩
    refine ⟨drawn, fun may => ?_⟩
    split
    next nothing => exact (paid may).1 (exhausts.mpr nothing)
    next some => exact (paid may).2 (fun exhausted => some (exhausts.mp exhausted))
  · rintro ⟨drawn, payable⟩
    refine ⟨drawn, fun may => ⟨fun exhausted => ?_, fun left => ?_⟩⟩
    · have paid := payable may
      rwa [if_pos (exhausts.mp exhausted)] at paid
    · have paid := payable may
      rwa [if_neg (fun nothing => left (exhausts.mpr nothing))] at paid

theorem Stand.next {after : UserStockVolume}
    (stand : Stand times before earlier component.underlyingSecurityID now amount)
    (shares : component.substituteFlag ≠ onlyCash) (whole : Whole now (wanted times component))
    (set : SetAside now after (taken now (wanted times component))) :
    Stand times before (earlier ++ [component]) component.underlyingSecurityID after
      (amount + taken now (wanted times component)) := by
  have left := stand.set.free
  have counts : free .actPch now = loose now .actPch + loose now .avl := rfl
  have exhausts := stand.exhausted_iff
  refine ⟨stand.set.trans set, ?_, ?_⟩
  · rcases stand.beyond with rfl | beyond
    · obtain ⟨⟨actLoose, -⟩, -⟩ := stand.set
      unfold taken
      rcases whole with zero | nothing | fits
      · simp [zero]
      · simp [nothing]
      · have further := fits.beyond
        have covered := fits.covered
        rw [if_neg (by omega)]
        omega
    · omega
  · rw [demand_snoc, if_pos ⟨rfl, shares⟩]
    unfold taken
    by_cases nothing : free .actPch now = 0
    · rw [if_pos nothing]
      exact .inr ⟨by omega, (exhausts.mpr nothing).snoc component⟩
    · rw [if_neg nothing]
      rcases stand.share with all | ⟨everything, -⟩
      · exact .inl (by omega)
      · omega

theorem Stand.other (stand : Stand times before earlier stockID now amount)
    (apart : ¬ (component.underlyingSecurityID = stockID ∧ component.substituteFlag ≠ onlyCash)) :
    Stand times before (earlier ++ [component]) stockID now amount := by
  refine ⟨stand.set, stand.beyond, ?_⟩
  rw [demand_snoc, if_neg apart, Nat.add_zero]
  exact stand.share.imp_right fun all => ⟨all.1, all.2.snoc component⟩

end Conditions

section Loop

variable {db : StockDb} {quot : StaticQuot} {account : String} {times : UInt64} {now : StockCache}
  {component : SzEtfComponent}

/-- The note of a component, where it can be made. -/
def noted (quot : StaticQuot) (times : UInt64) (component : SzEtfComponent) (drawn : Drawn) :
    Option EtfCrtFrozeComponent :=
  let note : EtfCrtFrozeComponent :=
    { securityID := component.underlyingSecurityID, actPchCount := drawn.first, avlCount := drawn.avl }
  if drawn.code ≠ 0 ∧ component.substituteFlag = securityAndCash then
    (quot component.underlyingSecurityID).map fun quote =>
      { note with
        cash := substituteCash (wanted times component - drawn.first - drawn.avl) quote.1 component.premiumRatio }
  else some note

theorem frozeComponent_cash (cash : component.substituteFlag = onlyCash) :
    frozeComponent db quot account times now component =
      some (now, some { securityID := component.underlyingSecurityID
                        cash := times * component.creationCashSubstitute }) := by
  simp only [frozeComponent, cash, if_true]

theorem frozeComponent_missing (shares : component.substituteFlag ≠ onlyCash)
    (missing : holding db now account component.underlyingSecurityID = none) :
    frozeComponent db quot account times now component = none := by
  have answers := (lookUp_eq db now account component.underlyingSecurityID).1
  rw [missing] at answers
  cases read : lookUp db now account component.underlyingSecurityID with
  | mk loaded answer =>
    rw [read] at answers
    subst answers
    simp only [frozeComponent, shares, if_false, read]

theorem frozeComponent_found (shares : component.substituteFlag ≠ onlyCash) {volume : UserStockVolume}
    (held : holding db now account component.underlyingSecurityID = some volume) :
    ∃ after, frozeComponent db quot account times now component =
        some (after, noted quot times component (volume.creationFroze (wanted times component))) ∧
      ∀ other, holding db after account other =
        if other = component.underlyingSecurityID then some (volume.creationFroze (wanted times component)).volume
        else holding db now account other := by
  obtain ⟨answers, same⟩ := lookUp_eq db now account component.underlyingSecurityID
  rw [held] at answers
  cases read : lookUp db now account component.underlyingSecurityID with
  | mk loaded answer =>
    rw [read] at answers same
    subst answers
    refine ⟨loaded.store account component.underlyingSecurityID
      (volume.creationFroze (wanted times component)).volume, ?_, ?_⟩
    · unfold frozeComponent noted wanted
      simp only [shares, if_false, read]
      split
      next => cases quot component.underlyingSecurityID <;> rfl
      next => rfl
    · intro other
      rw [holding_store]
      split
      next => rfl
      next => exact same other

/-- What a note alone gives up. -/
def given (note : EtfCrtFrozeComponent) (stockID : String) (bucket : Bucket) : Nat :=
  if stockID = note.securityID then drawn .actPch note.actPchCount note.avlCount bucket else 0

/-- Every security the account held before stands where the earlier components left it. -/
def Standing (db : StockDb) (account : String) (times : UInt64) (before : StockCache) (earlier : List SzEtfComponent)
    (now : StockCache) : Prop :=
  ∀ stockID volume, holding db before account stockID = some volume → ∃ held amount,
    holding db now account stockID = some held ∧ Stand times volume earlier stockID held amount

variable {before : StockCache} {earlier : List SzEtfComponent}

theorem Standing.start (same : ∀ stockID, holding db now account stockID = holding db before account stockID) :
    Standing db account times before [] now := by
  intro stockID volume held
  exact ⟨volume, 0, (same stockID).trans held, .refl volume, .inl rfl, .inl rfl⟩

theorem Standing.cash (standing : Standing db account times before earlier now)
    (cash : component.substituteFlag = onlyCash) : Standing db account times before (earlier ++ [component]) now := by
  intro stockID volume held
  obtain ⟨kept, amount, found, stand⟩ := standing stockID volume held
  exact ⟨kept, amount, found, stand.other fun both => both.2 cash⟩

theorem Standing.next {volume held : UserStockVolume} {amount : Nat} {after : StockCache}
    (standing : Standing db account times before earlier now) (shares : component.substituteFlag ≠ onlyCash)
    (known : holding db before account component.underlyingSecurityID = some volume)
    (stand : Stand times volume earlier component.underlyingSecurityID held amount)
    (whole : Whole held (wanted times component))
    (holdings : ∀ other, holding db after account other =
      if other = component.underlyingSecurityID then some (held.creationFroze (wanted times component)).volume
      else holding db now account other) :
    Standing db account times before (earlier ++ [component]) after := by
  intro stockID other found
  rw [holdings]
  by_cases here : stockID = component.underlyingSecurityID
  · subst here
    cases known.symm.trans found
    rw [if_pos rfl]
    exact ⟨_, _, rfl, stand.next shares whole (creationFroze_sets whole).1⟩
  · rw [if_neg here]
    obtain ⟨kept, amount, there, stands⟩ := standing stockID other found
    exact ⟨kept, amount, there, stands.other fun both => here both.1.symm⟩

theorem creationFroze_code (volume : UserStockVolume) (wanted : UInt64) :
    (volume.creationFroze wanted).code = if free .actPch volume < wanted.toNat then -1 else 0 :=
  frozeFrom_code (by decide) (by decide)

/-- Every component that is not paid in cash alone is sound after those before it. -/
def AllSound (db : StockDb) (quot : StaticQuot) (account : String) (times : UInt64) (before : StockCache)
    (earlier components : List SzEtfComponent) : Prop :=
  ∀ front component later, components = front ++ component :: later → component.substituteFlag ≠ onlyCash →
    ∀ volume, holding db before account component.underlyingSecurityID = some volume →
      Sound quot times volume (earlier ++ front) component

end Loop

/-- The unit is not zero, and where every component passes when it is asked for, each is
sound after those before it. -/
def Meets (db : StockDb) (quot : StaticQuot) (cache : StockCache) (account : String) (etfQty : UInt64) (etf : SzEtf) :
    Prop :=
  etf.creationRedemptionUnit ≠ 0 ∧
    ((queryComponents db quot account (creationTerms etf etfQty).times cache (creationTerms etf etfQty).maxCash
        etf.components).1 = 0 →
      AllSound db quot account (creationTerms etf etfQty).times cache [] etf.components)

end Simutgw.Proofs.CreationFreeze
