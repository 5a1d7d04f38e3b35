import Simutgw.MatchTask
import Simutgw.Proofs.Holdings
import Simutgw.Proofs.Preparation

/-! Creations and redemptions of a fund. The preparation freezes what the order
gives up and notes the amounts on the order; the match settles the notes in loops
of its own. The two agree exactly when the freezes were counted as they are noted
and nothing of the order is noted under the code the settlement leaves out. -/

namespace Simutgw.Proofs.EtfSettlement
open UserStockHelper UserStockVolume VolumeLedger Holdings Preparation QuoteMatching ABStockMatch OutMemoryManage PreTrade

/-- What the components' notes give up, by security and bucket. -/
def debit (components : List EtfCrtFrozeComponent) (stockID : String) (bucket : Bucket) : Nat :=
  (components.map fun component =>
    if stockID = component.securityID then drawn .actPch component.actPchCount component.avlCount bucket else 0).sum

/-- What the components' notes add. -/
def credit (components : List EtfCrtFrozeComponent) (stockID : String) (bucket : Bucket) : UInt64 :=
  (components.map fun component =>
    if stockID = component.securityID then added .etfRdp component.rdpCount bucket else 0).sum

/-- What an order has noted as frozen. -/
def owed (order : OrderMessage) (stockID : String) (bucket : Bucket) : Nat :=
  match order.tradeType with
  | .etfCrt => debit order.frozeComponents stockID bucket
  | .etfRdp =>
    if stockID = order.stockID then drawn .actPch order.rdpEtfCps.actPch order.rdpEtfCps.avl bucket else 0
  | _ => 0

/-- What a matched order is to receive: the fund's shares, or the components. -/
def due (order : OrderMessage) (stockID : String) (bucket : Bucket) : UInt64 :=
  match order.tradeType with
  | .etfCrt => if stockID = order.stockID then added .crt order.orderqtyMatched bucket else 0
  | .etfRdp => credit order.frozeComponents stockID bucket
  | _ => 0

section Components

variable {db : StockDb} {order : OrderMessage} {cache after : StockCache} {components : List EtfCrtFrozeComponent}

theorem debit_cons (component : EtfCrtFrozeComponent) (stockID : String) (bucket : Bucket) :
    debit (component :: components) stockID bucket =
      (if stockID = component.securityID then drawn .actPch component.actPchCount component.avlCount bucket else 0) +
        debit components stockID bucket := by
  simp [debit]

theorem credit_cons (component : EtfCrtFrozeComponent) (stockID : String) (bucket : Bucket) :
    credit (component :: components) stockID bucket =
      (if stockID = component.securityID then added .etfRdp component.rdpCount bucket else 0) +
        credit components stockID bucket := by
  simp [credit]

theorem confirmComponent_eq (checked : order.tradePolicy.checkAssets = true) {component : EtfCrtFrozeComponent}
    (settled : component.securityID ≠ cashSecurityID) :
    confirmComponent db order cache component =
      (recorded order (settleWith Kind.creation.confirm db cache order.accountId component.securityID
        component.actPchCount component.avlCount) component.securityID (synWith (dbSynTwo .actPch))).map
        UserStockHelper.Changed.cache := by
  simp only [confirmComponent, settled, if_false, checked, if_true]
  rfl

/-- Whatever the loop meets, it touches nothing unfrozen and nothing under the
code it leaves out, and in the normal mode it needs every other holding. -/
theorem confirmComponents_frame (checked : order.tradePolicy.checkAssets = true)
    (done : components.foldlM (confirmComponent db order) cache = some after) :
    (∀ stockID, (holding db after order.accountId stockID = none ↔ holding db cache order.accountId stockID = none) ∧
      ∀ bucket, unfrozen db order.accountId after stockID bucket = unfrozen db order.accountId cache stockID bucket) ∧
    (∀ bucket, frozen db order.accountId after cashSecurityID bucket =
      frozen db order.accountId cache cashSecurityID bucket) ∧
    (order.tradePolicy.runMode = .normalMode → ∀ component ∈ components, component.securityID ≠ cashSecurityID →
      holding db cache order.accountId component.securityID ≠ none) := by
  induction components generalizing cache with
  | nil =>
    cases done
    exact ⟨fun _ => ⟨Iff.rfl, fun _ => rfl⟩, fun _ => rfl, by simp⟩
  | cons component components ih =>
    rw [List.foldlM_cons] at done
    obtain ⟨next, round, rest⟩ := Option.bind_eq_some_iff.mp done
    obtain ⟨same, cash, needs⟩ := ih rest
    by_cases settled : component.securityID = cashSecurityID
    · simp only [confirmComponent, settled, if_true, Option.some.injEq] at round
      subst next
      refine ⟨same, cash, fun normal other member different => ?_⟩
      rcases List.mem_cons.mp member with rfl | member
      · exact absurd settled different
      · exact needs normal other member different
    · rw [confirmComponent_eq checked settled] at round
      obtain ⟨written, wrote, rfl⟩ := Option.map_eq_some_iff.mp round
      have frame := confirmed_frame wrote
      refine ⟨fun stockID => ⟨(same stockID).1.trans (frame stockID).1, fun bucket => ?_⟩, fun bucket => ?_, ?_⟩
      · rw [(same stockID).2, ((frame stockID).2 bucket).1]
      · rw [cash, ((frame cashSecurityID).2 bucket).2 (Ne.symm settled)]
      · intro normal other member different
        rcases List.mem_cons.mp member with rfl | member
        · exact confirmed_held wrote normal
        · exact fun missing => needs normal other member different ((frame other.securityID).1.mpr missing)

theorem confirmComponents_settle (checked : order.tradePolicy.checkAssets = true)
    (covers : ∀ stockID bucket, debit components stockID bucket ≤ frozen db order.accountId cache stockID bucket)
    (left : ∀ bucket, debit components cashSecurityID bucket = 0)
    (held : order.tradePolicy.runMode = .normalMode → ∀ component ∈ components,
      component.securityID ≠ cashSecurityID → holding db cache order.accountId component.securityID ≠ none) :
    ∃ after, components.foldlM (confirmComponent db order) cache = some after ∧
      ∀ stockID bucket, frozen db order.accountId after stockID bucket + debit components stockID bucket =
        frozen db order.accountId cache stockID bucket := by
  induction components generalizing cache with
  | nil => exact ⟨cache, rfl, fun _ _ => rfl⟩
  | cons component components ih =>
    simp only [debit_cons] at covers left ⊢
    have leftRest (bucket : Bucket) : debit components cashSecurityID bucket = 0 := by
      have := left bucket
      omega
    by_cases settled : component.securityID = cashSecurityID
    · have nothing (stockID : String) (bucket : Bucket) : (if stockID = component.securityID then
          drawn .actPch component.actPchCount component.avlCount bucket else 0) = 0 := by
        split
        next same =>
          have zero := left bucket
          rw [if_pos settled.symm] at zero
          omega
        next => rfl
      simp only [nothing, Nat.zero_add] at covers ⊢
      obtain ⟨after, done, counts⟩ := ih covers leftRest
        fun normal other member => held normal other (List.mem_cons_of_mem _ member)
      refine ⟨after, ?_, counts⟩
      rw [List.foldlM_cons]
      simp only [confirmComponent, settled, if_true]
      exact done
    · obtain ⟨written, wrote, counts⟩ := confirmed_settles order false .actPch component.securityID
        component.actPchCount component.avlCount (Kind.avl_ne_first .creation) (Kind.stk_ne_first .creation)
        (fun bucket => by
          have covered := covers component.securityID bucket
          rw [if_pos rfl] at covered
          exact Nat.le_trans (Nat.le_add_right _ _) covered)
        (fun normal => held normal component (List.mem_cons_self ..) settled)
      have frame := confirmed_frame wrote
      obtain ⟨after, done, rest⟩ := ih
        (fun stockID bucket => by
          have covered := covers stockID bucket
          have count := counts stockID bucket
          simp only [Kind.first] at count
          omega)
        leftRest
        (fun normal other member different missing =>
          held normal other (List.mem_cons_of_mem _ member) different ((frame other.securityID).1.mp missing))
      refine ⟨after, ?_, fun stockID bucket => ?_⟩
      · rw [List.foldlM_cons, confirmComponent_eq checked settled]
        exact Option.bind_eq_some_iff.mpr ⟨written.cache, Option.map_eq_some_iff.mpr ⟨written, wrote, rfl⟩, done⟩
      · have count := counts stockID bucket
        have later := rest stockID bucket
        simp only [Kind.first] at count
        omega

theorem addComponents_settle (db : StockDb) (components : List EtfCrtFrozeComponent)
    (checked : order.tradePolicy.checkAssets = true) (cache : StockCache) :
    ∃ after, components.foldlM (addComponent db order) cache = some after ∧
      ∀ stockID bucket, frozen db order.accountId after stockID bucket =
          frozen db order.accountId cache stockID bucket ∧
        unfrozen db order.accountId after stockID bucket = unfrozen db order.accountId cache stockID bucket +
          (if stockID = cashSecurityID then 0 else credit components stockID bucket) := by
  induction components generalizing cache with
  | nil =>
    refine ⟨cache, rfl, fun stockID bucket => ⟨rfl, ?_⟩⟩
    simp [credit]
  | cons component components ih =>
    by_cases settled : component.securityID = cashSecurityID
    · obtain ⟨after, done, counts⟩ := ih cache
      refine ⟨after, ?_, fun stockID bucket => ⟨(counts stockID bucket).1, ?_⟩⟩
      · rw [List.foldlM_cons]
        simp only [addComponent, settled, if_true]
        exact done
      · rw [(counts stockID bucket).2, credit_cons, settled]
        by_cases same : stockID = cashSecurityID
        · simp only [if_pos same]
        · simp only [if_neg same, UInt64.zero_add]
    · obtain ⟨written, wrote, first⟩ := added_settles db cache order component.securityID component.rdpCount .etfRdp
        (show Bucket.stk ≠ .etfRdp by decide)
      obtain ⟨after, done, counts⟩ := ih written.cache
      refine ⟨after, ?_, fun stockID bucket => ⟨?_, ?_⟩⟩
      · rw [List.foldlM_cons]
        simp only [addComponent, settled, if_false, checked, if_true]
        exact Option.bind_eq_some_iff.mpr ⟨written.cache, Option.map_eq_some_iff.mpr ⟨written, wrote, rfl⟩, done⟩
      · rw [(counts stockID bucket).1, (first stockID bucket).1]
      · rw [(counts stockID bucket).2, (first stockID bucket).2, credit_cons]
        by_cases same : stockID = cashSecurityID
        · rw [if_pos same, if_pos same, if_neg (fun other => settled (other.symm.trans same)), UInt64.add_zero]
        · simp only [if_neg same, UInt64.add_assoc]

end Components

/-- A match done right: every noted amount is taken from the frozen counts, the
receipts are added, and nothing of the order is frozen any longer. -/
structure Settled (db : StockDb) (before cache : StockCache) (order matched : OrderMessage) (after : StockCache) :
    Prop where
  debited : ∀ stockID bucket, frozen db order.accountId after stockID bucket + owed order stockID bucket =
    frozen db order.accountId cache stockID bucket
  credited : ∀ stockID bucket, unfrozen db order.accountId after stockID bucket =
    unfrozen db order.accountId cache stockID bucket + due matched stockID bucket
  released : ∀ stockID bucket, frozen db order.accountId after stockID bucket =
    frozen db order.accountId before stockID bucket

/-- Nothing is noted under the code the settlement leaves out. -/
def NothingLeftOut (order : OrderMessage) : Prop :=
  match order.tradeType with
  | .etfCrt => ∀ bucket, debit order.frozeComponents cashSecurityID bucket = 0
  | _ => ∀ bucket, credit order.frozeComponents cashSecurityID bucket = 0

/-- The holdings whose statements the settlement writes. -/
def settledCodes (order : OrderMessage) : List String :=
  match order.tradeType with
  | .etfCrt => (order.frozeComponents.map EtfCrtFrozeComponent.securityID).filter (· ≠ cashSecurityID)
  | _ => [order.stockID]

/-- What the match needs to find: the preparation's freezes counted as they are
noted, nothing noted under the code left out, and every holding it writes. -/
structure Ready (db : StockDb) (before cache : StockCache) (order : OrderMessage) : Prop where
  counted : ∀ stockID bucket, frozen db order.accountId before stockID bucket + owed order stockID bucket =
    frozen db order.accountId cache stockID bucket
  named : NothingLeftOut order
  held : order.tradePolicy.runMode = .normalMode → ∀ stockID ∈ settledCodes order,
    holding db cache order.accountId stockID ≠ none

section Matching

variable {db : StockDb} {before cache : StockCache} {order : OrderMessage}

theorem creation_settles_iff (type : order.tradeType = .etfCrt) (checked : order.tradePolicy.checkAssets = true) :
    (∃ updated, updateETFCrtRdp db cache order = some updated ∧
      Settled db before cache order order updated.cache) ↔ Ready db before cache order := by
  have noted (stockID : String) (bucket : Bucket) : owed order stockID bucket =
      debit order.frozeComponents stockID bucket := by simp only [owed, type]
  have receipts (stockID : String) (bucket : Bucket) : due order stockID bucket =
      if stockID = order.stockID then added .crt order.orderqtyMatched bucket else 0 := by simp only [due, type]
  have codes (stockID : String) : stockID ∈ settledCodes order ↔
      stockID ≠ cashSecurityID ∧ ∃ component ∈ order.frozeComponents, component.securityID = stockID := by
    simp only [settledCodes, type, List.mem_filter, List.mem_map, decide_not, Bool.not_eq_eq_eq_not, Bool.not_true,
      decide_eq_false_iff_not, ne_eq, and_comm]
  constructor
  · rintro ⟨updated, done, settled⟩
    simp only [updateETFCrtRdp, type, checked, if_true, Option.bind_eq_bind] at done
    obtain ⟨middle, loop, done⟩ := Option.bind_eq_some_iff.mp done
    obtain ⟨written, wrote, counts⟩ := added_settles db middle order order.stockID order.orderqtyMatched .crt
      (show Bucket.stk ≠ .crt by decide)
    obtain ⟨same, cash, needs⟩ := confirmComponents_frame checked loop
    have credited : recorded order (addCrt db middle order.accountId order.stockID order.orderqtyMatched)
        order.stockID crtEtfSyn = some written := wrote
    rw [credited, Option.bind_some, Option.some.injEq] at done
    subst updated
    refine ⟨fun stockID bucket => ?_, ?_, fun normal stockID member => ?_⟩
    · rw [← settled.released, settled.debited]
    · simp only [NothingLeftOut, type]
      intro bucket
      have debited := settled.debited cashSecurityID bucket
      simp only [(counts cashSecurityID bucket).1, cash bucket, noted] at debited
      omega
    · obtain ⟨different, component, listed, rfl⟩ := (codes stockID).mp member
      exact needs normal component listed different
  · rintro ⟨counted, named, held⟩
    simp only [NothingLeftOut, type] at named
    obtain ⟨middle, loop, debited⟩ := confirmComponents_settle checked
      (fun stockID bucket => by
        have count := counted stockID bucket
        rw [noted] at count
        omega)
      named
      (fun normal component listed different =>
        held normal component.securityID ((codes _).mpr ⟨different, component, listed, rfl⟩))
    obtain ⟨same, _, _⟩ := confirmComponents_frame checked loop
    obtain ⟨written, wrote, counts⟩ := added_settles db middle order order.stockID order.orderqtyMatched .crt
      (show Bucket.stk ≠ .crt by decide)
    have credited : recorded order (addCrt db middle order.accountId order.stockID order.orderqtyMatched)
        order.stockID crtEtfSyn = some written := wrote
    refine ⟨⟨0, order, written.cache⟩, ?_, ?_, ?_, ?_⟩
    · simp only [updateETFCrtRdp, type, checked, if_true, loop, credited, Option.bind_eq_bind, Option.bind_some]
    · intro stockID bucket
      rw [(counts stockID bucket).1, noted, debited]
    · intro stockID bucket
      rw [(counts stockID bucket).2, (same stockID).2, receipts]
    · intro stockID bucket
      have count := counted stockID bucket
      have settled := debited stockID bucket
      rw [(counts stockID bucket).1]
      rw [noted] at count
      omega

theorem redemption_settles_iff (type : order.tradeType = .etfRdp) (checked : order.tradePolicy.checkAssets = true) :
    (∃ updated, updateETFCrtRdp db cache order = some updated ∧
      Settled db before cache order order updated.cache) ↔ Ready db before cache order := by
  have noted (stockID : String) (bucket : Bucket) : owed order stockID bucket = if stockID = order.stockID then
      drawn .actPch order.rdpEtfCps.actPch order.rdpEtfCps.avl bucket else 0 := by simp only [owed, type]
  have receipts (stockID : String) (bucket : Bucket) : due order stockID bucket =
      credit order.frozeComponents stockID bucket := by simp only [due, type]
  have codes (stockID : String) : stockID ∈ settledCodes order ↔ stockID = order.stockID := by
    simp only [settledCodes, type, List.mem_singleton]
  constructor
  · rintro ⟨updated, done, settled⟩
    simp only [updateETFCrtRdp, type, checked, if_true, Option.bind_eq_bind] at done
    obtain ⟨middle, first, done⟩ := Option.bind_eq_some_iff.mp done
    obtain ⟨written, wrote, rfl⟩ := Option.map_eq_some_iff.mp first
    obtain ⟨after, loop, counts⟩ := addComponents_settle db order.frozeComponents checked written.cache
    rw [loop, Option.bind_some, Option.some.injEq] at done
    subst updated
    have frame := @confirmed_frame db cache order order.stockID .actPch .actPch false order.rdpEtfCps.actPch
      order.rdpEtfCps.avl _ wrote
    refine ⟨fun stockID bucket => ?_, ?_, fun normal stockID member => ?_⟩
    · rw [← settled.released, settled.debited]
    · simp only [NothingLeftOut, type]
      intro bucket
      have credited := settled.credited cashSecurityID bucket
      simp only [(counts cashSecurityID bucket).2, if_pos, ((frame cashSecurityID).2 bucket).1, receipts,
        UInt64.add_zero] at credited
      exact (UInt64.add_right_inj _).mp (credited.symm.trans (UInt64.add_zero _).symm)
    · rw [codes] at member
      subst member
      exact confirmed_held wrote normal
  · rintro ⟨counted, named, held⟩
    simp only [NothingLeftOut, type] at named
    obtain ⟨written, wrote, debited⟩ := confirmed_settles order false .actPch order.stockID order.rdpEtfCps.actPch
      order.rdpEtfCps.avl (Kind.avl_ne_first .redemption) (Kind.stk_ne_first .redemption)
      (fun bucket => by
        have count := counted order.stockID bucket
        rw [noted, if_pos rfl] at count
        simp only [Kind.first]
        omega)
      (fun normal => held normal order.stockID ((codes _).mpr rfl))
    have frame := @confirmed_frame db cache order order.stockID .actPch .actPch false order.rdpEtfCps.actPch
      order.rdpEtfCps.avl _ wrote
    obtain ⟨after, loop, counts⟩ := addComponents_settle db order.frozeComponents checked written.cache
    have confirmed : recorded order (redemptionConfirm db cache order.accountId order.stockID order.rdpEtfCps.actPch
        order.rdpEtfCps.avl) order.stockID rdpEtfSyn = some written := wrote
    refine ⟨⟨0, order, after⟩, ?_, ?_, ?_, ?_⟩
    · simp only [updateETFCrtRdp, type, checked, if_true, confirmed, Option.map_some, loop, Option.bind_eq_bind,
        Option.bind_some]
    · intro stockID bucket
      rw [(counts stockID bucket).1, noted]
      exact debited stockID bucket
    · intro stockID bucket
      rw [(counts stockID bucket).2, ((frame stockID).2 bucket).1, receipts]
      by_cases same : stockID = cashSecurityID
      · rw [if_pos same, same, named]
      · rw [if_neg same]
    · intro stockID bucket
      have count := counted stockID bucket
      have settled := debited stockID bucket
      rw [(counts stockID bucket).1]
      rw [noted] at count
      simp only [Kind.first] at settled
      omega

end Matching

/-- An order the two updates settle the same, but for what is written on the trade. -/
theorem updateAfterTrade_etf {db : StockDb} {cache : StockCache} {order : OrderMessage} (sz : order.isSz = true)
    (application : order.applID = "120") : updateAfterTrade db cache order = updateETFCrtRdp db cache order := by
  simp [updateAfterTrade, sz, application]

/-- Matching a prepared creation or redemption settles it exactly when the freezes
of its preparation were counted as they are noted, nothing is noted under the code
the settlement leaves out, and the holdings it writes exist. -/
theorem etf_match_settles_iff {env : Env} {order : OrderMessage} {cache : StockCache} {prepared : Prepared}
    (transId : String) (checked : order.tradePolicy.checkAssets = true) (sz : order.isSz = true)
    (application : order.applID = "120") (prep : tradePrep env order cache = some prepared)
    (etf : prepared.order.tradeType = .etfCrt ∨ prepared.order.tradeType = .etfRdp) :
    (∃ attempt, TaskEtfMatch.tradeMatch env.db prepared.cache prepared.order transId = some attempt ∧
      Settled env.db cache prepared.cache prepared.order attempt.order attempt.cache) ↔
    Ready env.db cache prepared.cache prepared.order := by
  have kept := tradePrep_kept prep
  obtain ⟨_, typed, _⟩ := getTradeType_eq order
  rw [typed] at kept
  let filled := withTransId (allFilled prepared.order prepared.order.orderPrice) transId
  have filledSz : filled.isSz = true := by
    rw [← sz]
    exact congrArg (· == tradeMarketSz) kept.tradeMarket
  have filledApplication : filled.applID = "120" := kept.applID.trans application
  have filledChecked : filled.tradePolicy.checkAssets = true := by
    rw [← checked]
    exact congrArg TradePolicyCell.checkAssets kept.tradePolicy
  have settles : (∃ updated, updateETFCrtRdp env.db prepared.cache filled = some updated ∧
      Settled env.db cache prepared.cache filled filled updated.cache) ↔ Ready env.db cache prepared.cache filled := by
    rcases etf with creation | redemption
    · exact creation_settles_iff creation filledChecked
    · exact redemption_settles_iff redemption filledChecked
  constructor
  · rintro ⟨attempt, done, settled⟩
    obtain ⟨updated, found, rfl⟩ := Option.map_eq_some_iff.mp done
    rw [updateAfterTrade_etf filledSz filledApplication] at found
    have same := updateETFCrtRdp_order found
    obtain ⟨counted, named, held⟩ := settles.mp ⟨updated, found,
      ⟨settled.debited, by have credited := settled.credited; rw [same] at credited; exact credited, settled.released⟩⟩
    exact ⟨counted, named, held⟩
  · rintro ⟨counted, named, held⟩
    obtain ⟨updated, found, settled⟩ := settles.mpr ⟨counted, named, held⟩
    have same := updateETFCrtRdp_order found
    rw [← updateAfterTrade_etf filledSz filledApplication] at found
    refine ⟨_, Option.map_eq_some_iff.mpr ⟨updated, found, rfl⟩, settled.debited, ?_, settled.released⟩
    simp only [same]
    exact settled.credited

/-- A Shenzhen creation of a fund of one basket. -/
def sampleCreation : OrderMessage where
  side := "D"
  msgType := Step.msgTypeNewOrder
  tradeMarket := tradeMarketSz
  applID := "120"
  accountId := "A1"
  stockID := "159901"
  orderqtyOrigin := 100
  leavesQty := 100
  tradePolicy := { runMode := .miniMode, checkAssets := true }

/-- Every account holds thirty shares of everything, ten of them bought; the fund's
basket is fifteen shares of one security. -/
def sampleMarket (component : String) : Env where
  db := fun _ _ => some ⟨30, 10, 0, 0, 0, 20, 0⟩
  quot := fun _ _ => none
  staticQuot := fun _ => none
  etfs := fun _ => some {
    creationRedemptionUnit := 100
    navPerCU := 0
    maxCashRatio := 0
    creation := true
    redemption := true
    components := [{
      underlyingSecurityID := component
      substituteFlag := onlySecurity
      componentShare := 15
      premiumRatio := 0
      creationCashSubstitute := 0
      redemptionCashSubstitute := 0 }] }

/-- What the account holds of the basket before and after the preparation. -/
def sampleLoaded : UserStockVolume := create true 30 10 0 0 0 20 0

def sampleHolding : UserStockVolume := (sampleLoaded.creationFroze 15).volume

theorem sample_ready {prepared : Prepared}
    (prep : tradePrep (sampleMarket "000001") sampleCreation (fun _ _ => none) = some prepared) :
    Ready (sampleMarket "000001").db (fun _ _ => none) prepared.cache prepared.order := by
  have stored : prepared.cache = (StockCache.store (fun _ _ => none) "A1" "000001" sampleLoaded).store
      "A1" "000001" sampleHolding := by
    cases prep
    rfl
  have noted : prepared.order.frozeComponents =
      [{ securityID := "000001", actPchCount := 10, avlCount := 5 }] := by
    cases prep
    rfl
  have creation : prepared.order.tradeType = .etfCrt := by
    cases prep
    rfl
  have account : prepared.order.accountId = "A1" := by
    cases prep
    rfl
  have owes (stockID : String) (bucket : Bucket) : owed prepared.order stockID bucket =
      if stockID = "000001" then drawn .actPch 10 5 bucket else 0 := by
    simp only [owed, creation, noted, debit, List.map_cons, List.map_nil, List.sum_cons, List.sum_nil, Nat.add_zero]
  refine ⟨fun stockID bucket => ?_, ?_, fun normal => ?_⟩
  · rw [owes, account, stored]
    by_cases same : stockID = "000001"
    · subst same
      cases bucket <;> rfl
    · rw [if_neg same]
      simp only [frozen, holding_store, if_neg same]
      rfl
  · simp only [NothingLeftOut, creation]
    intro bucket
    rw [noted]
    cases bucket <;> rfl
  · cases prep
    cases normal

theorem etf_match_settles_iff_sample : ∃ prepared attempt,
    tradePrep (sampleMarket "000001") sampleCreation (fun _ _ => none) = some prepared ∧
    TaskEtfMatch.tradeMatch (sampleMarket "000001").db prepared.cache prepared.order "000000000000001" = some attempt ∧
    Settled (sampleMarket "000001").db (fun _ _ => none) prepared.cache prepared.order attempt.order attempt.cache := by
  obtain ⟨prepared, prep⟩ : ∃ prepared, tradePrep (sampleMarket "000001") sampleCreation (fun _ _ => none) =
      some prepared := ⟨_, rfl⟩
  have creation : prepared.order.tradeType = .etfCrt := by
    cases prep
    rfl
  obtain ⟨attempt, done, settled⟩ := (etf_match_settles_iff "000000000000001" rfl rfl rfl prep (Or.inl creation)).mpr
    (sample_ready prep)
  exact ⟨prepared, attempt, prep, done, settled⟩

/-- Fifteen shares under the code the settlement leaves out stay frozen. -/
theorem left_out_component_stays_frozen :
    ¬ ∀ (env : Env) (order : OrderMessage) (cache : StockCache) (prepared : Prepared) (transId : String),
      order.tradePolicy.checkAssets = true → order.isSz = true → order.applID = "120" →
      tradePrep env order cache = some prepared → prepared.code = 0 →
      prepared.order.tradeType = .etfCrt ∨ prepared.order.tradeType = .etfRdp →
      ∃ attempt, TaskEtfMatch.tradeMatch env.db prepared.cache prepared.order transId = some attempt ∧
        Settled env.db cache prepared.cache prepared.order attempt.order attempt.cache := by
  intro always
  obtain ⟨attempt, done, settled⟩ := always (sampleMarket cashSecurityID) sampleCreation (fun _ _ => none) _
    "000000000000001" rfl rfl rfl rfl rfl (Or.inl rfl)
  cases done
  have debited := settled.debited cashSecurityID .avl
  revert debited
  decide

end Simutgw.Proofs.EtfSettlement
