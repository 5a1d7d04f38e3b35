import Simutgw.Logic.Runs
import Simutgw.ReportDesk
import Simutgw.Proofs.QuoteMatching
import Mathlib.Data.List.Forall2

/-! Reports over all interleavings of the task and the report side. A report is built
from the order as it stands then, so it is right as long as what was pushed is final:
no step of the run writes its trade again, and the numbers the report prints are the
ones the trade has written. -/

namespace Simutgw.Proofs.ReportDelivery
open Logic ABStockMatch ReportDesk OutMemoryManage SofString TgwStringUtil UserStockHelper
open QuoteMatching (Takes Refused Booked cancelsRemainder checkTPBZ_cases checkMaxGainAndMinFall_cases
  checkMatchMethod_cases updateAfterTrade_order updateAfterCancel_order withErrorCode_eq)

/-- The decimals the market of an order prints a price with. -/
def priceDecimals (order : OrderMessage) : Nat := if order.isSz then 4 else 3

/-- The fields say what was decided, and no text stands for nothing dealt. -/
structure Tells (decimals : Nat) (fields : ReportFields) (outcome : ABStockMatch.Outcome) : Prop where
  lastQty : fields.lastQty.getD "" = (outcome.dealt.map Prod.fst).getD ""
  lastPx : ∀ text, fields.lastPx = some text → text = (outcome.dealt.map (iLiToStr ·.2 decimals)).getD ""
  leavesQty : ∀ text, fields.leavesQty = some text → text = itostr outcome.leaves ++ ".00"
  cumQty : ∀ text, fields.cumQty = some text → text = itostr outcome.cumulated ++ ".00"

structure Carries (decimals : Nat) (report : Report) (outcome : ABStockMatch.Outcome) : Prop where
  matchType : report.matchType = outcome.matchType
  fields : ∀ fields, report.fields = some fields → Tells decimals fields outcome

/-- Every report carries the outcome of its place. -/
def Law (order : OrderMessage) (desk : Desk) : Prop :=
  ∀ (place : Nat) (report : Report), desk.reports[place]? = some report →
    ∃ outcome, desk.outcomes[place]? = some outcome ∧ Carries (priceDecimals order) report outcome

/-- The report of the order as it stands would carry the outcome. -/
structure Fits (sessions : String → Bool) (order : OrderMessage) (outcome : ABStockMatch.Outcome) : Prop where
  matchType : order.matchType = outcome.matchType
  fields : ∀ transId fields, (buildReport sessions order.matchType order transId).fields = some fields →
    Tells (priceDecimals order) fields outcome

section Building

variable {sessions : String → Bool} {order : OrderMessage} {outcome : ABStockMatch.Outcome}
  {fields : ReportFields}

theorem procMsgType8Report_fields (built : (StgwFixReport.procMsgType8Report order).fields = some fields) :
    fields = {
      lastQty := whenSet order.lastQty
      lastPx := whenSet order.lastPx
      leavesQty := some (itostr order.leavesQty ++ ".00")
      cumQty := some (itostr (order.orderqtyOrigin - order.leavesQty) ++ ".00") } := by
  unfold StgwFixReport.procMsgType8Report at built
  split at built
  · cases built
  simp only at built
  split at built <;> cases built
  unfold StgwFixReport.withRejReason
  split <;> rfl

theorem procMsgType9Report_fields (built : (StgwFixReport.procMsgType9Report order).fields = some fields) :
    fields = {} := by
  unfold StgwFixReport.procMsgType9Report at built
  split at built <;> cases built
  rfl

theorem whenSet_getD (text : String) : (whenSet text).getD "" = text := by
  unfold whenSet
  split
  next empty => exact (String.isEmpty_iff.mp empty).symm
  next => rfl

theorem of_whenSet {text found : String} (set : whenSet text = some found) : found = text := by
  unfold whenSet at set
  split at set <;> cases set
  rfl

/-- What the execution report prints is the order's. -/
structure Stands (order : OrderMessage) (outcome : ABStockMatch.Outcome) : Prop where
  lastQty : order.lastQty = (outcome.dealt.map Prod.fst).getD ""
  lastPx : order.lastPx = (outcome.dealt.map (iLiToStr ·.2 4)).getD ""
  leavesQty : order.leavesQty = outcome.leaves
  cumulated : order.orderqtyOrigin - order.leavesQty = outcome.cumulated

theorem Stands.tells (stands : Stands order outcome)
    (built : (StgwFixReport.procMsgType8Report order).fields = some fields) : Tells 4 fields outcome := by
  cases procMsgType8Report_fields built
  constructor
  · exact (whenSet_getD _).trans stands.lastQty
  · intro text set
    exact (of_whenSet set).trans stands.lastPx
  · intro text set
    cases set
    rw [stands.leavesQty]
  · intro text set
    cases set
    rw [stands.cumulated]

theorem fits_trade (type : order.matchType = outcome.matchType)
    (trade : order.matchType = .matchAll ∨ order.matchType = .matchPart) {quantity : String} {price : UInt64}
    (dealt : outcome.dealt = some (quantity, price)) (lastQty : order.lastQty = quantity)
    (lastPx : order.lastPx = iLiToStr price 4) (priced : order.priceMatched = price)
    (counts : order.isSz = true → order.leavesQty = outcome.leaves ∧
      order.orderqtyOrigin - order.leavesQty = outcome.cumulated) : Fits sessions order outcome := by
  refine ⟨type, ?_⟩
  intro transId fields built
  unfold buildReport at built
  cases sz : order.isSz with
  | true =>
    obtain ⟨leaves, cumulated⟩ := counts sz
    have stands : Stands (StgwFixReport.withIds order transId) outcome :=
      ⟨by rw [dealt]; exact lastQty, by rw [dealt]; exact lastPx, leaves, cumulated⟩
    have decimals : priceDecimals order = 4 := by rw [priceDecimals, sz]; rfl
    rw [decimals]
    rcases trade with all | part
    · simp only [sz, if_true, all, StgwFixReport.sendSZReport, StgwFixReport.procSingleReport] at built
      exact stands.tells built
    · simp only [sz, if_true, part, StgwFixReport.sendSZReport, StgwFixReport.procSingleReport] at built
      exact stands.tells built
  | false =>
    have row : (ReportMsgSh.procSingleReport sessions order transId).fields = some fields := by
      rcases trade with all | part
      · simpa only [sz, Bool.false_eq_true, if_false, all, ReportMsgSh.getSHReport] using built
      · simpa only [sz, Bool.false_eq_true, if_false, part, ReportMsgSh.getSHReport] using built
    have decimals : priceDecimals order = 3 := by rw [priceDecimals, sz]; rfl
    rw [decimals]
    unfold ReportMsgSh.procSingleReport ReportMsgSh.fixToSHReport at row
    split at row
    · split at row
      · cases row
      · cases row
        refine ⟨by rw [dealt]; exact lastQty, ?_, nofun, nofun⟩
        intro text set
        cases set
        rw [dealt, priced]
        rfl
    · cases row

theorem fixToSHConfirm_fields (built : (ReportMsgSh.fixToSHConfirm sessions order).fields = some fields) :
    (order.msgType = Step.msgTypeNewOrder ∨ order.msgType = Step.msgTypeCancelReject) ∧ fields = {} ∨
      ¬ (order.msgType = Step.msgTypeNewOrder ∨ order.msgType = Step.msgTypeCancelReject) ∧
        fields = { lastQty := some order.lastQty } := by
  unfold ReportMsgSh.fixToSHConfirm at built
  split at built
  · cases built
  split at built
  next silent =>
    cases built
    exact Or.inl ⟨silent, rfl⟩
  next speaks =>
    split at built <;> cases built
    exact Or.inr ⟨speaks, rfl⟩

/-- A cancel's report. Shanghai prints its quantity alone. -/
theorem fits_cancel (type : order.matchType = .cancelMatch) (outcomeType : outcome.matchType = .cancelMatch)
    (msgType : order.msgType = Step.msgTypeExecReport) (lastQty : order.lastQty = (outcome.dealt.map Prod.fst).getD "")
    (stands : order.isSz = true → Stands order outcome) : Fits sessions order outcome := by
  refine ⟨type.trans outcomeType.symm, ?_⟩
  intro transId fields built
  unfold buildReport at built
  cases sz : order.isSz with
  | true =>
    have decimals : priceDecimals order = 4 := by rw [priceDecimals, sz]; rfl
    rw [decimals]
    simp only [sz, if_true, type, msgType, StgwFixReport.sendSZReport, StgwFixReport.procSZCancelOrder] at built
    exact (stands sz).tells built
  | false =>
    simp only [sz, Bool.false_eq_true, if_false, type, ReportMsgSh.getSHReport, ReportMsgSh.procSHCancelOrder, msgType,
      true_or, and_self, if_true] at built
    rcases fixToSHConfirm_fields built with ⟨silent, rfl⟩ | ⟨_, rfl⟩
    · rw [msgType] at silent
      exact absurd silent (by decide)
    · exact ⟨lastQty, nofun, nofun, nofun⟩

theorem fits_confirm (type : order.matchType = .notMatch) (lastQty : order.lastQty = "") (lastPx : order.lastPx = "") :
    Fits sessions order (.untraded .notMatch order) := by
  refine ⟨type, ?_⟩
  intro transId fields built
  unfold buildReport at built
  cases sz : order.isSz with
  | true =>
    have decimals : priceDecimals order = 4 := by rw [priceDecimals, sz]; rfl
    rw [decimals]
    simp only [sz, if_true, type, StgwFixReport.sendSZReport, StgwFixReport.procSZConfirmOrder] at built
    have stands : Stands (StgwFixReport.withIds (StgwFixReport.confirmed order) transId) (.untraded .notMatch order) :=
      ⟨lastQty, lastPx, rfl, rfl⟩
    split at built
    · exact stands.tells built
    · cases built
  | false =>
    simp only [sz, Bool.false_eq_true, if_false, type, ReportMsgSh.getSHReport, ReportMsgSh.procSHConfirmOrder] at built
    split at built
    · rcases fixToSHConfirm_fields built with ⟨_, rfl⟩ | ⟨_, rfl⟩
      · exact ⟨rfl, nofun, nofun, nofun⟩
      · exact ⟨lastQty, nofun, nofun, nofun⟩
    · cases built

/-- A rejection's report. An order that was reported before is of the report's type
and gets none. -/
theorem fits_rejected (type : order.matchType = .errorMatch)
    (unreported : order.msgType ≠ Step.msgTypeExecReport → order.lastQty = "" ∧ order.lastPx = "") :
    Fits sessions order (.untraded .errorMatch order) := by
  refine ⟨type, ?_⟩
  intro transId fields built
  unfold buildReport at built
  cases sz : order.isSz with
  | true =>
    have decimals : priceDecimals order = 4 := by rw [priceDecimals, sz]; rfl
    rw [decimals]
    simp only [sz, if_true, type, StgwFixReport.sendSZReport, StgwFixReport.procSZErrorOrder] at built
    split at built
    next new =>
      obtain ⟨lastQty, lastPx⟩ := unreported (by rw [new]; decide)
      have stands : Stands (StgwFixReport.rejected order) (.untraded .errorMatch order) := ⟨lastQty, lastPx, rfl, rfl⟩
      exact stands.tells built
    split at built
    · cases procMsgType9Report_fields built
      exact ⟨rfl, nofun, nofun, nofun⟩
    · cases built
  | false =>
    simp only [sz, Bool.false_eq_true, if_false, type, ReportMsgSh.getSHReport, ReportMsgSh.procSHErrorOrder] at built
    split at built
    next new =>
      obtain ⟨lastQty, _⟩ := unreported (by rw [new]; decide)
      rcases fixToSHConfirm_fields built with ⟨_, rfl⟩ | ⟨_, rfl⟩
      · exact ⟨rfl, nofun, nofun, nofun⟩
      · exact ⟨lastQty, nofun, nofun, nofun⟩
    · cases built

end Building

/-- What every object of the order has in common with it, and that nothing is
printed on it before its first trade. -/
structure Regular (start order : OrderMessage) : Prop where
  market : order.tradeMarket = start.tradeMarket
  sender : order.senderCompID = start.senderCompID
  unreported : order.msgType ≠ Step.msgTypeExecReport → order.lastQty = "" ∧ order.lastPx = ""

/-- What a run may still do once its report is pushed. -/
def Trailing (work : List Op) : Prop := work = [] ∨ work = [.requeue] ∨ work = [.release]

def reserved (order : OrderMessage) (sellCps : SellCps) (sellEtfCps : SellEtfCps) : OrderMessage :=
  { order with sellCps, sellEtfCps }

/-- The steps left to a run are clean: each outcome is pushed before the next is
settled, as the order that carries it, and after the push nothing is written. -/
inductive Clean (sessions : String → Bool) : OrderMessage → Option ABStockMatch.Outcome → List Op → Prop
  | done (order : OrderMessage) : Clean sessions order none []
  | requeue (order : OrderMessage) : Clean sessions order none [.requeue]
  | settle {order : OrderMessage} {outcome : ABStockMatch.Outcome} {work : List Op}
      (rest : Clean sessions order (some outcome) work) : Clean sessions order none (.settle outcome :: work)
  | write {order : OrderMessage} {pending : Option ABStockMatch.Outcome} {change : OrderMessage → OrderMessage}
      {work : List Op} (keeps : ∀ start, Regular start order → Regular start (change order))
      (rest : Clean sessions (change order) pending work) : Clean sessions order pending (.write change :: work)
  | book {order : OrderMessage} {pending : Option ABStockMatch.Outcome} {work : List Op}
      (rest : ∀ sellCps sellEtfCps, Clean sessions (reserved order sellCps sellEtfCps) pending work) :
      Clean sessions order pending (.book :: work)
  | push {order : OrderMessage} {outcome : ABStockMatch.Outcome} {work : List Op}
      (fits : ∀ start, Regular start order → Fits sessions order outcome) (trailing : Trailing work) :
      Clean sessions order (some outcome) (.push :: work)

/-- When a run's reports are of its outcomes: a trade's write-back succeeds, it leaves
no remainder the matcher cancels, and in Shenzhen it does not complete an order whose
number of leaves it does not write. -/
def Faithful (round : Round) (order : OrderMessage) : Prop :=
  match order.tradePolicy.matchMode with
  | .enAbleQuta => ∀ quote, round.quote = some quote → Takes order quote →
      round.stored = true ∧ (quote.cjsl < order.leavesQty → cancelsRemainder order.delType = false) ∧
        (order.leavesQty ≤ quote.cjsl → order.isSz = true → order.leavesQty = 0)
  | .simulMatchAll => order.isSz = true → order.leavesQty = 0
  | _ => True

section Programs

variable {sessions : String → Bool} {round : Round} {order : OrderMessage} {quote : Quote}

/-- The order after a trade, with the numbers a report of it prints. -/
structure Trade (before after : OrderMessage) (matchType : MatchType) (quantity price : UInt64) : Prop where
  trades : matchType = .matchAll ∨ matchType = .matchPart
  type : after.matchType = matchType
  market : after.tradeMarket = before.tradeMarket
  sender : after.senderCompID = before.senderCompID
  msgType : after.msgType = Step.msgTypeExecReport
  lastQty : after.lastQty = itostr quantity
  lastPx : after.lastPx = iLiToStr price 4
  priced : after.priceMatched = price
  counts : after.isSz = true → after.leavesQty = before.leavesQty - quantity ∧
    after.orderqtyOrigin - after.leavesQty = before.orderqtyOrigin - (before.leavesQty - quantity)

namespace Trade

variable {before after : OrderMessage} {matchType : MatchType} {quantity price : UInt64}

theorem reserved (trade : Trade before after matchType quantity price) (sellCps : SellCps) (sellEtfCps : SellEtfCps) :
    Trade before (reserved after sellCps sellEtfCps) matchType quantity price :=
  { trade with }

theorem withTransId (trade : Trade before after matchType quantity price) (transId : String) :
    Trade before (withTransId after transId) matchType quantity price :=
  { trade with }

theorem keeps {middle : OrderMessage} (trade : Trade before after matchType quantity price)
    (market : middle.tradeMarket = before.tradeMarket) (sender : middle.senderCompID = before.senderCompID)
    (start : OrderMessage) (regular : Regular start middle) : Regular start after :=
  ⟨trade.market.trans (market.symm.trans regular.market), trade.sender.trans (sender.symm.trans regular.sender),
    fun other => absurd trade.msgType other⟩

theorem push (trade : Trade before after matchType quantity price) {work : List Op} (trailing : Trailing work) :
    Clean sessions after (some (.traded matchType before quantity price)) (.push :: work) :=
  .push (fun _ _ => fits_trade trade.type (by rw [trade.type]; exact trade.trades) rfl trade.lastQty trade.lastPx
    trade.priced trade.counts) trailing

end Trade

theorem trailing_requeue (requeue : Bool) : Trailing (if requeue then [Op.requeue] else []) := by
  cases requeue with
  | true => exact Or.inr (Or.inl rfl)
  | false => exact Or.inl rfl

/-- Every mode but the quote's: the trade is written, booked and pushed. -/
theorem simulatedOps_clean {change : OrderMessage → OrderMessage} {matchType : MatchType} {quantity price : UInt64}
    (trade : Trade order (change order) matchType quantity price) (requeue : Bool) :
    Clean sessions order none (simulatedOps (.traded matchType order quantity price) change requeue) := by
  apply Clean.settle
  refine .write (trade.keeps rfl rfl) ?_
  apply Clean.book
  intro sellCps sellEtfCps
  exact (trade.reserved sellCps sellEtfCps).push (trailing_requeue requeue)

theorem dividedFilled_trade {matchType : MatchType} (trades : matchType = .matchAll ∨ matchType = .matchPart)
    (matched : UInt64) : Trade order (dividedFilled order matchType matched) matchType matched order.orderPrice :=
  ⟨trades, rfl, rfl, rfl, rfl, rfl, rfl, rfl, fun _ => ⟨rfl, rfl⟩⟩

theorem dividedOps_clean {matchType : MatchType} (trades : matchType = .matchAll ∨ matchType = .matchPart)
    (matched : UInt64) : Clean sessions order none (dividedOps round order matchType matched) :=
  simulatedOps_clean ((dividedFilled_trade trades matched).withTransId round.transId) _

/-- A complete fill leaves the number of its leaves as it was. -/
theorem allFilled_trade (counted : order.isSz = true → order.leavesQty = 0) (price : UInt64) :
    Trade order (allFilled order price) .matchAll order.leavesQty price := by
  refine ⟨Or.inl rfl, rfl, rfl, rfl, rfl, rfl, rfl, rfl, ?_⟩
  intro sz
  have none := counted sz
  have rest : order.leavesQty - order.leavesQty = 0 := UInt64.sub_self _
  rw [rest]
  exact ⟨none, congrArg (order.orderqtyOrigin - ·) none⟩

theorem partFilled_trade (cjsl price : UInt64) :
    Trade order (partFilled order cjsl price) .matchPart cjsl price :=
  ⟨Or.inr rfl, rfl, rfl, rfl, rfl, rfl, rfl, rfl, fun _ => ⟨rfl, rfl⟩⟩

theorem simulMatchAllOps_clean (counted : order.isSz = true → order.leavesQty = 0) :
    Clean sessions order none (simulMatchAllOps round order) :=
  simulatedOps_clean ((allFilled_trade counted order.orderPrice).withTransId round.transId) false

theorem rejection_clean {after : OrderMessage} (type : after.matchType = .errorMatch)
    (leaves : after.leavesQty = order.leavesQty) (origin : after.orderqtyOrigin = order.orderqtyOrigin) :
    Clean sessions after none [.settle (.untraded .errorMatch order), .push] := by
  apply Clean.settle
  refine .push ?_ (Or.inl rfl)
  intro start regular
  have fits : Fits sessions after (.untraded .errorMatch after) := fits_rejected type regular.unreported
  unfold Outcome.untraded at fits ⊢
  rw [leaves, origin] at fits
  exact fits

theorem simulErrMatchOps_clean : Clean sessions order none (simulErrMatchOps order) := by
  unfold simulErrMatchOps
  split
  · obtain ⟨errorCode, wrote⟩ := withErrorCode_eq { order with
      matchType := .errorMatch, dataError := true, error := "模拟错误应答" } SzErrCode.c20001 ShErrCode.c215
    apply Clean.write
    · intro start regular
      rw [wrote]
      exact ⟨regular.market, regular.sender, regular.unreported⟩
    · rw [wrote]
      exact rejection_clean rfl rfl rfl
  · exact .requeue order

/-- Writes alone lead from one order to another. -/
inductive Writes : OrderMessage → List Op → OrderMessage → Prop
  | nil (order : OrderMessage) : Writes order [] order
  | cons {order after : OrderMessage} {change : OrderMessage → OrderMessage} {work : List Op}
      (keeps : ∀ start, Regular start order → Regular start (change order)) (rest : Writes (change order) work after) :
      Writes order (.write change :: work) after

theorem Writes.clean {before after : OrderMessage} {front back : List Op} (writes : Writes before front after)
    (rest : Clean sessions after none back) : Clean sessions before none (front ++ back) := by
  induction writes with
  | nil => exact rest
  | cons keeps _ ih => exact .write keeps (ih rest)

theorem Refused.keeps {before after : OrderMessage} (refusal : Refused before after) (start : OrderMessage)
    (regular : Regular start before) : Regular start after := by
  obtain ⟨_, _, _, _, rfl, _⟩ := refusal
  exact ⟨regular.market, regular.sender, regular.unreported⟩

theorem marked_keeps (matchType : MatchType) (start : OrderMessage) (regular : Regular start order) :
    Regular start (order.markedAs matchType) :=
  ⟨regular.market, regular.sender, regular.unreported⟩

/-- A matcher's steps on a quote it does not take are writes of the refusal. -/
structure Declines (order : OrderMessage) (steps : MatchType × List Op) : Prop where
  writes : ∃ after, Writes order steps.2 after ∧ Refused order after ∧ after.matchType = steps.1

theorem Declines.of_refused {change : OrderMessage → OrderMessage} {refused : OrderMessage}
    (wrote : change order = refused) (refusal : Refused order refused) :
    Declines order (refused.matchType, [.write change]) := by
  refine ⟨refused, .cons ?_ ?_, refusal, rfl⟩
  · intro start regular
    rw [wrote]
    exact Refused.keeps refusal start regular
  · rw [wrote]
    exact .nil refused

theorem Declines.marked {steps : MatchType × List Op} (declines : Declines (order.markedAs .notMatch) steps) :
    Declines order (Prod.map id (.write (·.markedAs .notMatch) :: ·) steps) := by
  obtain ⟨after, writes, refusal, type⟩ := declines
  exact ⟨after, .cons (marked_keeps .notMatch) writes, refusal.of_marked, type⟩

theorem matchWithOps_declines {limit : Bool} (remainderCancel : Bool) {cjsl cjje : UInt64}
    (refuses : ¬ QuoteMatching.TakesPrice limit order (cjje / cjsl)) :
    Declines order (matchWithOps limit remainderCancel round order cjsl cjje) := by
  obtain ⟨_, refused, found, refusal⟩ :=
    (checkMatchMethod_cases order cjsl cjje limit).resolve_left fun takes => refuses takes.1
  simp only [matchWithOps, found]
  exact .of_refused (by rw [found]) refusal

theorem matchWithOps_takes {limit : Bool} (remainderCancel : Bool) {cjsl cjje : UInt64}
    (takes : QuoteMatching.TakesPrice limit order (cjje / cjsl)) :
    matchWithOps limit remainderCancel round order cjsl cjje =
      (fillType remainderCancel order cjsl,
        fillOps remainderCancel round order cjsl cjje ++ [.book, .write (withTransId · round.transId)]) := by
  have method := ((checkMatchMethod_cases order cjsl cjje limit).resolve_right fun refuses => refuses.1 takes).2
  simp only [matchWithOps, method]

theorem quotMatchByMarketOps_declines (refuses : ¬ Takes order quote) :
    Declines order (quotMatchByMarketOps round order quote) := by
  unfold quotMatchByMarketOps
  apply Declines.marked
  rcases checkTPBZ_cases (order.markedAs .notMatch) quote.tpbz with ⟨trading, passed⟩ | ⟨_, refused, found, refusal⟩
  · simp only [passed]
    split
    next => exact ⟨_, .nil _, QuoteMatching.refused_refl _, rfl⟩
    next some =>
      rw [not_or] at some
      have beyond : ¬ ((QuoteMatching.limits order = true → QuoteMatching.WithinLimits order quote) ∧
          QuoteMatching.TakesPrice (QuoteMatching.limits order) order (quote.cjje / quote.cjsl)) :=
        fun ⟨within, price⟩ => refuses ⟨trading, some.1, some.2, within, price⟩
      have typed : (order.markedAs .notMatch).delType = order.delType := rfl
      simp only [typed]
      cases type : order.delType with
      | ordinaryLimit =>
        have limited : QuoteMatching.limits order = true := by simp [QuoteMatching.limits, type]
        rcases checkMaxGainAndMinFall_cases (order.markedAs .notMatch) quote with
          ⟨within, passed⟩ | ⟨_, refused, found, refusal⟩
        · simp only [passed]
          exact matchWithOps_declines false fun price => beyond ⟨fun _ => within, by rw [limited]; exact price⟩
        · simp only [found]
          exact Declines.of_refused (by rw [found]) (refusal.marked .outOfRange (by decide))
      | _ =>
        have market : QuoteMatching.limits order = false := by simp [QuoteMatching.limits, type]
        exact matchWithOps_declines _ fun price => beyond ⟨by simp [market], by rw [market]; exact price⟩
  · simp only [found]
    exact .of_refused (by rw [found]) refusal

theorem quotMatchByMarketOps_takes (takes : Takes order quote) :
    quotMatchByMarketOps round order quote =
      (fillType (cancelsRemainder order.delType) order quote.cjsl,
        .write (·.markedAs .notMatch) ::
          (fillOps (cancelsRemainder order.delType) round (order.markedAs .notMatch) quote.cjsl quote.cjje ++
            [.book, .write (withTransId · round.transId)])) := by
  obtain ⟨trading, volume, turnover, within, price⟩ := takes
  have tpbz := ((checkTPBZ_cases (order.markedAs .notMatch) quote.tpbz).resolve_right
    fun suspended => suspended.1 trading).2
  have typed : (order.markedAs .notMatch).delType = order.delType := rfl
  simp only [quotMatchByMarketOps, tpbz, volume, turnover, or_self, if_false, typed]
  cases type : order.delType with
  | ordinaryLimit =>
    have limited : QuoteMatching.limits order = true := by simp [QuoteMatching.limits, type]
    have range := ((checkMaxGainAndMinFall_cases (order.markedAs .notMatch) quote).resolve_right
      fun beyond => beyond.1 (within limited)).2
    have taken : QuoteMatching.TakesPrice true (order.markedAs .notMatch) (quote.cjje / quote.cjsl) := by
      rw [limited] at price
      exact price
    simp only [range, matchWithOps_takes false taken]
    rfl
  | _ =>
    have market : QuoteMatching.limits order = false := by simp [QuoteMatching.limits, type]
    have taken : QuoteMatching.TakesPrice false (order.markedAs .notMatch) (quote.cjje / quote.cjsl) := by
      rw [market] at price
      exact price
    simp only [matchWithOps_takes _ taken]
    rfl

theorem fill_clean {after : OrderMessage → OrderMessage} {matchType : MatchType} {quantity price : UInt64}
    (trade : Trade (order.markedAs .notMatch) (after (order.markedAs .notMatch)) matchType quantity price)
    {trailing : List Op} (trails : Trailing trailing) :
    Clean sessions order none
      (.write (·.markedAs .notMatch) :: .settle (.traded matchType (order.markedAs .notMatch) quantity price) ::
        .write after :: .book :: .write (withTransId · round.transId) :: .push :: trailing) := by
  refine .write (marked_keeps .notMatch) (.settle (.write (trade.keeps rfl rfl) (.book ?_)))
  intro sellCps sellEtfCps
  have booked := trade.reserved sellCps sellEtfCps
  exact .write (fun _ regular => ⟨regular.market, regular.sender, regular.unreported⟩)
    ((booked.withTransId round.transId).push trails)

theorem enableQuoMatchOps_clean (faithful : ∀ quote, round.quote = some quote → Takes order quote →
      round.stored = true ∧ (quote.cjsl < order.leavesQty → cancelsRemainder order.delType = false) ∧
        (order.leavesQty ≤ quote.cjsl → order.isSz = true → order.leavesQty = 0)) :
    Clean sessions order none (enableQuoMatchOps round order) := by
  unfold enableQuoMatchOps quotMatchOrderOps
  cases read : round.quote with
  | none => exact .write (marked_keeps .notMatch) (.requeue _)
  | some quote =>
    simp only
    by_cases takes : Takes order quote
    · obtain ⟨stored, whole, counted⟩ := faithful quote read takes
      rw [quotMatchByMarketOps_takes takes]
      by_cases short : quote.cjsl < order.leavesQty
      · have left : quote.cjsl < (order.markedAs .notMatch).leavesQty := short
        simp only [fillType, short, left, whole short, fillOps, stored, if_true, Bool.false_eq_true, if_false, ne_eq,
          reduceCtorEq, not_false_eq_true, not_true_eq_false, and_false, answerOps, List.append_nil, List.cons_append,
          List.nil_append]
        have trade : Trade (order.markedAs .notMatch)
            (partFilled (order.markedAs .notMatch) quote.cjsl (quote.cjje / quote.cjsl)) .matchPart quote.cjsl
            (quote.cjje / quote.cjsl) :=
          partFilled_trade _ _
        exact fill_clean trade (trailing_requeue _)
      · have left : ¬ quote.cjsl < (order.markedAs .notMatch).leavesQty := short
        simp only [fillType, short, left, fillOps, stored, if_true, if_false, ne_eq, reduceCtorEq, not_true_eq_false,
          false_and, answerOps, List.append_nil, List.cons_append, List.nil_append]
        have zero : (order.markedAs .notMatch).isSz = true → (order.markedAs .notMatch).leavesQty = 0 :=
          counted (UInt64.not_lt.mp short)
        exact fill_clean (allFilled_trade zero (quote.cjje / quote.cjsl)) (Or.inl rfl)
    · have declines : Declines order (quotMatchByMarketOps round order quote) := quotMatchByMarketOps_declines takes
      obtain ⟨after, writes, refusal, type⟩ := declines
      rw [← type]
      obtain ⟨matchType, _, _, _, rfl, notAll, notPart, notCancel⟩ := refusal
      simp only [ne_eq, notAll, not_false_eq_true, notPart, and_self, if_true]
      apply writes.clean
      unfold answerOps
      cases matchType with
      | matchAll => exact absurd rfl notAll
      | matchPart => exact absurd rfl notPart
      | cancelMatch => exact absurd rfl notCancel
      | notMatch => exact .requeue _
      | outOfRange | stopTrans | errorMatch =>
        exact .write (marked_keeps .errorMatch) (rejection_clean rfl rfl rfl)

theorem matchOrderOps_clean {work : List Op} (faithful : Faithful round order)
    (ops : matchOrderOps round order = some work) : Clean sessions order none work := by
  unfold matchOrderOps at ops
  unfold Faithful at faithful
  cases mode : order.tradePolicy.matchMode with
  | enAbleQuta =>
    simp only [mode] at ops faithful
    cases ops
    exact enableQuoMatchOps_clean faithful
  | simulMatchAll =>
    simp only [mode] at ops faithful
    cases ops
    exact simulMatchAllOps_clean faithful
  | simulMatchByDivide =>
    simp only [mode, simulMatchByDivideOps] at ops
    split at ops
    · cases ops
    split at ops <;> cases ops
    · exact dividedOps_clean (Or.inr rfl) _
    · exact dividedOps_clean (Or.inl rfl) _
  | simulNotMatch =>
    simp only [mode] at ops
    cases ops
    exact .requeue order
  | simulErrMatch =>
    simp only [mode] at ops
    cases ops
    exact simulErrMatchOps_clean
  | simulMatchPart =>
    simp only [mode, simulMatchPartOps] at ops
    cases ops
    split
    · exact .requeue order
    split
    · exact dividedOps_clean (Or.inl rfl) _
    · exact dividedOps_clean (Or.inr rfl) _

/-- A cancel by request leaves the number of the leaves as it was, which Shenzhen prints. -/
theorem cancelOps_clean (request : OrderMessage) (transId : String)
    (counted : order.isSz = true → order.leavesQty = 0 ∧ string2UInt64 order.strLeavesQty = 0) :
    Clean sessions order none (cancelOps request order transId) := by
  refine .settle (.write ?_ (.push ?_ (Or.inr (Or.inr rfl))))
  · intro start regular
    exact ⟨regular.market, regular.sender, fun other => absurd rfl other⟩
  · intro start regular
    refine fits_cancel rfl rfl rfl rfl ?_
    intro sz
    obtain ⟨leaves, unmatched⟩ := counted sz
    refine ⟨rfl, rfl, leaves, ?_⟩
    show string2UInt64 order.strOrderqtyOrigin - order.leavesQty =
      string2UInt64 order.strOrderqtyOrigin - string2UInt64 order.strLeavesQty
    rw [leaves, unmatched]

end Programs

/-- What was pushed and is not yet reported, in order. -/
def messages (desk : Desk) : List Nat := (desk.held.map Prod.fst).toList ++ desk.outgoing

/-- A run owns its order until it has pushed it. -/
inductive Working (sessions : String → Bool) (desk : Desk) : Option ABStockMatch.Outcome → Prop
  | running {pending : Option ABStockMatch.Outcome} (clean : Clean sessions desk.order pending desk.work)
      (own : desk.target ∉ messages desk) (inside : desk.target < desk.next) (taken : desk.queued = none) :
      Working sessions desk pending
  | pushed (trailing : Trailing desk.work) : Working sessions desk none

/-- The outcomes are those reported, those waiting as messages that fit, and the one
the run has not pushed yet. -/
def Aligned (sessions : String → Bool) (start : OrderMessage) (desk : Desk)
    (pending : Option ABStockMatch.Outcome) : Prop :=
  ∃ told waiting, desk.outcomes = told ++ waiting ++ pending.toList ∧
    List.Forall₂ (Carries (priceDecimals start)) desk.reports told ∧
    List.Forall₂ (fun address => Fits sessions (desk.heap address)) (messages desk) waiting

structure Sound (sessions : String → Bool) (start : OrderMessage) (desk : Desk) : Prop where
  regular : ∀ address, Regular start (desk.heap address)
  inside : ∀ address ∈ messages desk, address < desk.next
  distinct : (messages desk).Nodup
  queued : ∀ address, desk.queued = some address → address < desk.next ∧ address ∉ messages desk
  seen : ∀ address matchType, desk.held = some (address, matchType) → matchType = (desk.heap address).matchType
  working : ∃ pending, Working sessions desk pending ∧ (pushBack start = 0 → Aligned sessions start desk pending)
  silent : pushBack start ≠ 0 → messages desk = [] ∧ desk.reports = []

section Delivery

variable {setting : Setting} {start : OrderMessage} {desk after : Desk}

theorem Regular.pushBack_eq {order : OrderMessage} (regular : Regular start order) : pushBack order = pushBack start := by
  unfold pushBack OrderMessage.isSz OrderMessage.isSh
  rw [regular.market, regular.sender]

theorem Regular.priceDecimals_eq {order : OrderMessage} (regular : Regular start order) :
    priceDecimals order = priceDecimals start := by
  unfold priceDecimals OrderMessage.isSz
  rw [regular.market]

theorem update_regular {heap : Nat → OrderMessage} (regular : ∀ address, Regular start (heap address))
    {order : OrderMessage} (kept : Regular start order) (target address : Nat) :
    Regular start (Function.update heap target order address) := by
  by_cases same : address = target
  · rw [same, Function.update_self]
    exact kept
  · rw [Function.update_of_ne same]
    exact regular address

/-- Messages fit as long as their own objects are left alone. -/
theorem fits_frame {sessions : String → Bool} {before after : Nat → OrderMessage} {addresses : List Nat}
    {outcomes : List ABStockMatch.Outcome} (same : ∀ address ∈ addresses, after address = before address)
    (fits : List.Forall₂ (fun address => Fits sessions (before address)) addresses outcomes) :
    List.Forall₂ (fun address => Fits sessions (after address)) addresses outcomes := by
  induction fits with
  | nil => exact .nil
  | cons first _ ih =>
    refine .cons ?_ (ih fun address found => same address (List.mem_cons_of_mem _ found))
    rw [same _ List.mem_cons_self]
    exact first

theorem update_frame {addresses : List Nat} {target : Nat} (own : target ∉ addresses) (heap : Nat → OrderMessage)
    (order : OrderMessage) : ∀ address ∈ addresses, Function.update heap target order address = heap address := by
  intro address found
  apply Function.update_of_ne
  rintro rfl
  exact own found

theorem Sound.wrote (sound : Sound setting.sessions start desk) {pending : Option ABStockMatch.Outcome}
    (settled : Option ABStockMatch.Outcome) {work : List Op} (own : desk.target ∉ messages desk)
    (insideTarget : desk.target < desk.next) (taken : desk.queued = none)
    (aligned : pushBack start = 0 → Aligned setting.sessions start desk pending) {order : OrderMessage}
    (kept : Regular start order) (cache : StockCache)
    (clean : Clean setting.sessions order (pending.or settled) work) (first : pending = none ∨ settled = none) :
    Sound setting.sessions start
      { desk.writes desk.target order with work, cache, outcomes := desk.outcomes ++ settled.toList } := by
  have frame := update_frame own desk.heap order
  refine ⟨update_regular sound.regular kept desk.target, sound.inside, sound.distinct, sound.queued, ?_, ?_, sound.silent⟩
  · intro address matchType held
    rw [sound.seen address matchType held]
    refine congrArg _ (frame address ?_).symm
    unfold messages
    rw [show desk.held = some (address, matchType) from held]
    exact List.mem_append_left _ List.mem_cons_self
  · refine ⟨pending.or settled, .running ?_ own insideTarget taken, ?_⟩
    · unfold Desk.order Desk.writes
      simp only [Function.update_self]
      exact clean
    · intro delivers
      obtain ⟨told, waiting, outcomes, reported, fits⟩ := aligned delivers
      refine ⟨told, waiting, ?_, reported, fits_frame frame fits⟩
      simp only [outcomes]
      rcases first with rfl | rfl
      · simp
      · cases pending <;> simp

theorem messages_push (desk : Desk) (address : Nat) :
    messages { desk with outgoing := desk.outgoing ++ [address] } = messages desk ++ [address] := by
  unfold messages
  exact (List.append_assoc ..).symm

theorem Sound.pushed (sound : Sound setting.sessions start desk) {outcome : ABStockMatch.Outcome}
    (own : desk.target ∉ messages desk) (insideTarget : desk.target < desk.next) (taken : desk.queued = none)
    (aligned : pushBack start = 0 → Aligned setting.sessions start desk (some outcome))
    (fits : Fits setting.sessions desk.order outcome) {work : List Op} (trailing : Trailing work) (room : Bool)
    (done : perform setting { desk with work } room .push = some after) : Sound setting.sessions start after := by
  have code : pushBack desk.order = pushBack start := (sound.regular desk.target).pushBack_eq
  cases done
  by_cases delivers : pushBack start = 0
  · have accepted : pushBack (Desk.order { desk with work }) = 0 := code.trans delivers
    simp only [accepted, if_true]
    have list : messages { desk with work, outgoing := desk.outgoing ++ [desk.target] } =
        messages desk ++ [desk.target] :=
      messages_push desk desk.target
    refine ⟨sound.regular, ?_, ?_, ?_, sound.seen, ⟨none, .pushed trailing, ?_⟩, fun refused => absurd delivers refused⟩
    · intro address found
      rw [list] at found
      rcases List.mem_append.mp found with old | new
      · exact sound.inside address old
      · rw [List.mem_singleton.mp new]
        exact insideTarget
    · rw [list]
      refine List.nodup_append.mpr ⟨sound.distinct, List.pairwise_singleton .., ?_⟩
      intro address old other new
      rw [List.mem_singleton.mp new]
      rintro rfl
      exact own old
    · intro address queued
      exact absurd (taken.symm.trans queued) (by simp)
    · intro _
      obtain ⟨told, waiting, outcomes, reported, waits⟩ := aligned delivers
      refine ⟨told, waiting ++ [outcome], ?_, reported, ?_⟩
      · simp only [outcomes, Option.toList_some, Option.toList_none, List.append_nil, List.append_assoc]
      · rw [list]
        exact List.rel_append waits (.cons fits .nil)
  · have refused : pushBack (Desk.order { desk with work }) ≠ 0 := by
      rw [show pushBack (Desk.order { desk with work }) = pushBack start from code]
      exact delivers
    simp only [refused, if_false]
    exact ⟨sound.regular, sound.inside, sound.distinct, sound.queued, sound.seen,
      ⟨none, .pushed trailing, fun accepted => absurd accepted delivers⟩, sound.silent⟩

/-- The requeue copies the order and shares nothing. -/
theorem Sound.requeued (sound : Sound setting.sessions start desk) (room : Bool)
    (aligned : pushBack start = 0 → Aligned setting.sessions start desk none)
    (done : perform setting { desk with work := [] } room .requeue = some after) :
    Sound setting.sessions start after := by
  cases done
  cases room with
  | false =>
    exact ⟨sound.regular, sound.inside, sound.distinct, sound.queued, sound.seen,
      ⟨none, .pushed (Or.inl rfl), aligned⟩, sound.silent⟩
  | true =>
    have fresh : desk.next ∉ messages desk := fun found => absurd (sound.inside _ found) (Nat.lt_irrefl _)
    have frame := update_frame fresh desk.heap desk.order
    refine ⟨update_regular sound.regular (sound.regular desk.target) desk.next, ?_, sound.distinct, ?_, ?_,
      ⟨none, .pushed (Or.inl rfl), ?_⟩, sound.silent⟩
    · intro address found
      exact Nat.lt_succ_of_lt (sound.inside address found)
    · intro address queued
      cases queued
      exact ⟨Nat.lt_succ_self _, fresh⟩
    · intro address matchType held
      rw [sound.seen address matchType held]
      refine congrArg _ (frame address ?_).symm
      unfold messages
      rw [show desk.held = some (address, matchType) from held]
      exact List.mem_append_left _ List.mem_cons_self
    · intro delivers
      obtain ⟨told, waiting, outcomes, reported, fits⟩ := aligned delivers
      exact ⟨told, waiting, outcomes, reported, fits_frame frame fits⟩

theorem released_order {cache : StockCache} {order : OrderMessage} {updated : Updated}
    (done : TaskCancelOrder.released cache order = some updated) : updated.order = order := by
  unfold TaskCancelOrder.released at done
  split at done
  · exact updateAfterCancel_order done
  · cases done
    rfl

theorem Sound.released (sound : Sound setting.sessions start desk) (room : Bool)
    (aligned : pushBack start = 0 → Aligned setting.sessions start desk none)
    (done : perform setting { desk with work := [] } room .release = some after) :
    Sound setting.sessions start after := by
  obtain ⟨updated, released, rfl⟩ := Option.map_eq_some_iff.mp done
  have same : updated.order = desk.heap desk.target := released_order released
  have heap : Function.update desk.heap desk.target updated.order = desk.heap := by
    rw [same]
    exact Function.update_eq_self ..
  unfold Desk.writes
  simp only [heap]
  exact ⟨sound.regular, sound.inside, sound.distinct, sound.queued, sound.seen,
    ⟨none, .pushed (Or.inl rfl), aligned⟩, sound.silent⟩

theorem op_sound (sound : Sound setting.sessions start desk) {op : Op} {work : List Op} (ops : desk.work = op :: work)
    (room : Bool) (done : perform setting { desk with work } room op = some after) :
    Sound setting.sessions start after := by
  obtain ⟨pending, working, aligned⟩ := sound.working
  cases working with
  | running clean own inside taken =>
    rw [ops] at clean
    cases clean with
    | requeue => exact sound.requeued room aligned done
    | @settle _ outcome _ rest =>
      cases done
      have kept := sound.regular desk.target
      have wrote := sound.wrote (some outcome) own inside taken aligned kept desk.cache rest (Or.inl rfl)
      unfold Desk.writes at wrote
      rw [Function.update_eq_self] at wrote
      exact wrote
    | write keeps rest =>
      cases done
      have wrote := sound.wrote none own inside taken aligned (keeps start (sound.regular desk.target)) desk.cache
        (by rw [Option.or_none]; exact rest) (Or.inr rfl)
      simp only [Option.toList_none, List.append_nil] at wrote
      exact wrote
    | book rest =>
      obtain ⟨updated, booked, rfl⟩ := Option.map_eq_some_iff.mp done
      obtain ⟨sellCps, sellEtfCps, order⟩ := updateAfterTrade_order booked
      have kept : Regular start updated.order := by
        have before := sound.regular desk.target
        rw [order]
        exact ⟨before.market, before.sender, before.unreported⟩
      have wrote := sound.wrote none own inside taken aligned kept updated.cache
        (by rw [Option.or_none, order]; exact rest sellCps sellEtfCps) (Or.inr rfl)
      simp only [Option.toList_none, List.append_nil] at wrote
      exact wrote
    | push fits trailing =>
      exact sound.pushed own inside taken aligned (fits start (sound.regular desk.target)) trailing room done
  | pushed trailing =>
    rw [ops] at trailing
    rcases trailing with none | one | one
    · cases none
    · cases one
      exact sound.requeued room aligned done
    · cases one
      exact sound.released room aligned done

/-- What building a report leaves on the order. -/
structure Touched (before after : OrderMessage) : Prop where
  market : after.tradeMarket = before.tradeMarket
  sender : after.senderCompID = before.senderCompID
  lastQty : after.lastQty = before.lastQty
  lastPx : after.lastPx = before.lastPx
  msgType : before.msgType = Step.msgTypeExecReport → after.msgType = Step.msgTypeExecReport

theorem Touched.refl (order : OrderMessage) : Touched order order := ⟨rfl, rfl, rfl, rfl, id⟩

theorem Touched.trans {before between after : OrderMessage} (first : Touched before between)
    (last : Touched between after) : Touched before after :=
  ⟨last.market.trans first.market, last.sender.trans first.sender, last.lastQty.trans first.lastQty,
    last.lastPx.trans first.lastPx, fun report => last.msgType (first.msgType report)⟩

theorem Touched.regular {before after : OrderMessage} (touched : Touched before after)
    (regular : Regular start before) : Regular start after := by
  refine ⟨touched.market.trans regular.market, touched.sender.trans regular.sender, ?_⟩
  intro other
  rw [touched.lastQty, touched.lastPx]
  exact regular.unreported fun report => other (touched.msgType report)

theorem procMsgType8Report_touched (order : OrderMessage) :
    Touched order (StgwFixReport.procMsgType8Report order).order := by
  have reason : Touched order (StgwFixReport.withRejReason order) := by
    unfold StgwFixReport.withRejReason
    split
    · exact ⟨rfl, rfl, rfl, rfl, id⟩
    · exact .refl order
  unfold StgwFixReport.procMsgType8Report
  split
  · exact .refl order
  simp only
  split <;> exact reason

theorem procMsgType9Report_touched (order : OrderMessage) :
    Touched order (StgwFixReport.procMsgType9Report order).order := by
  unfold StgwFixReport.procMsgType9Report
  split <;> exact .refl order

theorem withIds_touched (order : OrderMessage) (transId : String) :
    Touched order (StgwFixReport.withIds order transId) :=
  ⟨rfl, rfl, rfl, rfl, id⟩

theorem numbered_touched (order : OrderMessage) (transId : String) :
    Touched order (StgwFixReport.procMsgType8Report (StgwFixReport.withIds order transId)).order :=
  (withIds_touched order transId).trans (procMsgType8Report_touched _)

theorem procSZCancelOrder_touched (order : OrderMessage) :
    Touched order (StgwFixReport.procSZCancelOrder order).order := by
  unfold StgwFixReport.procSZCancelOrder
  split
  · split
    · exact procMsgType8Report_touched order
    split
    · exact procMsgType9Report_touched order
    · exact .refl order
  · exact .refl order

theorem procSZErrorOrder_touched (order : OrderMessage) :
    Touched order (StgwFixReport.procSZErrorOrder order).order := by
  unfold StgwFixReport.procSZErrorOrder
  split
  · have rejected : Touched order (StgwFixReport.rejected order) := ⟨rfl, rfl, rfl, rfl, fun _ => rfl⟩
    exact rejected.trans (procMsgType8Report_touched _)
  split
  next cancel =>
    have rejected : Touched order (StgwFixReport.cancelRejected order) :=
      ⟨rfl, rfl, rfl, rfl, fun report => absurd (cancel.symm.trans report) (by decide)⟩
    exact rejected.trans (procMsgType9Report_touched _)
  · exact .refl order

theorem sendSZReport_touched (matchType : MatchType) (order : OrderMessage) (transId : String) :
    Touched order (StgwFixReport.sendSZReport matchType order transId).order := by
  unfold StgwFixReport.sendSZReport StgwFixReport.procSingleReport StgwFixReport.procSZConfirmOrder
  split
  · split
    · exact numbered_touched order transId
    · exact .refl order
  · split
    · exact numbered_touched order transId
    · exact .refl order
  · exact procSZCancelOrder_touched order
  · exact procSZErrorOrder_touched order
  · have confirmed : Touched order (StgwFixReport.confirmed order) := ⟨rfl, rfl, rfl, rfl, fun _ => rfl⟩
    split
    · exact confirmed.trans (numbered_touched _ transId)
    · exact confirmed
  · exact .refl order
  · exact .refl order

theorem fixToSHConfirm_touched (sessions : String → Bool) (order : OrderMessage) :
    Touched order (ReportMsgSh.fixToSHConfirm sessions order).order := by
  unfold ReportMsgSh.fixToSHConfirm
  repeat' split
  all_goals exact .refl order

theorem procSingleReport_touched (sessions : String → Bool) (order : OrderMessage) (cjbh : String) :
    Touched order (ReportMsgSh.procSingleReport sessions order cjbh).order := by
  unfold ReportMsgSh.procSingleReport ReportMsgSh.fixToSHReport
  split
  · split
    · exact .refl order
    · exact ⟨rfl, rfl, rfl, rfl, id⟩
  · exact .refl order

theorem getSHReport_touched (sessions : String → Bool) (matchType : MatchType) (order : OrderMessage) (cjbh : String) :
    Touched order (ReportMsgSh.getSHReport sessions matchType order cjbh).order := by
  unfold ReportMsgSh.getSHReport ReportMsgSh.procSHCancelOrder ReportMsgSh.procSHErrorOrder
    ReportMsgSh.procSHConfirmOrder
  split
  · exact procSingleReport_touched sessions order cjbh
  · exact procSingleReport_touched sessions order cjbh
  · split
    · exact fixToSHConfirm_touched sessions order
    · exact .refl order
  · split
    · exact fixToSHConfirm_touched sessions order
    · exact .refl order
  · split
    · exact fixToSHConfirm_touched sessions order
    · exact .refl order
  · exact .refl order
  · exact .refl order

theorem buildReport_touched (sessions : String → Bool) (matchType : MatchType) (order : OrderMessage)
    (transId : String) : Touched order (buildReport sessions matchType order transId).order := by
  unfold buildReport
  split
  · exact sendSZReport_touched matchType order transId
  · exact getSHReport_touched sessions matchType order transId

theorem begin_sound (sound : Sound setting.sessions start desk) {ops : OrderMessage → Option (List Op)}
    (clean : ∀ address, desk.queued = some address → ∀ work, ops (desk.heap address) = some work →
      Clean setting.sessions (desk.heap address) none work)
    (done : begin desk ops = some after) : Sound setting.sessions start after := by
  unfold begin at done
  split at done
  next address queued idle =>
    obtain ⟨work, program, rfl⟩ := Option.map_eq_some_iff.mp done
    obtain ⟨inside, own⟩ := sound.queued address queued
    obtain ⟨pending, working, aligned⟩ := sound.working
    have nothing : pending = none := by
      cases working with
      | running left =>
        rw [idle] at left
        cases left
        rfl
      | pushed => rfl
    subst nothing
    exact ⟨sound.regular, sound.inside, sound.distinct, nofun, sound.seen,
      ⟨none, .running (clean address queued work program) own inside rfl, aligned⟩, sound.silent⟩
  next => cases done

theorem pop_sound (sound : Sound setting.sessions start desk) (done : step setting desk .pop = some after) :
    Sound setting.sessions start after := by
  simp only [step] at done
  split at done
  next address outgoing held first =>
    cases done
    have same : messages { desk with held := some (address, (desk.heap address).matchType), outgoing } =
        messages desk := by
      unfold messages
      rw [held, first]
      rfl
    obtain ⟨pending, working, aligned⟩ := sound.working
    refine ⟨sound.regular, ?_, ?_, ?_, ?_, ⟨pending, ?_, ?_⟩, ?_⟩
    · rw [same]
      exact sound.inside
    · rw [same]
      exact sound.distinct
    · rw [same]
      exact sound.queued
    · intro popped matchType seen
      cases seen
      rfl
    · cases working with
      | running clean own inside taken => exact .running clean (by rw [same]; exact own) inside taken
      | pushed trailing => exact .pushed trailing
    · unfold Aligned
      rw [same]
      exact aligned
    · rw [same]
      exact sound.silent
  next => cases done

/-- The report of the message in hand is of the first outcome that waits. -/
theorem build_sound (sound : Sound setting.sessions start desk) {transId : String}
    (done : step setting desk (.build transId) = some after) : Sound setting.sessions start after := by
  simp only [step] at done
  split at done
  next address matchType held =>
    cases done
    have list : messages desk = address :: desk.outgoing := by
      unfold messages
      rw [held]
      rfl
    have distinct := sound.distinct
    rw [list, List.nodup_cons] at distinct
    obtain ⟨once, distinct⟩ := distinct
    have touched := buildReport_touched setting.sessions matchType (desk.heap address) transId
    have frame := update_frame once desk.heap (buildReport setting.sessions matchType (desk.heap address) transId).order
    obtain ⟨pending, working, aligned⟩ := sound.working
    refine ⟨update_regular sound.regular (touched.regular (sound.regular address)) address, ?_, distinct, ?_, nofun,
      ⟨pending, ?_, ?_⟩, ?_⟩
    · intro other found
      exact sound.inside other (by rw [list]; exact List.mem_cons_of_mem _ found)
    · intro other queued
      obtain ⟨inside, own⟩ := sound.queued other queued
      rw [list] at own
      exact ⟨inside, fun found => own (List.mem_cons_of_mem _ found)⟩
    · cases working with
      | running clean own inside taken =>
        rw [list] at own
        have elsewhere : desk.target ≠ address := fun same => own (by rw [same]; exact List.mem_cons_self)
        refine .running ?_ (fun found => own (List.mem_cons_of_mem _ found)) inside taken
        unfold Desk.order Desk.writes
        simp only [Function.update_of_ne elsewhere]
        exact clean
      | pushed trailing => exact .pushed trailing
    · intro delivers
      obtain ⟨told, waiting, outcomes, reported, fits⟩ := aligned delivers
      rw [list] at fits
      cases fits with
      | @cons _ outcome _ waiting first rest =>
        have same := sound.seen address matchType held
        refine ⟨told ++ [outcome], waiting, ?_, List.rel_append reported (.cons ⟨same.trans first.matchType, ?_⟩ .nil),
          fits_frame frame rest⟩
        · simp only [Desk.writes, outcomes, List.append_assoc, List.cons_append, List.nil_append]
        · intro fields built
          rw [same] at built
          rw [← (sound.regular address).priceDecimals_eq]
          exact first.fields transId fields built
    · intro refused
      have empty := (sound.silent refused).1
      rw [list] at empty
      cases empty
  next => cases done

end Delivery

/-- What keeps reports and outcomes together: every run of the task is faithful, and
no Shenzhen order with anything left is cancelled by request. -/
def Meets (desk : Desk) : Event → Prop
  | .attempt round => ∀ address, desk.queued = some address → Faithful round (desk.heap address)
  | .cancel _ _ => ∀ address, desk.queued = some address → (desk.heap address).isSz = true →
      (desk.heap address).leavesQty = 0 ∧ string2UInt64 (desk.heap address).strLeavesQty = 0
  | _ => True

def Step (setting : Setting) : Steps Desk Event := fun before event after => step setting before event = some after

theorem step_sound {setting : Setting} {start : OrderMessage} {desk after : Desk} {event : Event}
    (sound : Sound setting.sessions start desk) (taken : Step setting desk event after) (meets : Meets desk event) :
    Sound setting.sessions start after := by
  cases event with
  | attempt round =>
    exact begin_sound sound (fun address queued _ program => matchOrderOps_clean (meets address queued) program) taken
  | cancel request transId =>
    have started : begin desk (fun order => some (cancelOps request order transId)) = some after := taken
    refine begin_sound sound ?_ started
    intro address queued work program
    cases program
    exact cancelOps_clean request transId (meets address queued)
  | op room =>
    unfold Step at taken
    simp only [step] at taken
    split at taken
    next => cases taken
    next ops => exact op_sound sound ops room taken
  | pop => exact pop_sound sound taken
  | build transId => exact build_sound sound taken

/-- An order as it is read, before anything is matched. -/
structure Unmatched (order : OrderMessage) : Prop where
  matchType : order.matchType = .notMatch
  lastQty : order.lastQty = ""
  lastPx : order.lastPx = ""

/-- A confirmation is the order as it was recorded, but for its price text and status. -/
theorem confirm_cases (order : OrderMessage) :
    RecordNewOrderHelper.confirm order = [] ∨
      ∃ message, RecordNewOrderHelper.confirm order = [message] ∧ pushBack order = 0 ∧
        message.matchType = order.matchType ∧ message.lastQty = order.lastQty ∧ message.lastPx = order.lastPx ∧
        message.tradeMarket = order.tradeMarket ∧ message.senderCompID = order.senderCompID := by
  have one : ∀ message, pushBack message = pushBack order →
      pushed message = [] ∨ pushed message = [message] ∧ pushBack order = 0 := by
    intro message same
    unfold pushed
    split
    next accepted => exact Or.inr ⟨rfl, same.symm.trans accepted⟩
    next => exact Or.inl rfl
  unfold RecordNewOrderHelper.confirm
  split
  · rcases one order rfl with none | ⟨some, accepted⟩
    · exact Or.inl none
    · exact Or.inr ⟨order, some, accepted, rfl, rfl, rfl, rfl, rfl⟩
  split
  · rcases one (RecordNewOrderHelper.confirmation order) rfl with none | ⟨some, accepted⟩
    · exact Or.inl none
    · exact Or.inr ⟨_, some, accepted, rfl, rfl, rfl, rfl, rfl⟩
  · exact Or.inl rfl

theorem start_sound {sessions : String → Bool} {cache : StockCache} {order : OrderMessage} {desk : Desk}
    (unmatched : Unmatched order) (started : start cache order = some desk) : Sound sessions order desk := by
  have regular : Regular order order := ⟨rfl, rfl, fun _ => ⟨unmatched.lastQty, unmatched.lastPx⟩⟩
  unfold start at started
  split at started
  · rcases confirm_cases order with none | ⟨message, confirm, accepted, type, lastQty, lastPx, market, sender⟩
    · simp only [none] at started
      cases started
      exact ⟨fun _ => regular, nofun, List.nodup_nil, by simp [messages], nofun,
        ⟨.none, .pushed (Or.inl rfl), fun _ => ⟨[], [], rfl, .nil, .nil⟩⟩, fun _ => ⟨rfl, rfl⟩⟩
    · simp only [confirm] at started
      cases started
      rw [unmatched.matchType] at type
      rw [unmatched.lastQty] at lastQty
      rw [unmatched.lastPx] at lastPx
      refine ⟨update_regular (fun _ => regular) ⟨market, sender, fun _ => ⟨lastQty, lastPx⟩⟩ 1, ?_, ?_, ?_, nofun,
        ⟨none, .pushed (Or.inl rfl), ?_⟩, fun refused => absurd accepted refused⟩
      · simp [messages]
      · simp [messages]
      · simp [messages]
      · intro _
        refine ⟨[], [.untraded message.matchType message], rfl, .nil, .cons ?_ .nil⟩
        have fits : Fits sessions message (.untraded .notMatch message) := fits_confirm type lastQty lastPx
        rw [type]
        exact fits
  · cases started

theorem law_of_told {decimals : Nat} {reports : List Report} {told rest : List ABStockMatch.Outcome}
    (carried : List.Forall₂ (Carries decimals) reports told) (place : Nat) (report : Report)
    (found : reports[place]? = some report) :
    ∃ outcome, (told ++ rest)[place]? = some outcome ∧ Carries decimals report outcome := by
  induction carried generalizing place with
  | nil => cases found
  | cons first _ ih =>
    cases place with
    | zero =>
      cases found
      exact ⟨_, rfl, first⟩
    | succ place => exact ih place found

theorem Sound.law {sessions : String → Bool} {order : OrderMessage} {desk : Desk} (sound : Sound sessions order desk) :
    Law order desk := by
  intro place report found
  by_cases delivers : pushBack order = 0
  · obtain ⟨pending, _, aligned⟩ := sound.working
    obtain ⟨told, waiting, outcomes, reported, _⟩ := aligned delivers
    rw [outcomes, List.append_assoc]
    exact law_of_told reported place report found
  · rw [(sound.silent delivers).2] at found
    cases found

/-- However the report side interleaves with a faithful task, the reports of an order
carry its outcomes in their order. -/
theorem reports_carry_outcomes (setting : Setting) (cache : StockCache) {order : OrderMessage} {first last : Desk}
    {events : List Event} (unmatched : Unmatched order) (started : start cache order = some first)
    (run : Run ((Step setting).guarded Meets) first events last) : Law order last :=
  (run.invariant (fun _ _ _ sound taken => step_sound sound taken.1 taken.2) (start_sound unmatched started)).law

/-- A Shenzhen order to buy a hundred shares at ten. -/
def sampleOrder : OrderMessage where
  iSide := 1
  delType := .ordinaryLimit
  orderqtyOrigin := 100
  leavesQty := 100
  orderPrice := 10000
  tradeMarket := tradeMarketSz
  tradeType := .aTrade
  accountId := "0100000001"
  marketBranchid := "001"
  clOrdId := "A1"
  strOrderqtyOrigin := "100"
  strLeavesQty := "100"
  msgType := Step.msgTypeNewOrder
  beginString := "FIXT.1.1"
  senderCompID := "CLIENT"
  targetCompID := "GATEWAY"
  applID := "010"
  ownerType := "1"
  side := "1"
  stockID := "000001"
  securitySeat := "12345"

/-- A quote of sixty shares at ten. -/
def sampleRound (stored : Bool) : Round where
  quotationType := .averagePrice
  quote := some { maxGain := 0, minFall := 0, cjsl := 60, cjje := 600000, hqsj := "", tpbz := "F" }
  stored
  cancelId := "000000000000001"
  transId := "000000000000002"

def sampleSetting : Setting where
  db := fun _ _ => none
  sessions := fun _ => false

/-- The steps a run has, and then the reports of the two messages. -/
def sampleEvents (steps : Nat) : List Event :=
  List.replicate steps (.op true) ++ [.pop, .build "000000000000003", .pop, .build "000000000000004"]

theorem sampleRound_faithful : Faithful (sampleRound true) sampleOrder := by
  intro quote read takes
  cases read
  exact ⟨rfl, fun _ => rfl, fun enough => absurd enough (by decide)⟩

/-- The confirmation and a part fill, reported while the rest waits in the queue. -/
theorem reports_carry_outcomes_sample : ∃ last : Desk, last.reports.length = 2 ∧ Law sampleOrder last := by
  refine ⟨_, ?_, reports_carry_outcomes sampleSetting (fun _ _ => none) ⟨rfl, rfl, rfl⟩ rfl
    (.cons ⟨(rfl : step _ _ (.attempt (sampleRound true)) = some _), ?_⟩
      (Run.guarded_of_foldlM ?_ (rfl : (sampleEvents 7).foldlM _ _ = some _)))⟩
  · rfl
  · intro address queued
    cases queued
    exact sampleRound_faithful
  · intro event found desk
    simp only [sampleEvents, List.mem_append, List.mem_replicate, List.mem_cons, List.not_mem_nil, or_false] at found
    rcases found with ⟨_, rfl⟩ | rfl | rfl | rfl | rfl <;> trivial

/-- The part fill whose write-back failed is sent as one more confirmation. -/
theorem failed_write_back_rewrites_report :
    ¬ ∀ (setting : Setting) (cache : StockCache) (order : OrderMessage) (first last : Desk) (events : List Event),
      Unmatched order → start cache order = some first → Run (Step setting) first events last → Law order last := by
  intro always
  have law := always sampleSetting (fun _ _ => none) sampleOrder _ _ (.attempt (sampleRound false) :: sampleEvents 8)
    ⟨rfl, rfl, rfl⟩ rfl (Run.of_foldlM rfl)
  obtain ⟨outcome, found, carries⟩ := law 1 _ rfl
  cases found
  exact absurd carries.matchType (by decide)

end Simutgw.Proofs.ReportDelivery
