import Simutgw.MarketInfoHelper
import Simutgw.MatchUtil
import Simutgw.ProcCancelOrder
import Simutgw.UserStockHelper

/-! The match task of an ordinary order: the four matchers of the quote mode, the
simulated modes, and what each run of the task pushes and queues again. The order
is one object, so what a later line writes is written on what an earlier line pushed. -/

namespace Simutgw.ABStockMatch
open SofString TgwStringUtil MarketInfoHelper OutMemoryManage UserStockHelper

/-- What a run of the task meets: the system's quotation type, the quote it reads,
whether the write-back succeeds, and the random ids it draws. -/
structure Round where
  quotationType : QuotationType
  quote : Option Quote
  stored : Bool
  cancelId : String
  transId : String

/-- What a run of the task leaves: the order and the holdings, the messages as they
stood when they were pushed, the fields written back, and whether a copy of the
order was queued again. -/
structure Attempt where
  order : OrderMessage
  cache : StockCache
  pushed : List OrderMessage := []
  written : List (String × String) := []
  requeued : Bool := false

/-- The same for a matcher, which also says what the quote has left. -/
structure Matched where
  order : OrderMessage
  cache : StockCache
  pushed : List OrderMessage
  cjslRemain : UInt64
  cjjeRemain : UInt64

/-- The trade the quote's volume does not complete. -/
def partFilled (order : OrderMessage) (cjsl averagePrice : UInt64) : OrderMessage :=
  let unmatched := order.leavesQty - cjsl
  { order with
    matchType := .matchPart
    execType := Step.execTypeTrade
    ordStatus := Step.ordStatusPartFill
    msgType := Step.msgTypeExecReport
    orderqtyMatched := cjsl
    lastQty := itostr cjsl
    priceMatched := averagePrice
    lastPx := iLiToStr averagePrice 4
    cashorderqtyMatched := averagePrice * cjsl
    strCashorderqty := iLiToStr (averagePrice * cjsl) 4
    orderqtyUnmatched := unmatched
    strLeavesQty := itostr unmatched
    leavesQty := unmatched
    strCumQty := itostr (order.orderqtyOrigin - unmatched)
    cashorderqtyUnmatched := unmatched * order.orderPrice
    strOrderPrice := iLiToStr order.orderPrice 4 }

/-- The trade that completes the order. The number of its leaves stays as it was. -/
def allFilled (order : OrderMessage) (averagePrice : UInt64) : OrderMessage :=
  { order with
    matchType := .matchAll
    execType := Step.execTypeTrade
    ordStatus := Step.ordStatusFill
    msgType := Step.msgTypeExecReport
    orderqtyMatched := order.leavesQty
    lastQty := itostr order.leavesQty
    priceMatched := averagePrice
    lastPx := iLiToStr averagePrice 4
    cashorderqtyMatched := averagePrice * order.leavesQty
    strCashorderqty := iLiToStr (averagePrice * order.leavesQty) 4
    orderqtyUnmatched := 0
    strLeavesQty := itostr 0
    strCumQty := itostr order.orderqtyOrigin
    cashorderqtyUnmatched := 0
    strOrderPrice := iLiToStr order.orderPrice 4 }

def withTransId (order : OrderMessage) (transId : String) : OrderMessage :=
  { order with execID := transId, orderID := transId }

/-- The trade of a matcher on its quote, and the cancel of the remainder where the
matcher does that. -/
def fill (remainderCancel : Bool) (round : Round) (cache : StockCache) (order : OrderMessage) (cjsl cjje : UInt64) :
    Matched :=
  let averagePrice := cjje / cjsl
  if cjsl < order.leavesQty then
    let filled := partFilled order cjsl averagePrice
    if remainderCancel then
      let cancelled := ProcCancelOrder.procSingleCancelOrderWithoutRequest filled round.cancelId
      ⟨cancelled, cache, pushed cancelled, 0, 0⟩
    else ⟨filled, cache, [], 0, 0⟩
  else
    ⟨allFilled order averagePrice, cache, [], cjsl - order.leavesQty, cjje - order.leavesQty * averagePrice⟩

/-- The body of the four matchers. The holdings are updated on every trade, after
the remainder's cancel. -/
def matchWith (limit remainderCancel : Bool) (db : StockDb) (round : Round) (cache : StockCache)
    (order : OrderMessage) (cjsl cjje : UInt64) : Option Matched :=
  match MatchUtil.checkMatchMethod order cjsl cjje limit with
  | (0, order) =>
    let matched := fill remainderCancel round cache order cjsl cjje
    (updateAfterTrade db matched.cache matched.order).map fun updated =>
      { matched with order := withTransId updated.order round.transId, cache := updated.cache }
  | (_, order) => some ⟨order, cache, [], 0, 0⟩

def matchOrdinaryLimit := matchWith true false
def matchOptimal := matchWith false false
def matchOptimalAndRemainderCancel := matchWith false true
def matchAllMarketOrCancel := matchWith false true

/-- The matcher of a declaration type, after the checks all of them share. The
result is the order's match type. -/
def quotMatchByMarket (db : StockDb) (round : Round) (cache : StockCache) (order : OrderMessage) (quote : Quote) :
    Option Matched :=
  let order := order.markedAs .notMatch
  match MatchUtil.checkTPBZ order quote.tpbz with
  | (0, order) =>
    if quote.cjsl = 0 ∨ quote.cjje = 0 then some ⟨order, cache, [], 0, 0⟩
    else
      match order.delType with
      | .ordinaryLimit =>
        match MatchUtil.checkMaxGainAndMinFall order quote.maxGain quote.minFall with
        | (0, order) => matchOrdinaryLimit db round cache order quote.cjsl quote.cjje
        | (_, order) => some ⟨order.markedAs .outOfRange, cache, [], 0, 0⟩
      | .theSideOptimal | .theOppsiteSideOptimalandRemainderHold | .matchAtMarketInFiveAndRemainderHold =>
        matchOptimal db round cache order quote.cjsl quote.cjje
      | .matchAtMarketAndRemainderCancel | .matchAtMarketInFiveAndRemainderCancel =>
        matchOptimalAndRemainderCancel db round cache order quote.cjsl quote.cjje
      | .allMatchAtMarketOrCancel => matchAllMarketOrCancel db round cache order quote.cjsl quote.cjje
  | (_, order) => some ⟨order, cache, [], 0, 0⟩

/-- The order is pushed after a trade, whatever the buffer says; then the quote is
written back, and where that fails the order is marked as not matched. The result
is the order's match type. -/
def quotMatchOrder (db : StockDb) (round : Round) (cache : StockCache) (order : OrderMessage) : Option Attempt :=
  let circle := MatchUtil.getOrderCircleID order
  match round.quote with
  | none => some { order := order.markedAs .notMatch, cache }
  | some quote => do
    let matched ← quotMatchByMarket db round cache order quote
    if matched.order.matchType ≠ .matchAll ∧ matched.order.matchType ≠ .matchPart then
      some { order := matched.order, cache := matched.cache, pushed := matched.pushed }
    else
      let reports := matched.pushed ++ pushed matched.order
      if round.stored then
        some {
          order := matched.order
          cache := matched.cache
          pushed := reports
          written := setCurrQuotGapByCircle round.quotationType matched.order circle matched.cjslRemain
            matched.cjjeRemain quote.hqsj }
      else
        some { order := matched.order.markedAs .notMatch, cache := matched.cache, pushed := reports }

/-- The declaration types whose partly filled order is queued again. -/
def holdsRemainder : DeclarationType → Bool
  | .ordinaryLimit | .matchAtMarketInFiveAndRemainderHold | .theOppsiteSideOptimalandRemainderHold => true
  | _ => false

/-- What the task does with the result of a match against the quote. -/
def answer (attempt : Attempt) : Attempt :=
  match attempt.order.matchType with
  | .matchAll | .cancelMatch => attempt
  | .matchPart => { attempt with requeued := holdsRemainder attempt.order.delType }
  | .notMatch => { attempt with requeued := true }
  | .outOfRange | .stopTrans | .errorMatch =>
    let order := attempt.order.markedAs .errorMatch
    { attempt with order, pushed := attempt.pushed ++ pushed order }

def enableQuoMatch (db : StockDb) (round : Round) (cache : StockCache) (order : OrderMessage) : Option Attempt :=
  (quotMatchOrder db round cache order).map answer

/-- The end of every simulated trade: the holdings, the report, and the queue while
something is left. -/
def simulated (db : StockDb) (cache : StockCache) (order : OrderMessage) (requeue : Bool) : Option Attempt :=
  (updateAfterTrade db cache order).map fun updated =>
    { order := updated.order, cache := updated.cache, pushed := pushed updated.order, requeued := requeue }

def simulMatchAll (db : StockDb) (round : Round) (cache : StockCache) (order : OrderMessage) : Option Attempt :=
  simulated db cache (withTransId (allFilled order order.orderPrice) round.transId) false

/-- The trade of the divided modes. The cumulated quantity counts this trade alone. -/
def dividedFilled (order : OrderMessage) (matchType : MatchType) (matched : UInt64) : OrderMessage :=
  let unmatched := order.leavesQty - matched
  { order with
    matchType
    execType := Step.execTypeTrade
    ordStatus := Step.ordStatusPartFill
    msgType := Step.msgTypeExecReport
    orderqtyMatched := matched
    lastQty := itostr matched
    priceMatched := order.orderPrice
    lastPx := iLiToStr order.orderPrice 4
    cashorderqtyMatched := order.orderPrice * matched
    strCashorderqty := iLiToStr (order.orderPrice * matched) 4
    orderqtyUnmatched := unmatched
    leavesQty := unmatched
    strLeavesQty := itostr unmatched
    strCumQty := itostr matched
    cashorderqtyUnmatched := 0
    strOrderPrice := iLiToStr order.orderPrice 4 }

def divided (db : StockDb) (round : Round) (cache : StockCache) (order : OrderMessage) (matchType : MatchType)
    (matched : UInt64) : Option Attempt :=
  let order := withTransId (dividedFilled order matchType matched) round.transId
  simulated db cache order (order.leavesQty ≠ 0)

/-- A policy of zero parts ends the process. -/
def simulMatchByDivide (db : StockDb) (round : Round) (cache : StockCache) (order : OrderMessage) : Option Attempt :=
  let parts := UInt64.ofNat order.tradePolicy.partMatchNum.toNat
  if parts = 0 then none
  else
    let part := order.orderqtyOrigin / parts
    if part ≠ 0 ∧ order.leavesQty ≥ 2 * part then divided db round cache order .matchPart part
    else divided db round cache order .matchAll order.leavesQty

def simulNotMatch (cache : StockCache) (order : OrderMessage) : Attempt :=
  { order, cache, requeued := true }

/-- Only an order nothing of which is filled is refused. -/
def simulErrMatch (cache : StockCache) (order : OrderMessage) : Attempt :=
  if order.leavesQty = order.orderqtyOrigin then
    let order := MatchUtil.withErrorCode { order with
      matchType := .errorMatch
      dataError := true
      error := "模拟错误应答" } SzErrCode.c20001 ShErrCode.c215
    { order, cache, pushed := pushed order }
  else simulNotMatch cache order

def simulMatchPart (db : StockDb) (round : Round) (cache : StockCache) (order : OrderMessage) : Option Attempt :=
  if order.leavesQty ≠ order.orderqtyOrigin then some (simulNotMatch cache order)
  else if order.orderqtyOrigin = 1 then divided db round cache order .matchAll order.orderqtyOrigin
  else divided db round cache order .matchPart (order.orderqtyOrigin / 2)

def matchOrder (db : StockDb) (round : Round) (cache : StockCache) (order : OrderMessage) : Option Attempt :=
  match order.tradePolicy.matchMode with
  | .enAbleQuta => enableQuoMatch db round cache order
  | .simulMatchAll => simulMatchAll db round cache order
  | .simulMatchByDivide => simulMatchByDivide db round cache order
  | .simulNotMatch => some (simulNotMatch cache order)
  | .simulErrMatch => some (simulErrMatch cache order)
  | .simulMatchPart => simulMatchPart db round cache order

end Simutgw.ABStockMatch
