import Simutgw.CancelTask
import Simutgw.MatchTask
import Simutgw.ReportMsg

/-! The match task one shared step at a time. The outgoing buffer keeps the order
itself, not a copy, so between any two steps the report side may build a report from
what the task has written so far. -/

namespace Simutgw.ABStockMatch
open SofString TgwStringUtil MarketInfoHelper OutMemoryManage UserStockHelper

/-- What the task has decided about the order: a trade or a cancel with its printed
quantity and its price, or the refusal of all that is left. -/
structure Outcome where
  matchType : MatchType
  dealt : Option (String × UInt64) := none
  leaves : UInt64
  cumulated : UInt64
  deriving DecidableEq

def Outcome.traded (matchType : MatchType) (order : OrderMessage) (quantity price : UInt64) : Outcome where
  matchType
  dealt := some (itostr quantity, price)
  leaves := order.leavesQty - quantity
  cumulated := order.orderqtyOrigin - (order.leavesQty - quantity)

def Outcome.cancelled (order : OrderMessage) : Outcome where
  matchType := .cancelMatch
  dealt := some (order.strLeavesQty, 0)
  leaves := 0
  cumulated := string2UInt64 order.strOrderqtyOrigin - string2UInt64 order.strLeavesQty

def Outcome.untraded (matchType : MatchType) (order : OrderMessage) : Outcome where
  matchType
  leaves := order.leavesQty
  cumulated := order.orderqtyOrigin - order.leavesQty

/-- A step of a task. `settle` changes nothing; it says what the next report is about. -/
inductive Op where
  | settle (outcome : Outcome)
  | write (change : OrderMessage → OrderMessage)
  | book
  | push
  | release
  | requeue

def fillOps (remainderCancel : Bool) (round : Round) (order : OrderMessage) (cjsl cjje : UInt64) : List Op :=
  let averagePrice := cjje / cjsl
  if cjsl < order.leavesQty then
    [.settle (.traded .matchPart order cjsl averagePrice), .write (partFilled · cjsl averagePrice)] ++
      if remainderCancel then
        [.settle (.cancelled (partFilled order cjsl averagePrice)),
          .write (ProcCancelOrder.procSingleCancelOrderWithoutRequest · round.cancelId), .push]
      else []
  else [.settle (.traded .matchAll order order.leavesQty averagePrice), .write (allFilled · averagePrice)]

def fillType (remainderCancel : Bool) (order : OrderMessage) (cjsl : UInt64) : MatchType :=
  if cjsl < order.leavesQty then if remainderCancel then .cancelMatch else .matchPart else .matchAll

/-- The match type a matcher returns, and its steps. -/
def matchWithOps (limit remainderCancel : Bool) (round : Round) (order : OrderMessage) (cjsl cjje : UInt64) :
    MatchType × List Op :=
  match MatchUtil.checkMatchMethod order cjsl cjje limit with
  | (0, _) =>
    (fillType remainderCancel order cjsl,
      fillOps remainderCancel round order cjsl cjje ++ [.book, .write (withTransId · round.transId)])
  | (_, refused) =>
    (refused.matchType, [.write fun order => (MatchUtil.checkMatchMethod order cjsl cjje limit).2])

def quotMatchByMarketOps (round : Round) (order : OrderMessage) (quote : Quote) : MatchType × List Op :=
  let order := order.markedAs .notMatch
  Prod.map id (.write (·.markedAs .notMatch) :: ·) <|
    match MatchUtil.checkTPBZ order quote.tpbz with
    | (0, order) =>
      if quote.cjsl = 0 ∨ quote.cjje = 0 then (.notMatch, [])
      else
        match order.delType with
        | .ordinaryLimit =>
          match MatchUtil.checkMaxGainAndMinFall order quote.maxGain quote.minFall with
          | (0, order) => matchWithOps true false round order quote.cjsl quote.cjje
          | _ =>
            (.outOfRange, [.write fun order =>
              (MatchUtil.checkMaxGainAndMinFall order quote.maxGain quote.minFall).2.markedAs .outOfRange])
        | .theSideOptimal | .theOppsiteSideOptimalandRemainderHold | .matchAtMarketInFiveAndRemainderHold =>
          matchWithOps false false round order quote.cjsl quote.cjje
        | .matchAtMarketAndRemainderCancel | .matchAtMarketInFiveAndRemainderCancel | .allMatchAtMarketOrCancel =>
          matchWithOps false true round order quote.cjsl quote.cjje
    | (_, refused) => (refused.matchType, [.write fun order => (MatchUtil.checkTPBZ order quote.tpbz).2])

/-- The order is marked as not matched after it was pushed as a trade. -/
def quotMatchOrderOps (round : Round) (order : OrderMessage) : MatchType × List Op :=
  match round.quote with
  | none => (.notMatch, [.write (·.markedAs .notMatch)])
  | some quote =>
    let (type, ops) := quotMatchByMarketOps round order quote
    if type ≠ .matchAll ∧ type ≠ .matchPart then (type, ops)
    else if round.stored then (type, ops ++ [.push])
    else (.notMatch, ops ++ [.push, .write (·.markedAs .notMatch)])

def answerOps (type : MatchType) (order : OrderMessage) : List Op :=
  match type with
  | .matchAll | .cancelMatch => []
  | .matchPart => if holdsRemainder order.delType then [.requeue] else []
  | .notMatch => [.requeue]
  | .outOfRange | .stopTrans | .errorMatch =>
    [.write (·.markedAs .errorMatch), .settle (.untraded .errorMatch order), .push]

def enableQuoMatchOps (round : Round) (order : OrderMessage) : List Op :=
  let (type, ops) := quotMatchOrderOps round order
  ops ++ answerOps type order

def simulatedOps (outcome : Outcome) (change : OrderMessage → OrderMessage) (requeue : Bool) : List Op :=
  [.settle outcome, .write change, .book, .push] ++ if requeue then [.requeue] else []

def simulMatchAllOps (round : Round) (order : OrderMessage) : List Op :=
  simulatedOps (.traded .matchAll order order.leavesQty order.orderPrice)
    (fun order => withTransId (allFilled order order.orderPrice) round.transId) false

def dividedOps (round : Round) (order : OrderMessage) (matchType : MatchType) (matched : UInt64) : List Op :=
  simulatedOps (.traded matchType order matched order.orderPrice)
    (fun order => withTransId (dividedFilled order matchType matched) round.transId) (order.leavesQty - matched ≠ 0)

def simulMatchByDivideOps (round : Round) (order : OrderMessage) : Option (List Op) :=
  let parts := UInt64.ofNat order.tradePolicy.partMatchNum.toNat
  if parts = 0 then none
  else
    let part := order.orderqtyOrigin / parts
    if part ≠ 0 ∧ order.leavesQty ≥ 2 * part then some (dividedOps round order .matchPart part)
    else some (dividedOps round order .matchAll order.leavesQty)

def simulErrMatchOps (order : OrderMessage) : List Op :=
  if order.leavesQty = order.orderqtyOrigin then
    [.write fun order => MatchUtil.withErrorCode { order with
      matchType := .errorMatch
      dataError := true
      error := "模拟错误应答" } SzErrCode.c20001 ShErrCode.c215,
      .settle (.untraded .errorMatch order), .push]
  else [.requeue]

def simulMatchPartOps (round : Round) (order : OrderMessage) : List Op :=
  if order.leavesQty ≠ order.orderqtyOrigin then [.requeue]
  else if order.orderqtyOrigin = 1 then dividedOps round order .matchAll order.orderqtyOrigin
  else dividedOps round order .matchPart (order.orderqtyOrigin / 2)

/-- The steps of one run of the task on the order as it stands when the run begins. -/
def matchOrderOps (round : Round) (order : OrderMessage) : Option (List Op) :=
  match order.tradePolicy.matchMode with
  | .enAbleQuta => some (enableQuoMatchOps round order)
  | .simulMatchAll => some (simulMatchAllOps round order)
  | .simulMatchByDivide => simulMatchByDivideOps round order
  | .simulNotMatch => some [.requeue]
  | .simulErrMatch => some (simulErrMatchOps order)
  | .simulMatchPart => some (simulMatchPartOps round order)

/-- The steps of a cancel by request on the order it took out of the queue. -/
def cancelOps (request order : OrderMessage) (transId : String) : List Op :=
  [.settle (.cancelled order), .write (TaskCancelOrder.procCancelSuccess request · transId), .push, .release]

end Simutgw.ABStockMatch
