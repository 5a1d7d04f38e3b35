import Simutgw.OrderMessage

/-! The reports of the two markets: a message of the Shenzhen step, a row of one of
Shanghai's two tables. Both are built on the popped order itself, which the task that
pushed it may still hold. An order with a rule is reported from the rule, not here. -/

namespace Simutgw
open SofString TgwStringUtil

/-- What a report says of a trade. A row of Shanghai's has no leaves. -/
structure ReportFields where
  lastQty : Option String := none
  lastPx : Option String := none
  leavesQty : Option String := none
  cumQty : Option String := none
  deriving DecidableEq

/-- The order as its report leaves it; where nothing could be built there are no fields. -/
structure Built where
  order : OrderMessage
  fields : Option ReportFields := none

def whenSet (text : String) : Option String := if text.isEmpty then none else some text

namespace StgwFixReport

def withRejReason (order : OrderMessage) : OrderMessage :=
  if order.ordrejReason.isEmpty then { order with ordrejReason := "0" } else order

def withIds (order : OrderMessage) (transId : String) : OrderMessage :=
  { order with execID := transId, orderID := transId }

/-- The execution report. The leaves are printed from the order's number, not its text. -/
def procMsgType8Report (order : OrderMessage) : Built :=
  if order.beginString.isEmpty || order.senderCompID.isEmpty || order.targetCompID.isEmpty ||
      order.msgType.isEmpty || order.applID.isEmpty || order.ownerType.isEmpty then { order }
  else
    let order := withRejReason order
    if order.securitySeat.isEmpty || order.accountId.isEmpty || order.marketBranchid.isEmpty then { order }
    else
      { order
        fields := some {
          lastQty := whenSet order.lastQty
          lastPx := whenSet order.lastPx
          leavesQty := some (itostr order.leavesQty ++ ".00")
          cumQty := some (itostr (order.orderqtyOrigin - order.leavesQty) ++ ".00") } }

/-- The refusal of a cancel, which carries no quantity. -/
def procMsgType9Report (order : OrderMessage) : Built :=
  if order.securitySeat.isEmpty then { order } else { order, fields := some {} }

def procSingleReport (order : OrderMessage) (transId : String) : Built :=
  if order.isSz then procMsgType8Report (withIds order transId)
  else { order }

def procSZCancelOrder (order : OrderMessage) : Built :=
  if order.matchType = .cancelMatch then
    if order.msgType = Step.msgTypeExecReport then procMsgType8Report order
    else if order.msgType = Step.msgTypeCancelReject then procMsgType9Report order
    else { order }
  else { order }

def rejected (order : OrderMessage) : OrderMessage :=
  { order with msgType := "8", execType := "8", ordStatus := "8", dataError := true, ordrejReason := order.errorCode }

def cancelRejected (order : OrderMessage) : OrderMessage :=
  { order with msgType := "9", ordStatus := "8", ordrejReason := order.errorCode }

/-- A rejected order that has been reported before is of neither type. -/
def procSZErrorOrder (order : OrderMessage) : Built :=
  if order.msgType = Step.msgTypeNewOrder then procMsgType8Report (rejected order)
  else if order.msgType = Step.msgTypeOrderCancel then procMsgType9Report (cancelRejected order)
  else { order }

def confirmed (order : OrderMessage) : OrderMessage := { order with msgType := Step.msgTypeExecReport }

def procSZConfirmOrder (order : OrderMessage) (transId : String) : Built :=
  if order.isSz then procMsgType8Report (withIds order transId)
  else { order }

/-- The report of a popped order, by the match type the pop saw on it. -/
def sendSZReport (matchType : MatchType) (order : OrderMessage) (transId : String) : Built :=
  match matchType with
  | .matchAll | .matchPart => procSingleReport order transId
  | .cancelMatch => procSZCancelOrder order
  | .errorMatch => procSZErrorOrder order
  | .notMatch => procSZConfirmOrder (confirmed order) transId
  | .outOfRange | .stopTrans => { order }

end StgwFixReport

namespace ReportMsgSh

/-- The time is cut at a dash and at a point. -/
def timed (order : OrderMessage) : Bool :=
  order.transactTime.toList.contains '-' && order.transactTime.toList.contains '.'

/-- A row of the confirmations; only the row of a cancel has a quantity. -/
def fixToSHConfirm (sessions : String → Bool) (order : OrderMessage) : Built :=
  if ¬ timed order ∨ ¬ sessions order.sessionId then { order }
  else if order.msgType = Step.msgTypeNewOrder ∨ order.msgType = Step.msgTypeCancelReject then
    { order, fields := some {} }
  else if order.msgType = Step.msgTypeOrderCancel ∨ order.ordStatus = Step.ordStatusCancel then
    { order, fields := some { lastQty := some order.lastQty } }
  else { order }

/-- A row of the trades, under the session's next number. -/
def fixToSHReport (sessions : String → Bool) (order : OrderMessage) (cjbh : String) : Built :=
  if ¬ timed order ∨ ¬ sessions order.sessionId then { order }
  else
    { order := { order with orderID := cjbh }
      fields := some { lastQty := some order.lastQty, lastPx := some (iLiToStr order.priceMatched 3) } }

def procSingleReport (sessions : String → Bool) (order : OrderMessage) (cjbh : String) : Built :=
  if order.isSh then fixToSHReport sessions order cjbh else { order }

def procSHCancelOrder (sessions : String → Bool) (order : OrderMessage) : Built :=
  if order.matchType = .cancelMatch ∧
      (order.msgType = Step.msgTypeExecReport ∨ order.msgType = Step.msgTypeCancelReject) then
    fixToSHConfirm sessions order
  else { order }

def procSHErrorOrder (sessions : String → Bool) (order : OrderMessage) : Built :=
  if order.msgType = Step.msgTypeNewOrder then fixToSHConfirm sessions order else { order }

def procSHConfirmOrder (sessions : String → Bool) (order : OrderMessage) : Built :=
  if order.isSh then fixToSHConfirm sessions order else { order }

def getSHReport (sessions : String → Bool) (matchType : MatchType) (order : OrderMessage) (cjbh : String) : Built :=
  match matchType with
  | .matchAll | .matchPart => procSingleReport sessions order cjbh
  | .cancelMatch => procSHCancelOrder sessions order
  | .errorMatch => procSHErrorOrder sessions order
  | .notMatch => procSHConfirmOrder sessions order
  | .outOfRange | .stopTrans => { order }

end ReportMsgSh

end Simutgw
