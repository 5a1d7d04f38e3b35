import Simutgw.OrderMessage

/-! The outgoing buffer's refusals, and what a cancel writes on the order it ends. -/

namespace Simutgw

namespace OutMemoryManage

/-- The buffer's answer to a message: a Shenzhen message needs the sender it goes back to. -/
def pushBack (msg : OrderMessage) : Int :=
  if msg.isSz then if msg.senderCompID.isEmpty then -1 else 0
  else if msg.isSh then 0
  else -1

/-- What one `PushBack` adds to the buffer, as the message stands then. -/
def pushed (msg : OrderMessage) : List OrderMessage :=
  if pushBack msg = 0 then [msg] else []

end OutMemoryManage

open TgwStringUtil SofString

namespace ProcCancelOrder

/-- The matcher's own cancel of a remainder, written on the order it is matching. -/
def procSingleCancelOrderWithoutRequest (order : OrderMessage) (transId : String) : OrderMessage :=
  { order with
    isProc := "1"
    matchType := .cancelMatch
    msgType := Step.msgTypeExecReport
    execType := Step.execTypeCancel
    ordStatus := Step.ordStatusCancel
    lastPx := "0.0000"
    orderqtyOrigin := string2UInt64 order.strOrderqtyOrigin
    lastQty := order.strLeavesQty
    strCumQty := order.strLeavesQty
    strCashorderqty := "0"
    execID := transId
    orderID := transId }

end ProcCancelOrder

namespace TaskCancelOrder

/-- The refusal of a cancel whose order is gone, on the request itself. -/
def procCancelFailOrigIsProc (request : OrderMessage) : OrderMessage :=
  { request with
    msgType := Step.msgTypeCancelReject
    matchType := .cancelMatch
    ordStatus := "2"
    cxlRejReason := "20096" }

/-- A cancel by request, written on the order taken out of the queue. -/
def procCancelSuccess (request order : OrderMessage) (transId : String) : OrderMessage :=
  let origin := string2UInt64 order.strOrderqtyOrigin
  let unmatched := string2UInt64 order.strLeavesQty
  { order with
    isProc := "1"
    matchType := .cancelMatch
    msgType := Step.msgTypeExecReport
    execType := Step.execTypeCancel
    ordStatus := Step.ordStatusCancel
    origClOrdId := request.origClOrdId
    clOrdId := request.clOrdId
    lastPx := "0.0000"
    priceMatched := string2UInt64 "0.0000"
    orderqtyUnmatched := unmatched
    orderqtyOrigin := origin
    lastQty := order.strLeavesQty
    orderqtyMatched := unmatched
    strLeavesQty := "0"
    strCumQty := itostr (origin - unmatched)
    execID := transId
    orderID := transId }

end TaskCancelOrder
end Simutgw
