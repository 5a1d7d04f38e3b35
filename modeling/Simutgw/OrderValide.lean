import Simutgw.ProcCancelOrder

/-! The checks of a message's own fields, before anything of the account or of the
market is looked at. The conversions to numbers cannot fail, so that what is
refused is an empty id, a code of another length, an unknown side or an unknown
combination of order type fields. -/

namespace Simutgw

/-- An order refused for its own fields. -/
def OrderMessage.invalidFor (order : OrderMessage) (error : String) : OrderMessage :=
  { order with dataError := true, error, matchType := .errorMatch }

namespace StockOrderHelper

def buysOnMargin (order : OrderMessage) : Bool :=
  (order.cashMargin == "2" && order.buys) || (order.cashMargin == "3" && order.sells)

def sellsOnMargin (order : OrderMessage) : Bool :=
  (order.cashMargin == "2" && order.sells) || (order.cashMargin == "3" && order.buys)

/-- The type the head of the code and the order's fields ask for. -/
def boardType (order : OrderMessage) : Option TadeType :=
  let head := String.ofList (order.stockID.toList.take 3)
  let fundHead := String.ofList (order.stockID.toList.take 2)
  let lends (mark : String) : Bool :=
    order.ordType.length == 3 && String.ofList ((order.ordType.toList.drop 1).take 2) == mark
  if head = "000" ∨ head = "001" ∨ head = "002" ∨ head = "300" ∨ fundHead = "15" ∨ fundHead = "16" ∨
      fundHead = "18" then
    if buysOnMargin order then some .marginCash
    else if sellsOnMargin order then some .marginStock
    else some .aTrade
  else if head = "600" ∨ head = "601" ∨ head = "603" ∨ fundHead = "50" ∨ fundHead = "51" then
    if lends "RZ" then some .marginCash
    else if lends "RQ" then some .marginStock
    else some .aTrade
  else if head = "200" ∨ head = "900" then some .bTrade
  else none

/-- The trade type noted on the order; -1 leaves the order as it was. -/
def checkOrderTradeType (order : OrderMessage) : Int × OrderMessage :=
  if order.stockID.length ≠ 6 then (-1, order)
  else
    match boardType order with
    | none => (-1, order)
    | some type =>
      let type :=
        if order.applID = "120" then
          if order.side = "D" then .etfCrt
          else if order.side = "E" then .etfRdp
          else type
        else type
      (0, { order with tradeType := if order.msgType = Step.msgTypeOrderCancel then .cancel else type })

end StockOrderHelper

open TgwStringUtil StockOrderHelper

namespace AppId010OrderValide

def basicValidate (order : OrderMessage) : Int × OrderMessage :=
  if order.clOrdId.isEmpty then (-1, order.invalidFor "客户订单编号为空")
  else if order.stockID.length ≠ 6 then (-1, order.invalidFor "证券代码错误")
  else
    let order := { order with
      orderqtyOrigin := string2UInt64 order.strOrderqtyOrigin
      leavesQty := string2UInt64 order.strLeavesQty }
    if order.buys ∨ order.sells then
      let order := { order with iSide := if order.buys then 1 else 2, minQty := string2UInt64 order.strMinQty }
      if order.msgType = Step.msgTypeOrderCancel ∧ order.origClOrdId.isEmpty then
        (-1, order.invalidFor "客户原始订单编号为空")
      else (0, order)
    else (-1, order.invalidFor ("转换side[" ++ order.side ++ "]为Int失败"))

/-- The declaration type the markets' order type fields ask for. -/
def declarationType (order : OrderMessage) : Option DeclarationType :=
  let minQty := string2UInt64 order.strMinQty
  if order.isSz then
    if order.ordType = "2" ∧ order.maxPriceLevels = "0" then
      if order.timeInForce = "0" ∧ minQty = 0 then some .ordinaryLimit else none
    else if order.ordType = "U" then
      if order.timeInForce = "0" ∧ order.maxPriceLevels = "0" ∧ minQty = 0 then some .theSideOptimal else none
    else if order.ordType = "1" then
      if order.timeInForce = "0" ∧ order.maxPriceLevels = "1" ∧ minQty = 0 then
        some .theOppsiteSideOptimalandRemainderHold
      else if order.timeInForce = "3" ∧ order.maxPriceLevels = "0" ∧ minQty = 0 then
        some .matchAtMarketAndRemainderCancel
      else if order.timeInForce = "3" ∧ order.maxPriceLevels = "0" ∧ minQty = order.orderqtyOrigin then
        some .allMatchAtMarketOrCancel
      else if order.timeInForce = "3" ∧ order.maxPriceLevels = "5" ∧ minQty = 0 then
        some .matchAtMarketInFiveAndRemainderCancel
      else none
    else none
  else if order.isSh then
    if order.ordType = "LPT" ∨ order.ordType = "LRZ" ∨ order.ordType = "LRQ" then some .ordinaryLimit
    else if order.ordType = "MPT" then some .matchAtMarketInFiveAndRemainderCancel
    else if order.ordType = "NPT" then some .matchAtMarketInFiveAndRemainderHold
    else none
  else none

def getOrderDelType (order : OrderMessage) : Int × OrderMessage :=
  if order.isSz ∨ order.isSh then
    match declarationType order with
    | some delType => (0, { order with delType })
    | none => (-1, order.invalidFor "Unkonwn order type")
  else (-1, order.invalidFor ("Error trade market[" ++ order.tradeMarket))

def validateOrder (order : OrderMessage) : Int × OrderMessage :=
  match basicValidate order with
  | (0, order) =>
    if order.msgType = Step.msgTypeOrderCancel then (0, order)
    else
      match checkOrderTradeType order with
      | (0, order) =>
        match getOrderDelType order with
        | (0, order) =>
          if order.delType = .ordinaryLimit then
            (0, { order with orderPrice := string2UInt64 order.strOrderPrice })
          else (0, order)
        | refused => refused
      | refused => refused
  | refused => refused

end AppId010OrderValide

namespace AppId120OrderValide

/-- The side, the order type and the price are looked at only where the message
names the market in a field nothing fills. -/
def validateOrder (order : OrderMessage) : Int × OrderMessage :=
  if order.clOrdId.isEmpty then (-1, order.invalidFor "客户订单编号为空")
  else if order.stockID.length ≠ 6 then (-1, order.invalidFor "证券代码错误")
  else
    let order := { order with
      orderqtyOrigin := string2UInt64 order.strOrderqtyOrigin
      leavesQty := string2UInt64 order.strLeavesQty }
    if order.market = tradeMarketSz then
      if order.side ≠ "D" ∧ order.side ≠ "E" then (-1, order.invalidFor ("side[" ++ order.side ++ "]错误"))
      else if order.ordType ≠ "2" then (-1, order.invalidFor ("ordtype[" ++ order.side ++ "]错误"))
      else checkOrderTradeType { order with orderPrice := string2UInt64MoneyInLi order.strOrderPrice }
    else checkOrderTradeType order

end AppId120OrderValide
end Simutgw
