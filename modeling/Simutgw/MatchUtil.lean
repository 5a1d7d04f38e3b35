import Simutgw.OrderMessage

/-! The checks an order passes before it is matched against a quote. Each check
returns a code and the order, on which a refusal leaves its reason. -/

namespace Simutgw

/-- What the quote store answers for a security and a trade circle: the price
limits, the volume and turnover left, the time and the suspension flag. -/
structure Quote where
  maxGain : UInt64
  minFall : UInt64
  cjsl : UInt64
  cjje : UInt64
  hqsj : String
  tpbz : String
  deriving DecidableEq

namespace MatchUtil
open SofString

/-- The error code of the order's market; an order of no known market keeps its own. -/
def withErrorCode (order : OrderMessage) (sz sh : String) : OrderMessage :=
  if order.isSz then { order with errorCode := sz }
  else if order.isSh then { order with errorCode := sh }
  else order

def checkTPBZ (order : OrderMessage) (tpbz : String) : Int × OrderMessage :=
  if tpbz ≠ "F" then
    (-1, withErrorCode { order with
      matchType := .stopTrans
      dataError := true
      error := "该股已停牌" } SzErrCode.c20007 ShErrCode.c203)
  else (0, order)

/-- Both limits zero means the security has none. -/
def checkMaxGainAndMinFall (order : OrderMessage) (maxGain minFall : UInt64) : Int × OrderMessage :=
  if maxGain = 0 ∧ minFall = 0 then (0, order)
  else if maxGain < order.orderPrice ∨ minFall > order.orderPrice then
    (-1, withErrorCode { order with
      matchType := .outOfRange
      error := "超涨跌价位.max" ++ itostr maxGain ++ ".min" ++ itostr minFall
      dataError := true } SzErrCode.c20009 ShErrCode.c212)
  else (0, order)

/-- `limit` is false for the market order types, which take any price. -/
def checkMatchMethod (order : OrderMessage) (cjsl cjje : UInt64) (limit : Bool) : Int × OrderMessage :=
  let averagePrice := cjje / cjsl
  if order.iSide = 1 then
    if limit ∧ order.orderPrice < averagePrice then
      (-1, { order with matchType := .notMatch, error := "买价比均价还低.average:" ++ itostr averagePrice })
    else (0, order)
  else if order.iSide = 2 then
    if limit ∧ order.orderPrice > averagePrice then
      (-1, { order with matchType := .notMatch, error := "卖价比均价还高.average:" ++ itostr averagePrice })
    else (0, order)
  else
    (-1, { order with
      error := "未知买卖方向.side:" ++ order.side
      matchType := .errorMatch
      dataError := true })

def getOrderCircleID (order : OrderMessage) : String :=
  if order.tradeGroup ≠ "" then order.tradeGroup
  else if order.marketBranchid ≠ "" then order.marketBranchid
  else "C1"

end MatchUtil
end Simutgw
