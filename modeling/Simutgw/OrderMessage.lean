import Simutgw.Config
import Simutgw.TgwStringUtil

/-! The order as every stage of the gateway carries it: one record that is read,
matched, cancelled and reported, with the numbers kept both as words and as the
texts the reports are built from. -/

namespace Simutgw

/-- What an ordinary sell has frozen, by source. -/
structure SellCps where
  etfRdp : UInt64 := 0
  avl : UInt64 := 0
  deriving DecidableEq, Repr

/-- What the sell of an ETF has frozen, by source. -/
structure SellEtfCps where
  etfCrt : UInt64 := 0
  avl : UInt64 := 0
  deriving DecidableEq, Repr

/-- What a redemption has frozen, by source. -/
structure RdpEtfCps where
  actPch : UInt64 := 0
  avl : UInt64 := 0
  deriving DecidableEq, Repr

/-- One component of a basket: what a creation froze of it, or what a redemption
will add. -/
structure EtfCrtFrozeComponent where
  securityID : String := ""
  actPchCount : UInt64 := 0
  avlCount : UInt64 := 0
  cash : UInt64 := 0
  rdpCount : UInt64 := 0
  deriving DecidableEq, Repr

/-- The customer's policy, fixed when the order arrives. The two rule fields say
whether a rule of that market was found. -/
structure TradePolicyCell where
  runMode : SysRunMode := .normalMode
  checkAssets : Bool := false
  matchMode : SysMatchMode := .enAbleQuta
  quotationMatchType : QuotationType := .averagePrice
  partMatchNum : UInt32 := 2
  ruleId : UInt64 := 0
  ruleSh : Bool := false
  ruleSz : Bool := false
  deriving DecidableEq, Repr

structure OrderMessage where
  dataError : Bool := false
  iSide : Int := 0
  delType : DeclarationType := .allMatchAtMarketOrCancel
  matchType : MatchType := .notMatch
  orderqtyOrigin : UInt64 := 0
  leavesQty : UInt64 := 0
  orderPrice : UInt64 := 0
  minQty : UInt64 := 0
  sellCps : SellCps := {}
  sellEtfCps : SellEtfCps := {}
  rdpEtfCps : RdpEtfCps := {}
  frozeComponents : List EtfCrtFrozeComponent := []
  orderqtyMatched : UInt64 := 0
  priceMatched : UInt64 := 0
  cashorderqtyMatched : UInt64 := 0
  orderqtyUnmatched : UInt64 := 0
  cashorderqtyUnmatched : UInt64 := 0
  tradeMarket : String := ""
  tradeType : TadeType := .error
  sessionId : String := ""
  accountId : String := ""
  tradeGroup : String := ""
  marketBranchid : String := ""
  clOrdId : String := ""
  origClOrdId : String := ""
  strOrderqtyOrigin : String := ""
  strOrderPrice : String := ""
  strCashorderqty : String := ""
  msgType : String := ""
  beginString : String := ""
  senderCompID : String := ""
  targetCompID : String := ""
  applID : String := ""
  ownerType : String := ""
  execID : String := ""
  orderID : String := ""
  execType : String := ""
  ordStatus : String := ""
  strLeavesQty : String := ""
  strCumQty : String := ""
  side : String := ""
  stockID : String := ""
  market : String := ""
  timeInForce : String := ""
  ordType : String := ""
  maxPriceLevels : String := ""
  strMinQty : String := ""
  cashMargin : String := ""
  rcvTime : Int := 0
  isProc : String := ""
  errorCode : String := ""
  error : String := ""
  cxlRejReason : String := ""
  ordrejReason : String := ""
  securitySeat : String := ""
  transactTime : String := ""
  lastPx : String := ""
  lastQty : String := ""
  tradePolicy : TradePolicyCell := {}
  deriving DecidableEq, Repr

namespace OrderMessage

def markedAs (order : OrderMessage) (matchType : MatchType) : OrderMessage := { order with matchType }

def isSz (order : OrderMessage) : Bool := order.tradeMarket == tradeMarketSz

def isSh (order : OrderMessage) : Bool := order.tradeMarket == tradeMarketSh

def sells (order : OrderMessage) : Bool :=
  order.side == Step.sideSellS || order.side == Step.sideSell2

def buys (order : OrderMessage) : Bool :=
  order.side == Step.sideBuyB || order.side == Step.sideBuy1

end OrderMessage
end Simutgw
