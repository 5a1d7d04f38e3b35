import Mathlib.Algebra.BigOperators.Group.List.Basic
import Mathlib.Algebra.Order.Ring.Int

/-! The enumerations and message texts every part of the gateway shares. Each
text is the one the wire or the database carries. -/

namespace Simutgw

/-- The outcome of a matching attempt, kept in the order itself. -/
inductive MatchType where
  | matchAll
  | matchPart
  | cancelMatch
  | notMatch
  | outOfRange
  | stopTrans
  | errorMatch
  deriving DecidableEq, Repr

inductive TadeType where
  | error
  | cancel
  | aTrade
  | bTrade
  | marginCash
  | marginStock
  | etfBuy
  | etfSell
  | etfCrt
  | etfRdp
  deriving DecidableEq, Repr

inductive DeclarationType where
  | ordinaryLimit
  | theSideOptimal
  | theOppsiteSideOptimalandRemainderHold
  | matchAtMarketAndRemainderCancel
  | allMatchAtMarketOrCancel
  | matchAtMarketInFiveAndRemainderCancel
  | matchAtMarketInFiveAndRemainderHold
  deriving DecidableEq, Repr

inductive SysRunMode where
  | pressureMode
  | miniMode
  | normalMode
  deriving DecidableEq, Repr

inductive SysMatchMode where
  | enAbleQuta
  | simulMatchAll
  | simulMatchByDivide
  | simulNotMatch
  | simulErrMatch
  | simulMatchPart
  deriving DecidableEq, Repr

inductive QuotationType where
  | averagePrice
  | sellBuyPrice
  | recentMatchPrice
  deriving DecidableEq, Repr

namespace Step

def execTypeNew := "0"
def execTypeCancel := "4"
def execTypeReject := "8"
def execTypeTrade := "F"

def ordStatusNew := "0"
def ordStatusPartFill := "1"
def ordStatusFill := "2"
def ordStatusCancel := "4"
def ordStatusReject := "8"

def msgTypeNewOrder := "D"
def msgTypeOrderCancel := "F"
def msgTypeExecReport := "8"
def msgTypeCancelReject := "9"

def sideBuyB := "B"
def sideBuy1 := "1"
def sideSellS := "S"
def sideSell2 := "2"
def sideCrt := "D"
def sideRdp := "E"

end Step

def tradeMarketSh := "101"
def tradeMarketSz := "102"

namespace SzErrCode

def c20001 := "20001"
def c20005 := "20005"
def c20007 := "20007"
def c20009 := "20009"
def c20022 := "20022"

end SzErrCode

namespace ShErrCode

def c203 := "203"
def c212 := "212"
def c215 := "215"
def c231 := "231"

end ShErrCode

end Simutgw
