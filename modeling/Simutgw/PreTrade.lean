import Simutgw.MatchUtil
import Simutgw.UserStockHelper

/-! What an order goes through before it is queued: its trade type is settled,
the quote is consulted, and the shares it needs are frozen. -/

namespace Simutgw.PreTrade
open UserStockHelper

/-- What the preparation asks of the rest of the system: the holdings' database,
the latest quote of a security in a circle, the ETF table and the static quotes. -/
structure Env where
  db : StockDb
  quot : String → String → Option Quote
  etfs : String → Option SzEtf
  staticQuot : StaticQuot

structure Prepared where
  code : Int
  order : OrderMessage
  cache : StockCache

/-- The heads of the codes taken for exchange-traded funds. -/
def isEtfCode (stockID : String) : Bool :=
  let head := String.ofList (stockID.toList.take 2)
  head == "15" || head == "16" || head == "18" || head == "50" || head == "51"

/-- The type the switch runs on, and the order with the type noted on it. A code
that is not six characters long is left without a type. -/
def getTradeType (order : OrderMessage) : TadeType × OrderMessage :=
  if order.stockID.length ≠ 6 then (.error, order)
  else
    let etf := isEtfCode order.stockID
    let type : TadeType :=
      if order.buys then if etf then .etfBuy else .aTrade
      else if order.sells then if etf then .etfSell else .aTrade
      else if order.side = "D" then if etf then .etfCrt else .error
      else if order.side = "E" then if etf then .etfRdp else .error
      else .error
    let type := if order.msgType = Step.msgTypeOrderCancel then .cancel else type
    (type, { order with tradeType := type })

def checkTPBZ := MatchUtil.checkTPBZ
def checkMaxGainAndMinFall := MatchUtil.checkMaxGainAndMinFall

/-- The order types that name a price. -/
def namesPrice (order : OrderMessage) : Bool :=
  order.ordType == "2" || order.ordType == "LPT" || order.ordType == "LRZ" || order.ordType == "LRQ"

/-- An order whose quote cannot be read passes. -/
def checkOrderByQuotation (env : Env) (order : OrderMessage) : Int × OrderMessage :=
  match env.quot order.stockID (MatchUtil.getOrderCircleID order) with
  | none => (0, order)
  | some quote =>
    match checkTPBZ order quote.tpbz with
    | (-1, order) => (-1, order)
    | (_, order) =>
      if namesPrice order then checkMaxGainAndMinFall order quote.maxGain quote.minFall else (0, order)

def validateETF (env : Env) (order : OrderMessage) : Int × OrderMessage :=
  let order := order.markedAs .notMatch
  match env.etfs order.stockID with
  | none => (-1, order)
  | some etf =>
    let allowed := if order.side = "D" then etf.creation else etf.redemption
    if allowed = false then (-1, order.markedAs .errorMatch)
    else if etf.creationRedemptionUnit > order.orderqtyOrigin then (-1, order.markedAs .errorMatch)
    else (0, order)

/-- The components of a basket noted without a freeze, for a creation. -/
def addCreationComponent (order : OrderMessage) (etf : SzEtf) : Option OrderMessage :=
  if etf.creationRedemptionUnit = 0 then none
  else
    let times := order.orderqtyOrigin / etf.creationRedemptionUnit
    some { order with frozeComponents := order.frozeComponents ++ etf.components.map fun component =>
      { securityID := component.underlyingSecurityID
        actPchCount := component.componentShare * times
        avlCount := 0
        cash := component.redemptionCashSubstitute * times } }

/-- The components a redemption will add. -/
def addRedeptionComponent (order : OrderMessage) (etf : SzEtf) : Option OrderMessage :=
  if etf.creationRedemptionUnit = 0 then none
  else
    let times := order.orderqtyOrigin / etf.creationRedemptionUnit
    some { order with frozeComponents := order.frozeComponents ++ etf.components.map fun component =>
      { securityID := component.underlyingSecurityID
        rdpCount := component.componentShare * times
        cash := component.redemptionCashSubstitute * times } }

/-- The last lines of the preparation: a failure marks the order. -/
def finish (code : Int) (order : OrderMessage) (cache : StockCache) : Option Prepared :=
  if code ≠ 0 then some ⟨code, order.markedAs .errorMatch, cache⟩ else some ⟨code, order, cache⟩

/-- The freeze of an ordinary sell, noted on the order. -/
def frozeSell (env : Env) (order : OrderMessage) (cache : StockCache) : Option Prepared :=
  if order.tradePolicy.checkAssets ∧ order.sells then
    let frozen := sellFroze env.db cache order.accountId order.stockID order.leavesQty
      order.sellCps.etfRdp order.sellCps.avl
    finish frozen.code { order with sellCps := ⟨frozen.first, frozen.avl⟩ } frozen.cache
  else finish 0 order cache

/-- The freeze of an ETF's sell, noted on the order. -/
def frozeSellEtf (env : Env) (order : OrderMessage) (cache : StockCache) : Option Prepared :=
  if order.tradePolicy.checkAssets then
    let frozen := sellEtfFroze env.db cache order.accountId order.stockID order.leavesQty
      order.sellEtfCps.etfCrt order.sellEtfCps.avl
    finish frozen.code { order with sellEtfCps := ⟨frozen.first, frozen.avl⟩ } frozen.cache
  else finish 0 order cache

/-- The quote's verdict first, where the order is matched against quotes. -/
def afterQuotation (env : Env) (order : OrderMessage) (cache : StockCache)
    (froze : OrderMessage → StockCache → Option Prepared) : Option Prepared :=
  if order.tradePolicy.matchMode = .enAbleQuta then
    match checkOrderByQuotation env order with
    | (0, order) => froze order cache
    | (_, order) => some ⟨-2, order, cache⟩
  else froze order cache

def prepCreation (env : Env) (order : OrderMessage) (cache : StockCache) : Option Prepared :=
  match validateETF env order with
  | (0, order) =>
    match env.etfs order.stockID with
    | none => some ⟨-1, order.markedAs .errorMatch, cache⟩
    | some etf =>
      if order.tradePolicy.checkAssets then do
        let (code, cache, components) ← creationQuery env.db env.staticQuot cache order.accountId
          order.orderqtyOrigin etf order.frozeComponents
        finish code { order with frozeComponents := components } cache
      else do
        let order ← addCreationComponent order etf
        finish 0 order cache
  | (_, order) => some ⟨-1, order, cache⟩

def prepRedemption (env : Env) (order : OrderMessage) (cache : StockCache) : Option Prepared :=
  match validateETF env order with
  | (0, order) =>
    match env.etfs order.stockID with
    | none => some ⟨-1, order.markedAs .errorMatch, cache⟩
    | some etf =>
      if order.tradePolicy.checkAssets then do
        let frozen := redemptionFroze env.db cache order.accountId order.stockID order.leavesQty
          order.rdpEtfCps.actPch order.rdpEtfCps.avl
        let order ← addRedeptionComponent { order with rdpEtfCps := ⟨frozen.first, frozen.avl⟩ } etf
        finish frozen.code order frozen.cache
      else do
        let order ← addRedeptionComponent order etf
        finish 0 order cache
  | (_, order) => some ⟨-1, order, cache⟩

def tradePrep (env : Env) (order : OrderMessage) (cache : StockCache) : Option Prepared :=
  match getTradeType order with
  | (.error, order) => some ⟨-1, order, cache⟩
  | (.aTrade, order) | (.bTrade, order) | (.etfBuy, order) => afterQuotation env order cache (frozeSell env)
  | (.etfSell, order) => afterQuotation env order cache (frozeSellEtf env)
  | (.etfCrt, order) => prepCreation env order cache
  | (.etfRdp, order) => prepRedemption env order cache
  | (_, order) => finish 0 order cache

end Simutgw.PreTrade
