import Simutgw.Proofs.CashCap

/-! How a preparation ends, and when one that fails has undone its freeze. A creation
asks for every component with the whole of its security, and then draws one after
another; it can stop where an earlier component has taken what a later one was promised. -/

namespace Simutgw.Proofs.FailedPreparation
open PreTrade UserStockHelper VolumeFreeze VolumeLedger Holdings Preparation FreezeUndone CreationFreeze CreationPaths CashCap

section Creation

variable {db : StockDb} {quot : StaticQuot} {account : String} {times : UInt64} {now : StockCache} {maxCash : Rat}
  {component : SzEtfComponent} {components : List SzEtfComponent} {pots : String → Pots}

/-- Shares are wanted of a component that its pots do not have. -/
def Lacks (times : UInt64) (pots : String → Pots) (component : SzEtfComponent) : Prop :=
  component.substituteFlag ≠ onlyCash ∧
    0 < (pots component.underlyingSecurityID).missing (wanted times component).toNat

/-- What is lacking may be bought, at an open quotation. -/
def Buyable (quot : StaticQuot) (component : SzEtfComponent) : Prop :=
  component.substituteFlag ≠ onlySecurity ∧ ∃ zrsp, quot component.underlyingSecurityID = some (zrsp, "F")

/-- What the asking lets through: components of shares are held, and what they lack can be
bought; and where cash is looked at, all that is taken off it leaves no debt. -/
structure Granted (db : StockDb) (quot : StaticQuot) (account : String) (times : UInt64) (cache : StockCache)
    (maxCash : Rat) (components : List SzEtfComponent) : Prop where
  held : ∀ component ∈ components, component.substituteFlag ≠ onlyCash →
    holding db cache account component.underlyingSecurityID ≠ none
  bought : ∀ component ∈ components, Lacks times (potsIn db account cache) component → Buyable quot component
  paid : (∃ component ∈ components,
      component.substituteFlag = onlyCash ∨ Lacks times (potsIn db account cache) component) →
    ((components.map fun component =>
      deducted quot times (potsIn db account cache component.underlyingSecurityID) component).sum : Rat) ≤ maxCash

/-- Some component lacks shares after those before it, though cash may stand in for them,
and nothing quotes it. -/
def Stalls (quot : StaticQuot) (times : UInt64) (pots : String → Pots) (components : List SzEtfComponent) : Prop :=
  ∃ earlier component later, components = earlier ++ component :: later ∧
    component.substituteFlag = securityAndCash ∧ quot component.underlyingSecurityID = none ∧
    Lacks times (earlier.foldl (drawnFrom times) pots) component

/-- A creation that is let through and stalls all the same. -/
def Stops (db : StockDb) (quot : StaticQuot) (cache : StockCache) (account : String) (etfQty : UInt64) (etf : SzEtf) :
    Prop :=
  Granted db quot account (creationTerms etf etfQty).times cache (creationTerms etf etfQty).maxCash etf.components ∧
    Stalls quot (creationTerms etf etfQty).times (potsIn db account cache) etf.components

end Creation

section Preparations

variable {env : Env} {order : OrderMessage} {db : StockDb} {cache : StockCache} {account : String}

/-- A fund with a unit, and a basket that is refused before anything is frozen or frozen
to its end. -/
def CreationUndone (env : Env) (cache : StockCache) (order : OrderMessage) (etf : SzEtf) : Prop :=
  etf.creationRedemptionUnit ≠ 0 ∧ (order.tradePolicy.checkAssets = true →
    ¬ Stops env.db env.staticQuot cache order.accountId order.orderqtyOrigin etf)

/-- A fund with a unit, and a holding that covers the redemption or has no bought shares. -/
def RedemptionUndone (env : Env) (cache : StockCache) (order : OrderMessage) (etf : SzEtf) : Prop :=
  etf.creationRedemptionUnit ≠ 0 ∧ (order.tradePolicy.checkAssets = true →
    ∀ volume, holding env.db cache order.accountId order.stockID = some volume →
      Restored volume .redemption order.leavesQty)

/-- What undoes the freeze of a preparation that fails, by the type it runs on. -/
def Undone (env : Env) (cache : StockCache) (order : OrderMessage) : Prop :=
  ∀ etf, env.etfs order.stockID = some etf → Admits order etf →
    match (getTradeType order).1 with
    | .etfCrt => CreationUndone env cache order etf
    | .etfRdp => RedemptionUndone env cache order etf
    | _ => True

end Preparations

end Simutgw.Proofs.FailedPreparation
