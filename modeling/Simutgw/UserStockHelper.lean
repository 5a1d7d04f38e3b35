import Simutgw.Etf
import Simutgw.UserStockVolume

/-! The holdings of every account, loaded from the database on first use, and
what an order does to them when it is frozen, filled or cancelled. A result of
`none` is a null pointer the source would follow. -/

namespace Simutgw

/-- A row of the database's holdings. -/
structure UserStockInfo where
  stk : UInt64
  actPch : UInt64
  stpPch : UInt64
  etfRdp : UInt64
  crt : UInt64
  avl : UInt64
  last : UInt64

/-- What the database answers for an account and a security. -/
abbrev StockDb := String → String → Option UserStockInfo

/-- `g_mapUserStock`: the holdings in memory by account and security. -/
abbrev StockCache := String → String → Option UserStockVolume

namespace StockCache

def store (cache : StockCache) (account stockID : String) (volume : UserStockVolume) : StockCache :=
  fun otherAccount otherStock =>
    if otherAccount = account ∧ otherStock = stockID then some volume else cache otherAccount otherStock

@[simp] theorem store_same (cache : StockCache) (account stockID : String) (volume : UserStockVolume) :
    cache.store account stockID volume account stockID = some volume := by
  simp [store]

theorem store_other (cache : StockCache) {account stockID otherAccount otherStock : String} (volume : UserStockVolume)
    (different : ¬ (otherAccount = account ∧ otherStock = stockID)) :
    cache.store account stockID volume otherAccount otherStock = cache otherAccount otherStock := by
  simp [store, different]

@[simp] theorem store_store (cache : StockCache) (account stockID : String) (volume later : UserStockVolume) :
    (cache.store account stockID volume).store account stockID later = cache.store account stockID later := by
  funext otherAccount otherStock
  simp only [store]
  split <;> rfl

end StockCache

namespace UserStockHelper
open UserStockVolume

/-- A freeze's return code and output arguments, and the holdings. -/
structure Frozen where
  code : Int
  first : UInt64
  avl : UInt64
  cache : StockCache

structure Changed where
  code : Int
  cache : StockCache

/-- The order and the holdings after an update. -/
structure Updated where
  code : Int
  order : OrderMessage
  cache : StockCache

def loadUserStockFromDBAndStore (db : StockDb) (cache : StockCache) (account stockID : String) :
    StockCache × Option UserStockVolume :=
  match db account stockID with
  | none => (cache, none)
  | some info =>
    let volume := create true info.stk info.actPch info.stpPch info.etfRdp info.crt info.avl info.last
    (cache.store account stockID volume, some volume)

/-- The entry, from memory or else from the database; `none` is the source's -1. -/
def lookUp (db : StockDb) (cache : StockCache) (account stockID : String) : StockCache × Option UserStockVolume :=
  match cache account stockID with
  | some volume => (cache, some volume)
  | none => loadUserStockFromDBAndStore db cache account stockID

/-- The body of the four freezes. Without a holding the output arguments keep
what the caller had in them. -/
def frozeWith (froze : UserStockVolume → UInt64 → Drawn) (db : StockDb) (cache : StockCache)
    (account stockID : String) (amount first avl : UInt64) : Frozen :=
  match lookUp db cache account stockID with
  | (cache, none) => ⟨-1, first, avl, cache⟩
  | (cache, some volume) =>
    let drawn := froze volume amount
    ⟨drawn.code, drawn.first, drawn.avl, cache.store account stockID drawn.volume⟩

/-- The body of the four confirms and of the releases. -/
def settleWith (settle : UserStockVolume → UInt64 → UInt64 → UserStockVolume.Changed) (db : StockDb)
    (cache : StockCache) (account stockID : String) (first avl : UInt64) : Changed :=
  match lookUp db cache account stockID with
  | (cache, none) => ⟨-1, cache⟩
  | (cache, some volume) =>
    let changed := settle volume first avl
    ⟨changed.code, cache.store account stockID changed.volume⟩

/-- The body of the three additions: an unknown holding starts empty, unstored. -/
def addWith (add : UserStockVolume → UInt64 → UserStockVolume) (db : StockDb) (cache : StockCache)
    (account stockID : String) (num : UInt64) : Changed :=
  match lookUp db cache account stockID with
  | (cache, none) => ⟨0, cache.store account stockID (add (create false 0 0 0 0 0 0 0) num)⟩
  | (cache, some volume) => ⟨0, cache.store account stockID (add volume num)⟩

def sellFroze := frozeWith UserStockVolume.sellFroze
def sellConfirm := settleWith UserStockVolume.sellConfirm
def sellEtfFroze := frozeWith UserStockVolume.sellEtfFroze
def sellEtfConfirm := settleWith UserStockVolume.sellEtfConfirm
def creationFroze := frozeWith UserStockVolume.creationFroze
def creationConfirm := settleWith UserStockVolume.creationConfirm
def redemptionFroze := frozeWith UserStockVolume.redemptionFroze
def redemptionConfirm := settleWith UserStockVolume.redemptionConfirm
def addAct := addWith UserStockVolume.addAct
def addCrt := addWith UserStockVolume.addCrt
def addRdp := addWith UserStockVolume.addRdp

/-- The body of the synchronisations of a holding that must have a row: the
counters are marked as written and the statement is handed to the writer, which
cannot refuse it. -/
def synWith (syn : UserStockVolume → Synced) (cache : StockCache) (account stockID : String) : Option Changed :=
  match cache account stockID with
  | none => none
  | some volume => some ⟨0, cache.store account stockID (syn volume).volume⟩

/-- The body of those that insert the row when there is none. -/
def synStoredWith (syn : UserStockVolume → Synced) (cache : StockCache) (account stockID : String) : Option Changed :=
  match cache account stockID with
  | none => none
  | some volume => some ⟨0, cache.store account stockID { (syn volume).volume with stored := true }⟩

def sellSyn := synWith UserStockVolume.sellDBSyn
def sellEtfSyn := synWith UserStockVolume.sellEtfDBSyn
def addSyn := synStoredWith UserStockVolume.addActSyn
def addEtfSyn := synStoredWith UserStockVolume.addEtfSyn
def crtEtfSyn := synStoredWith UserStockVolume.creationEtfDBSyn
def crtComponentSyn := synWith UserStockVolume.creationComponentDBSyn
def rdpEtfSyn := synWith UserStockVolume.rdpEtfSyn
def rdpComponentSyn := synStoredWith UserStockVolume.addRdpComponentSyn

/-- Only the normal mode writes to the database; its result replaces the code. -/
def recorded (order : OrderMessage) (changed : Changed) (stockID : String)
    (syn : StockCache → String → String → Option Changed) : Option Changed :=
  if order.tradePolicy.runMode = .normalMode then syn changed.cache order.accountId stockID else some changed

/-- How a fill is taken from an ordinary sell's reserve: the redeemed part, the
available part, and what is left. -/
def sellSplit (order : OrderMessage) : UInt64 × UInt64 × SellCps :=
  let cps := order.sellCps
  if order.orderqtyMatched ≤ cps.etfRdp + cps.avl then
    if order.orderqtyMatched ≤ cps.etfRdp then
      (order.orderqtyMatched, 0, { cps with etfRdp := cps.etfRdp - order.orderqtyMatched })
    else
      let second := order.orderqtyMatched - cps.etfRdp
      (cps.etfRdp, second, { etfRdp := 0, avl := cps.avl - second })
  else (cps.etfRdp, cps.avl, { etfRdp := 0, avl := 0 })

/-- The same for the sell of an ETF. The last branch reads the ordinary reserve. -/
def sellEtfSplit (order : OrderMessage) : UInt64 × UInt64 × SellEtfCps :=
  let cps := order.sellEtfCps
  if order.orderqtyMatched < cps.etfCrt + cps.avl then
    if order.orderqtyMatched < cps.etfCrt then
      (order.orderqtyMatched, 0, { cps with etfCrt := cps.etfCrt - order.orderqtyMatched })
    else
      let second := order.orderqtyMatched - cps.etfCrt
      (cps.etfCrt, second, { etfCrt := 0, avl := cps.avl - second })
  else (order.sellCps.etfRdp, order.sellCps.avl, { etfCrt := 0, avl := 0 })

/-- The holdings' part of an update and the order it leaves. -/
def settled (order : OrderMessage) (changed : Option Changed) : Option Updated :=
  changed.map fun changed => ⟨if changed.code ≠ 0 then -1 else 0, order, changed.cache⟩

def updateTrade (db : StockDb) (cache : StockCache) (order : OrderMessage) : Option Updated :=
  if order.tradePolicy.checkAssets = false then some ⟨0, order, cache⟩
  else
    match order.tradeType with
    | .aTrade | .bTrade =>
      if order.sells then
        let (first, second, left) := sellSplit order
        let order := { order with sellCps := left }
        let confirmed := sellConfirm db cache order.accountId order.stockID first second
        settled order (recorded order confirmed order.stockID sellSyn)
      else if order.buys then
        let added := addAct db cache order.accountId order.stockID order.orderqtyMatched
        settled order (recorded order added order.stockID addSyn)
      else settled order (some ⟨0, cache⟩)
    | .etfSell =>
      let (first, second, left) := sellEtfSplit order
      let order := { order with sellEtfCps := left }
      let confirmed := sellEtfConfirm db cache order.accountId order.stockID first second
      settled order (recorded order confirmed order.stockID sellEtfSyn)
    | .etfBuy =>
      let added := addAct db cache order.accountId order.stockID order.orderqtyMatched
      settled order (recorded order added order.stockID addEtfSyn)
    | _ => settled order (some ⟨0, cache⟩)

/-- The code the settlement leaves out of a basket. -/
def cashSecurityID := "159900"

/-- One round of the creation's loop: the component's frozen shares are confirmed
and the result is not looked at. -/
def confirmComponent (db : StockDb) (order : OrderMessage) (cache : StockCache)
    (component : EtfCrtFrozeComponent) : Option StockCache :=
  if component.securityID = cashSecurityID then some cache
  else if order.tradePolicy.checkAssets then
    let confirmed := creationConfirm db cache order.accountId component.securityID
      component.actPchCount component.avlCount
    (recorded order confirmed component.securityID crtComponentSyn).map Changed.cache
  else some cache

/-- One round of the redemption's loop: the component's shares are added. -/
def addComponent (db : StockDb) (order : OrderMessage) (cache : StockCache)
    (component : EtfCrtFrozeComponent) : Option StockCache :=
  if component.securityID = cashSecurityID then some cache
  else if order.tradePolicy.checkAssets then
    let added := addRdp db cache order.accountId component.securityID component.rdpCount
    (recorded order added component.securityID rdpComponentSyn).map Changed.cache
  else some cache

def updateETFCrtRdp (db : StockDb) (cache : StockCache) (order : OrderMessage) : Option Updated :=
  match order.tradeType with
  | .etfCrt => do
    let cache ← order.frozeComponents.foldlM (confirmComponent db order) cache
    if order.tradePolicy.checkAssets then
      let added := addCrt db cache order.accountId order.stockID order.orderqtyMatched
      let recorded ← recorded order added order.stockID crtEtfSyn
      some ⟨0, order, recorded.cache⟩
    else some ⟨0, order, cache⟩
  | .etfRdp => do
    let cache ←
      if order.tradePolicy.checkAssets then
        let confirmed := redemptionConfirm db cache order.accountId order.stockID
          order.rdpEtfCps.actPch order.rdpEtfCps.avl
        (recorded order confirmed order.stockID rdpEtfSyn).map Changed.cache
      else some cache
    let cache ← order.frozeComponents.foldlM (addComponent db order) cache
    some ⟨0, order, cache⟩
  | _ => some ⟨0, order, cache⟩

/-- The release of one of the two reserves, straight on the entry in memory. The
order's own record of the reserve is not touched. -/
def updateCancel (cache : StockCache) (order : OrderMessage) : Option Updated :=
  let release (deFroze : UserStockVolume → UInt64 → UInt64 → UserStockVolume.Changed) (first avl : UInt64) :
      Option Changed :=
    (cache order.accountId order.stockID).map fun volume =>
      let changed := deFroze volume first avl
      ⟨changed.code, cache.store order.accountId order.stockID changed.volume⟩
  if order.tradePolicy.checkAssets = false then some ⟨0, order, cache⟩
  else if order.leavesQty = 0 then some ⟨0, order, cache⟩
  else
    match order.tradeType with
    | .aTrade | .bTrade =>
      if order.sells then
        settled order (release UserStockVolume.sellDeFroze order.sellCps.etfRdp order.sellCps.avl)
      else some ⟨0, order, cache⟩
    | .etfSell => settled order (release UserStockVolume.sellEtfDeFroze order.sellEtfCps.etfCrt order.sellEtfCps.avl)
    | _ => some ⟨0, order, cache⟩

def updateAfterTrade (db : StockDb) (cache : StockCache) (order : OrderMessage) : Option Updated :=
  if order.isSz then
    if order.applID = "010" then updateTrade db cache order
    else if order.applID = "120" then updateETFCrtRdp db cache order
    else some ⟨0, order, cache⟩
  else if order.isSh then updateTrade db cache order
  else some ⟨0, order, cache⟩

/-- A cancelled creation or redemption releases nothing. -/
def updateAfterCancel (cache : StockCache) (order : OrderMessage) : Option Updated :=
  if order.isSz then
    if order.applID = "010" then updateCancel cache order
    else some ⟨0, order, cache⟩
  else if order.isSh then updateCancel cache order
  else some ⟨0, order, cache⟩

/-- What the static quotation of a security answers: its closing price and its
suspension flag. -/
abbrev StaticQuot := String → Option (UInt64 × String)

/-- A creation's arithmetic: the baskets asked for and the cash that may stand in
for missing shares. -/
structure CreationTerms where
  times : UInt64
  maxCash : Rat

def creationTerms (etf : SzEtf) (etfQty : UInt64) : CreationTerms where
  times := etfQty / etf.creationRedemptionUnit
  maxCash := ((etfQty * etf.creationRedemptionUnit * etf.navPerCU).toNat : Rat) * etf.maxCashRatio

/-- One round of the creation's first loop, which only asks. It fails, or leaves
the cash still available. -/
def queryComponent (db : StockDb) (quot : StaticQuot) (account : String) (times : UInt64)
    (state : StockCache × Rat) (component : SzEtfComponent) : StockCache × Option Rat :=
  let (cache, maxCash) := state
  if component.substituteFlag = onlyCash then
    (cache, if 0 > maxCash then none else some maxCash)
  else
    match lookUp db cache account component.underlyingSecurityID with
    | (cache, none) => (cache, none)
    | (cache, some volume) =>
      let asked := volume.creationQuery (times * component.componentShare)
      if asked.code = 0 then (cache, some maxCash)
      else if component.substituteFlag = onlySecurity then (cache, none)
      else
        match quot component.underlyingSecurityID with
        | none => (cache, none)
        | some (zrsp, tpbz) =>
          if tpbz ≠ "F" then (cache, none)
          else
            let left := maxCash - (((times * component.componentShare - asked.max) * zrsp).toNat : Rat)
            (cache, if 0 > left then none else some left)

def queryComponents (db : StockDb) (quot : StaticQuot) (account : String) (times : UInt64) :
    StockCache → Rat → List SzEtfComponent → Int × StockCache
  | cache, _, [] => (0, cache)
  | cache, maxCash, component :: rest =>
    match queryComponent db quot account times (cache, maxCash) component with
    | (cache, none) => (-1, cache)
    | (cache, some maxCash) => queryComponents db quot account times cache maxCash rest

/-- The cash recorded for the missing shares of a component. -/
def substituteCash (missing zrsp : UInt64) (premiumRatio : Rat) : UInt64 :=
  missing * UInt64.ofNat ((zrsp.toNat : Rat) * (1 + premiumRatio)).floor.toNat

/-- One round of the creation's second loop, which freezes. A refused freeze is
recorded with the amounts it reported. -/
def frozeComponent (db : StockDb) (quot : StaticQuot) (account : String) (times : UInt64) (cache : StockCache)
    (component : SzEtfComponent) : Option (StockCache × Option EtfCrtFrozeComponent) :=
  let record : EtfCrtFrozeComponent := { securityID := component.underlyingSecurityID }
  if component.substituteFlag = onlyCash then
    some (cache, some { record with cash := times * component.creationCashSubstitute })
  else
    match lookUp db cache account component.underlyingSecurityID with
    | (_, none) => none
    | (cache, some volume) =>
      let wanted := times * component.componentShare
      let drawn := volume.creationFroze wanted
      let cache := cache.store account component.underlyingSecurityID drawn.volume
      let record := { record with actPchCount := drawn.first, avlCount := drawn.avl }
      if drawn.code ≠ 0 ∧ component.substituteFlag = securityAndCash then
        match quot component.underlyingSecurityID with
        | none => some (cache, none)
        | some (zrsp, _) =>
          some (cache, some { record with
            cash := substituteCash (wanted - drawn.first - drawn.avl) zrsp component.premiumRatio })
      else some (cache, some record)

def frozeComponents (db : StockDb) (quot : StaticQuot) (account : String) (times : UInt64) :
    StockCache → List EtfCrtFrozeComponent → List SzEtfComponent →
      Option (Int × StockCache × List EtfCrtFrozeComponent)
  | cache, done, [] => some (0, cache, done)
  | cache, done, component :: rest =>
    match frozeComponent db quot account times cache component with
    | none => none
    | some (cache, none) => some (-1, cache, done)
    | some (cache, some record) => frozeComponents db quot account times cache (done ++ [record]) rest

/-- Asks for every component, then freezes every component. A zero unit ends the
process. -/
def creationQuery (db : StockDb) (quot : StaticQuot) (cache : StockCache) (account : String) (etfQty : UInt64)
    (etf : SzEtf) (components : List EtfCrtFrozeComponent) :
    Option (Int × StockCache × List EtfCrtFrozeComponent) :=
  if etf.creationRedemptionUnit = 0 then none
  else
    let terms := creationTerms etf etfQty
    match queryComponents db quot account terms.times cache terms.maxCash etf.components with
    | (0, cache) => frozeComponents db quot account terms.times cache components etf.components
    | (_, cache) => some (-1, cache, components)

end UserStockHelper
end Simutgw
