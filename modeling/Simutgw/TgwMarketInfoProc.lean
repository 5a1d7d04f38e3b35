import Simutgw.MarketInfoHelper

/-! The quotes as they come in. Each is compared with the one stored before it for
its security; the difference of their cumulative volumes is what the market may
trade with the orders until the next. -/

namespace Simutgw
open SofString TgwStringUtil Logic

/-- A decoded quote, with the fields the gateway stores. Volume and turnover are
those of the day so far. -/
structure AStockQuot where
  zqdm : String
  hqsj : String
  tpbz : String
  maxgain : UInt64
  minfall : UInt64
  zjjg : UInt64
  cjsl : UInt64
  cjje : UInt64
  sjw1 : UInt64
  ssl1 : UInt64
  bjw1 : UInt64
  bsl1 : UInt64
  originStr : String
  deriving DecidableEq

/-- The store: a hash for each security's last quote, and one for all that can be traded. -/
structure QuoteStore where
  quots : String → Hash String String := fun _ _ => none
  tradeVolume : Hash String String := fun _ => none
  isMarketTradeVolumnCreated : Bool := false

/-- The cumulative volume and turnover stored last, and their time. -/
structure PreviousQuot where
  cjsl : UInt64
  cjje : UInt64
  hqsj : String
  deriving DecidableEq

/-- Which commands of one quote the store answers. -/
structure Replies where
  hmget : Bool := true
  hmsetQuot : Bool := true
  expireQuot : Bool := true
  hmsetVolume : Bool := true
  expireVolume : Bool := true

namespace MarketInfoHelper

def getCurrentQuotationByStockId (store : QuoteStore) (answered : Bool) (stockID : String) : Option PreviousQuot :=
  if ¬ answered then none
  else
    match (store.quots stockID).get ["CJSL", "CJJE", "OrigTime"] with
    | [cjsl, cjje, hqsj] =>
      if cjsl.isEmpty || cjje.isEmpty || hqsj.isEmpty then none
      else some ⟨string2UInt64 cjsl, string2UInt64 cjje, hqsj⟩
    | _ => none

end MarketInfoHelper

namespace TgwMarketInfoProc
open MarketInfoHelper

/-- What a quote adds: a return code, the two differences and whether a quote was
stored before. -/
structure Gap where
  code : Int
  cjsl : UInt64 := 0
  cjje : UInt64 := 0
  isRecordBefore : Bool
  deriving DecidableEq

/-- The part after the comparison with what was stored. A suspended quote adds
nothing, whatever its volumes. -/
def gapFrom (previousCjsl previousCjje : UInt64) (quot : AStockQuot) (isRecordBefore : Bool) : Gap :=
  if quot.tpbz ≠ "F" then { code := 0, isRecordBefore }
  else
    let gapCjsl := quot.cjsl - previousCjsl
    let gapCjje := quot.cjje - previousCjje
    if previousCjsl > quot.cjsl ∨ previousCjje > quot.cjje then { code := -3, isRecordBefore }
    else if gapCjsl = 0 ∨ gapCjje = 0 then { code := 1, cjsl := gapCjsl, cjje := gapCjje, isRecordBefore }
    else { code := 0, cjsl := gapCjsl, cjje := gapCjje, isRecordBefore }

def calcQuotationGap (ptime : String → Option Int) (previous : Option PreviousQuot) (quot : AStockQuot) : Gap :=
  match previous with
  | none => gapFrom 0 0 quot false
  | some previous =>
    match compareTime ptime previous.hqsj quot.hqsj with
    | none => { code := -1, isRecordBefore := true }
    | some diff =>
      if diff = 0 then { code := 1, isRecordBefore := true }
      else if diff < 0 then { code := -2, isRecordBefore := true }
      else if previous.cjsl = quot.cjsl ∨ previous.cjje = quot.cjje then { code := 1, isRecordBefore := true }
      else gapFrom previous.cjsl previous.cjje quot true

/-- What is stored of the quote itself. -/
def quotFields (quot : AStockQuot) : List (String × String) :=
  [("maxgain", itostr quot.maxgain), ("minfall", itostr quot.minfall), ("ZJJG", itostr quot.zjjg),
    ("CJSL", itostr quot.cjsl), ("CJJE", itostr quot.cjje), ("SJW1", itostr quot.sjw1), ("SSL1", itostr quot.ssl1),
    ("BJW1", itostr quot.bjw1), ("BSL1", itostr quot.bsl1), ("ZQDM", quot.zqdm), ("OrigTime", quot.hqsj),
    ("TPBZ", quot.tpbz), ("OriginStr", quot.originStr)]

/-- What can be traded: the gap, the best prices with their volumes, the last price. -/
def volumeTexts (quot : AStockQuot) (gapCjsl gapCjje : UInt64) : List (String × String) :=
  [("maxgain", itostr quot.maxgain), ("minfall", itostr quot.minfall), ("TPBZ", quot.tpbz),
    ("CJSL", itostr gapCjsl), ("CJJE", itostr gapCjje), ("SJW1", itostr quot.sjw1), ("SSL1", itostr quot.ssl1),
    ("BJW1", itostr quot.bjw1), ("BSL1", itostr quot.bsl1), ("ZJJG", itostr quot.zjjg), ("OrigTime", quot.hqsj)]

/-- The same under the security's own fields of the hash all securities share. -/
def volumeFields (quot : AStockQuot) (gapCjsl gapCjje : UInt64) : List (String × String) :=
  (volumeTexts quot gapCjsl gapCjje).map fun pair => (liveField quot.zqdm pair.1, pair.2)

/-- The keys expire eight hours after they are made. A command the store does not
carry out ends the call. -/
def storeSelfUseQuotation (store : QuoteStore) (replies : Replies) (quot : AStockQuot) (gapCjsl gapCjje : UInt64)
    (isRecordBefore : Bool) : Int × QuoteStore :=
  if ¬ replies.hmsetQuot then (-1, store)
  else
    let store := { store with
      quots := Function.update store.quots quot.zqdm ((store.quots quot.zqdm).set (quotFields quot)) }
    if ¬ isRecordBefore ∧ ¬ replies.expireQuot then (-1, store)
    else if ¬ replies.hmsetVolume then (-1, store)
    else
      let store := { store with tradeVolume := store.tradeVolume.set (volumeFields quot gapCjsl gapCjje) }
      if ¬ store.isMarketTradeVolumnCreated ∧ ¬ replies.expireVolume then (-1, store)
      else (0, { store with isMarketTradeVolumnCreated := true })

/-- One round of the reading loop. A quote that is refused or brings nothing leaves the store alone. -/
def readRealMarketInfo (ptime : String → Option Int) (store : QuoteStore) (replies : Replies) (quot : AStockQuot) :
    Gap × QuoteStore :=
  let gap := calcQuotationGap ptime (getCurrentQuotationByStockId store replies.hmget quot.zqdm) quot
  if gap.code < 0 ∨ gap.code = 1 then (gap, store)
  else (gap, (storeSelfUseQuotation store replies quot gap.cjsl gap.cjje gap.isRecordBefore).2)

/-- A gap stored for the orders, and the volumes its quote was compared with. -/
structure Issue where
  previousCjsl : UInt64
  previousCjje : UInt64
  quot : AStockQuot
  gapCjsl : UInt64
  gapCjje : UInt64

/-- The store as the quotes of one security change it, the quotes it accepted and
the gaps it issued. -/
structure Feed where
  store : QuoteStore := {}
  accepted : List AStockQuot := []
  issued : List Issue := []

inductive Arrival where
  | quot (replies : Replies) (quot : AStockQuot)
  | expire

def storesVolume (replies : Replies) (isRecordBefore : Bool) : Bool :=
  replies.hmsetQuot && (isRecordBefore || replies.expireQuot) && replies.hmsetVolume

def arrive (ptime : String → Option Int) (feed : Feed) (replies : Replies) (quot : AStockQuot) : Feed :=
  let previous := getCurrentQuotationByStockId feed.store replies.hmget quot.zqdm
  let (gap, store) := readRealMarketInfo ptime feed.store replies quot
  { store
    accepted := feed.accepted ++ if gap.code = 0 ∧ replies.hmsetQuot then [quot] else []
    issued := feed.issued ++
      if gap.code = 0 ∧ storesVolume replies gap.isRecordBefore then
        [⟨(previous.map PreviousQuot.cjsl).getD 0, (previous.map PreviousQuot.cjje).getD 0, quot, gap.cjsl, gap.cjje⟩]
      else [] }

/-- The next quote of the security, or the end of its key's eight hours. -/
def step (ptime : String → Option Int) (zqdm : String) (feed : Feed) : Arrival → Option Feed
  | .quot replies quot => if quot.zqdm ≠ zqdm then none else some (arrive ptime feed replies quot)
  | .expire =>
    some { feed with store := { feed.store with quots := Function.update feed.store.quots zqdm fun _ => none } }

end TgwMarketInfoProc
end Simutgw
