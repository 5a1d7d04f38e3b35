import Simutgw.Logic.Hash
import Simutgw.MatchUtil

/-! The fields of the quote store's hash that hold what a trade circle has left of
a security's volume, the write-back of a match, and how an order reads what is
left: from its circle where that was written on the current quote, from the quote
itself otherwise. -/

namespace Simutgw.MarketInfoHelper
open SofString TgwStringUtil Logic

def circleField (stockID name circle : String) : String :=
  stockID ++ "_" ++ name ++ "_" ++ circle

/-- The names of the volume and of the turnover or price beside it. An order buys
from the best sell and sells to the best buy. -/
def circleNames (quotationType : QuotationType) (order : OrderMessage) : String × String :=
  match quotationType with
  | .averagePrice => ("CJSL", "CJJE")
  | .sellBuyPrice =>
    if order.buys then ("SSL1", "SJW1")
    else if order.sells then ("BSL1", "BJW1")
    else ("", "")
  | .recentMatchPrice => ("CJSL", "ZJJG")

/-- The field an order of this quotation type reads its volume from. -/
def volumeField (quotationType : QuotationType) (order : OrderMessage) (circle : String) : String :=
  circleField order.stockID (circleNames quotationType order).1 circle

/-- The text beside the volume: the turnover left, or else the price it stands for. -/
def besideVolume (quotationType : QuotationType) (cjsl cjje : UInt64) : String :=
  match quotationType with
  | .averagePrice => itostr cjje
  | .sellBuyPrice | .recentMatchPrice => if cjsl ≠ 0 then itostr (cjje / cjsl) else "0"

/-- The fields and texts one command writes. The quotation type is the system's, not the order's. -/
def setCurrQuotGapByCircle (quotationType : QuotationType) (order : OrderMessage) (circle : String)
    (cjsl cjje : UInt64) (hqsj : String) : List (String × String) :=
  [(volumeField quotationType order circle, itostr cjsl),
    (circleField order.stockID (circleNames quotationType order).2 circle, besideVolume quotationType cjsl cjje),
    (circleField order.stockID "OrigTime" circle, hqsj)]

def liveField (stockID name : String) : String := stockID ++ "_" ++ name

/-- The fields a read asks for: the quote's, then the circle's. An order of a side
the type does not know asks for neither volume. -/
def gapFields (stockID circle : String) (names : Option (String × String)) : List String :=
  let volumes (field : String → String) : List String :=
    match names with
    | some names => [field names.1, field names.2]
    | none => []
  [liveField stockID "maxgain", liveField stockID "minfall"] ++ volumes (liveField stockID) ++
    [liveField stockID "OrigTime", liveField stockID "TPBZ"] ++ volumes (circleField stockID · circle) ++
    [circleField stockID "OrigTime" circle]

/-- The milliseconds from the first time to the second, by what the library makes
of a text: its microseconds, or nothing where it throws. -/
def compareTime (ptime : String → Option Int) (first last : String) : Option Int :=
  match ptime first, ptime last with
  | some first, some last => some ((last - first).tdiv 1000)
  | _, _ => none

/-- The body the three reads share. `turnover` makes the turnover of the volume and
of the text beside it. -/
def gapByCircle (ptime : String → Option Int) (turnover : UInt64 → UInt64 → UInt64) (hash : Hash String String)
    (stockID circle : String) (names : Option (String × String)) : Except Int Quote :=
  if stockID.isEmpty || circle.isEmpty then .error 1
  else
    match hash.get (gapFields stockID circle names) with
    | [maxGain, minFall, liveCjsl, liveBeside, liveHqsj, tpbz, circleCjsl, circleBeside, circleHqsj] =>
      let taken (cjsl beside hqsj : String) : Quote := {
        maxGain := string2UInt64 maxGain
        minFall := string2UInt64 minFall
        cjsl := string2UInt64 cjsl
        cjje := turnover (string2UInt64 cjsl) (string2UInt64 beside)
        hqsj
        tpbz }
      if liveCjsl.isEmpty || liveBeside.isEmpty || liveHqsj.isEmpty || tpbz.isEmpty then .error (-1)
      else if circleCjsl.isEmpty || circleBeside.isEmpty || circleHqsj.isEmpty then
        .ok (taken liveCjsl liveBeside liveHqsj)
      else
        match compareTime ptime circleHqsj liveHqsj with
        | none => .error (-1)
        | some diff =>
          if diff = 0 then .ok (taken circleCjsl circleBeside circleHqsj)
          else .ok (taken liveCjsl liveBeside liveHqsj)
    | _ => .error (-1)

def getCurrQuotGapByCircleAveragePrice (ptime : String → Option Int) (hash : Hash String String)
    (stockID circle : String) : Except Int Quote :=
  gapByCircle ptime (fun _ cjje => cjje) hash stockID circle (some ("CJSL", "CJJE"))

def getCurrQuotGapByCircleSellBuyPrice (ptime : String → Option Int) (hash : Hash String String)
    (order : OrderMessage) (circle : String) : Except Int Quote :=
  gapByCircle ptime (fun cjsl cjjg => cjjg * cjsl) hash order.stockID circle
    (if order.buys then some ("SSL1", "SJW1") else if order.sells then some ("BSL1", "BJW1") else none)

def getCurrQuotGapByCircleRecentPrice (ptime : String → Option Int) (hash : Hash String String)
    (stockID circle : String) : Except Int Quote :=
  gapByCircle ptime (fun cjsl cjjg => cjjg * cjsl) hash stockID circle (some ("CJSL", "ZJJG"))

/-- The read of an order, by its own policy's quotation type. -/
def getCurrQuotGapByCircle (ptime : String → Option Int) (hash : Hash String String) (order : OrderMessage)
    (circle : String) (quotationType : QuotationType) : Except Int Quote :=
  if order.stockID.isEmpty || circle.isEmpty then .error 1
  else
    match quotationType with
    | .averagePrice => getCurrQuotGapByCircleAveragePrice ptime hash order.stockID circle
    | .sellBuyPrice => getCurrQuotGapByCircleSellBuyPrice ptime hash order circle
    | .recentMatchPrice => getCurrQuotGapByCircleRecentPrice ptime hash order.stockID circle

end Simutgw.MarketInfoHelper
