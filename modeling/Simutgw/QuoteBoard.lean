import Simutgw.TgwMarketInfoProc

/-! The quotes of all securities and the matches on them, as the hash of what can be
traded sees them. A match reads what its circle has left and later writes back the
rest under the quote it read, and other matches and quotes may come in between. -/

namespace Simutgw.QuoteBoard
open MarketInfoHelper Logic

/-- The volumes an order can be matched against, each with the text beside it. -/
inductive View where
  | interval
  | bestSell
  | bestBuy
  | recent
  deriving DecidableEq, Repr

def View.names : View → String × String
  | .interval => ("CJSL", "CJJE")
  | .bestSell => ("SSL1", "SJW1")
  | .bestBuy => ("BSL1", "BJW1")
  | .recent => ("CJSL", "ZJJG")

/-- What an order is matched against. Only the best prices tell the sides apart. -/
def viewOf (quotationType : QuotationType) (order : OrderMessage) : Option View :=
  match quotationType with
  | .averagePrice => some .interval
  | .sellBuyPrice => if order.buys then some .bestSell else if order.sells then some .bestBuy else none
  | .recentMatchPrice => some .recent

/-- The turnover of a volume. Beside the interval's volume stands the turnover
itself, beside the others a price. -/
def View.turnover (view : View) (cjsl beside : UInt64) : UInt64 :=
  match view with
  | .interval => beside
  | .bestSell | .bestBuy | .recent => beside * cjsl

/-- What a match leaves beside the volume it writes back. -/
def View.beside (view : View) (cjsl cjje : UInt64) : UInt64 :=
  match view with
  | .interval => cjje
  | .bestSell | .bestBuy | .recent => if cjsl ≠ 0 then cjje / cjsl else 0

/-- A quote that was let through, with the gap it was stored with. -/
structure Live where
  quot : AStockQuot
  gapCjsl : UInt64
  gapCjje : UInt64

/-- The capacity a quote itself brings. -/
def Live.capacity (live : Live) : View → UInt64 × UInt64
  | .interval => (live.gapCjsl, live.gapCjje)
  | .bestSell => (live.quot.ssl1, live.quot.sjw1)
  | .bestBuy => (live.quot.bsl1, live.quot.bjw1)
  | .recent => (live.gapCjsl, live.quot.zjjg)

/-- An order between its read and its write-back. -/
structure Matching where
  order : OrderMessage
  circle : String
  quote : Quote

/-- The store, the matches under way, and for the record: the last quote stored of
each security, and what matches have written back on it for each circle. -/
structure Board where
  store : QuoteStore := {}
  matching : Nat → Option Matching := fun _ => none
  live : String → Option Live := fun _ => none
  written : String → String → View → Option (UInt64 × UInt64) := fun _ _ _ => none

inductive Event where
  | quot (quot : AStockQuot)
  | read (id : Nat) (order : OrderMessage) (circle : String)
  | write (id : Nat) (systemType : QuotationType) (cjsl cjje : UInt64)

def quoted (ptime : String → Option Int) (board : Board) (quot : AStockQuot) : Board :=
  let (gap, store) := TgwMarketInfoProc.readRealMarketInfo ptime board.store {} quot
  if gap.code = 0 then
    { board with
      store
      live := Function.update board.live quot.zqdm (some ⟨quot, gap.cjsl, gap.cjje⟩)
      written := Function.update board.written quot.zqdm fun _ _ => none }
  else { board with store }

/-- An order that reads no quote is not matched. -/
def read (ptime : String → Option Int) (board : Board) (id : Nat) (order : OrderMessage) (circle : String) : Board :=
  match getCurrQuotGapByCircle ptime board.store.tradeVolume order circle order.tradePolicy.quotationMatchType with
  | .error _ => board
  | .ok quote => { board with matching := Function.update board.matching id (some ⟨order, circle, quote⟩) }

/-- What a match writes back counts for the record where the quote it read is still
the security's last. -/
def writtenBack (board : Board) (matching : Matching) (cjsl cjje : UInt64) :
    String → String → View → Option (UInt64 × UInt64) :=
  let order := matching.order
  if ((board.live order.stockID).map fun live => live.quot.hqsj) = some matching.quote.hqsj then
    fun stockID circle view =>
      if stockID = order.stockID ∧ circle = matching.circle ∧
          viewOf order.tradePolicy.quotationMatchType order = some view then
        some (cjsl, view.beside cjsl cjje)
      else board.written stockID circle view
  else board.written

def write (board : Board) (id : Nat) (systemType : QuotationType) (cjsl cjje : UInt64) : Option Board :=
  (board.matching id).map fun matching =>
    { board with
      store := { board.store with
        tradeVolume := board.store.tradeVolume.set
          (setCurrQuotGapByCircle systemType matching.order matching.circle cjsl cjje matching.quote.hqsj) }
      matching := Function.update board.matching id none
      written := writtenBack board matching cjsl cjje }

def step (ptime : String → Option Int) (board : Board) : Event → Option Board
  | .quot quot => some (quoted ptime board quot)
  | .read id order circle => some (read ptime board id order circle)
  | .write id systemType cjsl cjje => write board id systemType cjsl cjje

end Simutgw.QuoteBoard
