import Simutgw.SzConnection
import Simutgw.ValidOrder

/-! One call of a validation thread on a received order, from the repeat check to the
match task: its return code and everything it leaves behind, for either market. -/

namespace Simutgw
open Logic

/-- What the threads share, as one call finds it or leaves it. -/
structure Shared where
  orderIds : OrderRepeatChecker.OrderIds
  matchPool : PriorityThreadPool
  cache : StockCache

/-- How a call ends: its code, what is shared then, the reports pushed to the outgoing
buffer, and the messages the library has sent. -/
structure Ended where
  code : Int
  shared : Shared
  pushed : List OrderMessage := []
  sent : List FixMessage := []

/-- Besides the setting of the validation, whether the library sends a message. -/
structure ValideSetting extends TaskValidOrder.Setting where
  sends : FixMessage → Bool

namespace StgwFixReport

/-- The refusal of a repeated order. Its sequence number and the source of its code are
fields no order keeps here. -/
def repeatRejectMsg (order : OrderMessage) : FixMessage :=
  Hash.set (fun _ => none)
    [("BeginString", order.beginString), ("MsgType", "j"), ("SenderCompID", order.targetCompID),
      ("TargetCompID", order.senderCompID), ("RefMsgType", order.msgType), ("ApplID", order.applID),
      ("TransactTime", order.transactTime), ("SecurityID", order.stockID), ("PartyID", order.securitySeat),
      ("PartyIDSource", "C"), ("PartyRole", "1"), ("BusinessRejectRefID", order.clOrdId),
      ("BusinessRejectReason", "20099"), ("Text", "order message repetition")]

/-- It is sent at once and always reported as done. -/
def sendSZRepeatRejectMsg (sends : FixMessage → Bool) (order : OrderMessage) : Int × List FixMessage :=
  (0, if sends (repeatRejectMsg order) then [repeatRejectMsg order] else [])

end StgwFixReport

namespace RecordNewOrderHelper

/-- The confirmation, the order's id and its match task, in this order. The results of
the first two are not looked at. -/
def recordInOrderToDbMatch (hash : String → Int) (order : OrderMessage) (shared : Shared) : Ended :=
  let orderIds := OrderRepeatChecker.recordOrderInRedis shared.orderIds order
  let (code, matchPool) := GenTaskHelper.assignMatch hash shared.matchPool order
  { code := if code < 0 then -1 else code
    shared := { shared with orderIds, matchPool }
    pushed := confirm order }

end RecordNewOrderHelper

/-- The record of an order whose validation lets it pass; the markets differ in what
they return where it fails. -/
def recordValided (hash : String → Int) (unrecorded : Int) (shared : Shared) (valided : Valided) : Ended :=
  let shared := { shared with cache := valided.cache }
  if valided.proceeds then
    let ended := RecordNewOrderHelper.recordInOrderToDbMatch hash valided.order shared
    { ended with
      code := if ended.code < 0 then unrecorded else 0
      pushed := valided.pushed ++ ended.pushed }
  else { code := -1, shared, pushed := valided.pushed }

namespace SzConnStepOrder

def valideRecordOrder (setting : ValideSetting) (order : OrderMessage) (shared : Shared) : Option Ended :=
  if setting.conns order.senderCompID ≠ some true then some { code := 0, shared }
  else (valide setting.env setting.conns order shared.cache).map (recordValided setting.hash (-1) shared)

end SzConnStepOrder

namespace ShConnDbfOrder

def valideRecordOrder (setting : ValideSetting) (order : OrderMessage) (shared : Shared) : Option Ended :=
  (valide setting.env order shared.cache).map (recordValided setting.hash 0 shared)

end ShConnDbfOrder

namespace TaskValidOrder
open OrderRepeatChecker

/-- The check for a repeat, which the pressure mode leaves out. -/
def isRepeat (orderIds : OrderIds) (order : OrderMessage) : Bool :=
  order.tradePolicy.runMode ≠ .pressureMode && checkIfRepeatOrder orderIds order

/-- The whole call. A repeat of Shanghai's is only logged. -/
def validateOrder (setting : ValideSetting) (order : OrderMessage) (shared : Shared) : Option Ended :=
  let returned (ended : Ended) : Ended := { ended with code := if ended.code < 0 then -1 else 0 }
  if order.isSz then
    if isRepeat shared.orderIds order then
      some { code := 1, shared, sent := (StgwFixReport.sendSZRepeatRejectMsg setting.sends order).2 }
    else (SzConnStepOrder.valideRecordOrder setting order shared).map returned
  else if order.isSh then
    if isRepeat shared.orderIds order then some { code := 1, shared }
    else (ShConnDbfOrder.valideRecordOrder setting order shared).map returned
  else some { code := 0, shared }

end TaskValidOrder
end Simutgw
