import Simutgw.ProcCancelOrder
import Simutgw.TaskPriorityQueue
import Simutgw.UserStockHelper

/-! The run of a cancel: the order is looked up in the worker's own queue, taken
out, reported as cancelled, and what it had frozen is released. -/

namespace Simutgw.TaskCancelOrder
open OutMemoryManage UserStockHelper

/-- A cancel's effects: the queue, the holdings, what was pushed, and the order it
took out, as the cancel left it. -/
structure Cancelled where
  queue : TaskPriorityQueue
  cache : StockCache
  pushed : List OrderMessage
  order : Option OrderMessage := none

/-- The cancel takes every task it finds for an ordinary match. -/
def downcasts (task : Task) : Bool := task.kind == .aBStockMatch

/-- A cancel that was pushed releases what the order still had frozen. -/
def released (cache : StockCache) (order : OrderMessage) : Option Updated :=
  if pushBack order = 0 ∧ order.tradePolicy.checkAssets then updateAfterCancel cache order
  else some ⟨0, order, cache⟩

/-- A failed downcast is a null pointer the report is then written through. -/
def procSingleCancelOrder (queue : TaskPriorityQueue) (cache : StockCache) (request : Task) (transId : String) :
    Option Cancelled :=
  match queue.deleteIfHaveTask request.key request.order.origClOrdId with
  | none => some { queue, cache, pushed := pushed (procCancelFailOrigIsProc request.order) }
  | some (task, queue) =>
    if downcasts task then
      let order := procCancelSuccess request.order task.order transId
      (released cache order).map fun updated =>
        { queue, cache := updated.cache, pushed := pushed order, order := some updated.order }
    else none

end Simutgw.TaskCancelOrder
