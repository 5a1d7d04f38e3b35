import Simutgw.OrderMessage

/-! The tasks the worker threads run, and the key that decides which of them does. -/

namespace Simutgw

inductive TaskKind where
  | aBStockMatch
  | etfMatch
  | shRuleMatch
  | szRuleMatch
  | cancelOrder
  | validOrder
  deriving DecidableEq, Repr

inductive TaskPriority where
  | standbyOrder
  | checkOrder
  | matchOrder
  | cancelOrder
  deriving DecidableEq, Repr

/-- A task with the copy of the order it was given. -/
structure Task where
  kind : TaskKind
  order : OrderMessage
  priority : TaskPriority
  key : Int := 0
  orderTime : Int := 0
  price : UInt64 := 0
  clOrdId : String := ""
  side : String := ""
  isMatchOrdered : Bool := false
  deriving DecidableEq, Repr

namespace TaskPriorityBase
open TgwStringUtil

/-- The key of a task, by security and side or by security alone. The standard
library's hash of a text, cut to an `int`, is left open. -/
def generateKey (hash : String → Int) (stockID side : String) (isMatchOrdered : Bool) : Int :=
  if isMatchOrdered then
    if side = Step.sideBuyB ∨ side = Step.sideBuy1 then 1 * 10000000 + string2IntAtoi stockID
    else if side = Step.sideSellS ∨ side = Step.sideSell2 then 2 * 10000000 + string2IntAtoi stockID
    else hash (side ++ stockID)
  else string2IntAtoi stockID

end TaskPriorityBase

namespace Task
open TaskPriorityBase

/-- A task on an order, as the four match tasks are given theirs. -/
def matching (hash : String → Int) (kind : TaskKind) (bySide : Bool) (order : OrderMessage) : Task where
  kind := kind
  order := order
  priority := .matchOrder
  key := generateKey hash order.stockID order.side bySide
  orderTime := order.rcvTime
  price := order.orderPrice
  clOrdId := order.clOrdId
  side := order.side

/-- `SetOrderMsg` of every kind of task. Sorting by price is switched off in the
ordinary match, so that no task asks for it. -/
def setOrderMsg (hash : String → Int) (kind : TaskKind) (order : OrderMessage) : Task :=
  match kind with
  | .aBStockMatch => matching hash kind true order
  | .etfMatch | .shRuleMatch | .szRuleMatch => matching hash kind false order
  | .cancelOrder =>
    { kind
      order
      priority := .cancelOrder
      key := generateKey hash order.stockID order.side true
      clOrdId := order.clOrdId }
  | .validOrder =>
    { kind, order, priority := .checkOrder, key := generateKey hash order.stockID order.side false }

end Task
end Simutgw
