import Simutgw.ABStockMatch
import Simutgw.TaskPriorityBase

/-! The tasks an order is queued as: which kind its policy and trade type ask for,
and the runs of the kinds that are not an ordinary match. -/

namespace Simutgw

namespace GenTaskHelper

/-- The kind of task made for an order; `none` is the source's -1, and nothing is queued. -/
def genTaskMatch (order : OrderMessage) : Option TaskKind :=
  if order.tradePolicy.ruleId ≠ 0 then
    if order.tradePolicy.ruleSh then some .shRuleMatch
    else if order.tradePolicy.ruleSz then some .szRuleMatch
    else none
  else
    match order.tradeType with
    | .cancel => some .cancelOrder
    | .aTrade | .bTrade | .marginCash | .marginStock | .etfBuy | .etfSell => some .aBStockMatch
    | .etfCrt | .etfRdp => some .etfMatch
    | .error => none

end GenTaskHelper

open ABStockMatch OutMemoryManage

namespace TaskEtfMatch

/-- A creation or a redemption is filled at once, at its own price. -/
def tradeMatch (db : StockDb) (cache : StockCache) (order : OrderMessage) (transId : String) : Option Attempt :=
  simulated db cache (withTransId (allFilled order order.orderPrice) transId) false

def matchOrder (db : StockDb) (round : Round) (cache : StockCache) (order : OrderMessage) : Option Attempt :=
  if order.side = Step.sideCrt ∨ order.side = Step.sideRdp then tradeMatch db cache order round.transId
  else some { order, cache }

end TaskEtfMatch

/-- The body of the two rule tasks: the reports are built from the rule, later. -/
def ruleMatchOrder (cache : StockCache) (order : OrderMessage) : Attempt :=
  let order := order.markedAs .matchAll
  { order, cache, pushed := pushed order }

namespace TaskShRuleMatch

def matchOrder := ruleMatchOrder

end TaskShRuleMatch

namespace TaskSzRuleMatch

def matchOrder := ruleMatchOrder

end TaskSzRuleMatch

/-- One run of a match task. -/
def TaskKind.run (kind : TaskKind) (db : StockDb) (round : Round) (cache : StockCache) (order : OrderMessage) :
    Option Attempt :=
  match kind with
  | .aBStockMatch => ABStockMatch.matchOrder db round cache order
  | .etfMatch => TaskEtfMatch.matchOrder db round cache order
  | .shRuleMatch => some (TaskShRuleMatch.matchOrder cache order)
  | .szRuleMatch => some (TaskSzRuleMatch.matchOrder cache order)
  | .cancelOrder | .validOrder => none

end Simutgw
