import Simutgw.MatchTask
import Simutgw.OrderValide
import Simutgw.PreTrade
import Simutgw.TaskPriorityQueue

/-! The validation threads. Each takes a received order from its own queue, asks
whether its id is known, validates and prepares it, records the id and queues the
order for matching; the threads share the ids, the holdings and the match workers. -/

namespace Simutgw
open OutMemoryManage

namespace OrderRepeatChecker

/-- The hash of the ids recorded today. -/
abbrev OrderIds := String → Option String

def checkIfRepeatOrder (ids : OrderIds) (order : OrderMessage) : Bool := (ids order.clOrdId).isSome

def recordOrderInRedis (ids : OrderIds) (order : OrderMessage) : OrderIds :=
  fun id => if id = order.clOrdId then some "1" else ids id

end OrderRepeatChecker

/-- What the validation of an order leaves: whether it goes on, the order and the
holdings, and what was pushed. -/
structure Valided where
  proceeds : Bool
  order : OrderMessage
  cache : StockCache
  pushed : List OrderMessage := []

/-- The body of the two markets' validations, up to the record of the order. -/
def valideWith (env : PreTrade.Env) (ruled : Bool) (validate : OrderMessage → Int × OrderMessage)
    (priceCode shareCode : String) (order : OrderMessage) (cache : StockCache) : Option Valided :=
  if order.tradePolicy.ruleId ≠ 0 then some { proceeds := ruled, order, cache }
  else
    match validate order with
    | (0, order) =>
      (PreTrade.tradePrep env order cache).map fun prepared =>
        if prepared.code < 0 then
          let order := { prepared.order with
            dataError := true
            matchType := .errorMatch
            errorCode := if prepared.code = -2 then priceCode else shareCode
            error := if prepared.code = -2 then "价格无效" else "冻结股份失败" }
          { proceeds := false, order, cache := prepared.cache, pushed := pushed order }
        else { proceeds := true, order := prepared.order, cache := prepared.cache }
    | (_, order) => some { proceeds := false, order, cache, pushed := pushed order }

namespace SzConnStepOrder

/-- Orders of a connection that is not known or not logged on are dropped. -/
def valide (env : PreTrade.Env) (conns : String → Option Bool) (order : OrderMessage) (cache : StockCache) :
    Option Valided :=
  if conns order.senderCompID ≠ some true then some { proceeds := false, order, cache }
  else if order.tradePolicy.ruleId = 0 ∧ order.applID ≠ "010" ∧ order.applID ≠ "120" then
    let order := { order with dataError := true, matchType := .errorMatch, errorCode := SzErrCode.c20005 }
    some {
      proceeds := false
      order := { order with error := "error applid=" ++ order.applID ++ "order cliordid=" ++ order.clOrdId }
      cache
      pushed := pushed order }
  else
    valideWith env order.tradePolicy.ruleSz
      (if order.applID = "010" then AppId010OrderValide.validateOrder else AppId120OrderValide.validateOrder)
      SzErrCode.c20009 SzErrCode.c20022 order cache

end SzConnStepOrder

namespace ShConnDbfOrder

def valide (env : PreTrade.Env) (order : OrderMessage) (cache : StockCache) : Option Valided :=
  valideWith env order.tradePolicy.ruleSh AppId010OrderValide.validateOrder ShErrCode.c212 ShErrCode.c231 order cache

end ShConnDbfOrder

namespace RecordNewOrderHelper

def confirmation (order : OrderMessage) : OrderMessage :=
  { order with
    strOrderPrice := TgwStringUtil.iLiToStr order.orderPrice 4
    execType := Step.execTypeNew
    ordStatus := Step.ordStatusNew }

/-- The confirmation of a declaration, pushed before the id is recorded. -/
def confirm (order : OrderMessage) : List OrderMessage :=
  if order.tradePolicy.ruleId ≠ 0 then pushed order
  else if order.msgType = Step.msgTypeNewOrder ∧ order.tradePolicy.matchMode ≠ .simulErrMatch ∧
      order.applID ≠ "120" then
    pushed (confirmation order)
  else []

end RecordNewOrderHelper

namespace GenTaskHelper

/-- The task of a received order, given to the validation thread with the fewest. -/
def genTaskValid (hash : String → Int) (pool : PriorityThreadPool) (order : OrderMessage) : Int × PriorityThreadPool :=
  pool.assignTaskInMini (Task.setOrderMsg hash .validOrder order)

def assignMatch (hash : String → Int) (pool : PriorityThreadPool) (order : OrderMessage) : Int × PriorityThreadPool :=
  match genTaskMatch order with
  | none => (-1, pool)
  | some kind => pool.assignTaskWithKey (Task.setOrderMsg hash kind order)

end GenTaskHelper

namespace TaskValidOrder
open OrderRepeatChecker

/-- How far a thread is with its order. -/
inductive Stage where
  | taken
  | checked
  | valided
  | recorded
  deriving DecidableEq, Repr

/-- What the validation runs in: the market data, the Shenzhen connections with
whether each is logged on, and the library's hash. -/
structure Setting where
  env : PreTrade.Env
  conns : String → Option Bool
  hash : String → Int

/-- The state the threads share, what each is working on, and the orders that were
queued for matching or turned away as repeats. -/
structure Gateway where
  orderIds : OrderIds
  validPool : PriorityThreadPool
  matchPool : PriorityThreadPool
  working : Nat → Option (Stage × OrderMessage)
  cache : StockCache
  outMsg : List OrderMessage
  accepted : List OrderMessage
  repeated : List OrderMessage

inductive Event where
  | receive (order : OrderMessage)
  | take (thread : Nat)
  | check (thread : Nat)
  | valide (thread : Nat)
  | record (thread : Nat)
  | queue (thread : Nat)
  | matching (matchPool : PriorityThreadPool) (cache : StockCache)

def Gateway.works (gateway : Gateway) (thread : Nat) (work : Option (Stage × OrderMessage)) : Gateway :=
  { gateway with working := fun other => if other = thread then work else gateway.working other }

/-- An order taken by a thread. One of no known market ends there. -/
def take (gateway : Gateway) (thread : Nat) : Option Gateway :=
  match gateway.working thread, gateway.validPool[thread]? with
  | none, some queue =>
    match queue.getTask with
    | some (task, queue) =>
      let gateway := { gateway with validPool := gateway.validPool.set thread queue }
      if task.order.isSz ∨ task.order.isSh then some (gateway.works thread (some (.taken, task.order)))
      else some gateway
    | none => none
  | _, _ => none

/-- The repeat check, which the pressure mode leaves out. -/
def check (gateway : Gateway) (thread : Nat) : Option Gateway :=
  match gateway.working thread with
  | some (.taken, order) =>
    if order.tradePolicy.runMode ≠ .pressureMode ∧ checkIfRepeatOrder gateway.orderIds order then
      some { gateway.works thread none with repeated := gateway.repeated ++ [order] }
    else some (gateway.works thread (some (.checked, order)))
  | _ => none

def valide (setting : Setting) (gateway : Gateway) (thread : Nat) : Option Gateway :=
  match gateway.working thread with
  | some (.checked, order) =>
    let valided :=
      if order.isSz then SzConnStepOrder.valide setting.env setting.conns order gateway.cache
      else ShConnDbfOrder.valide setting.env order gateway.cache
    valided.map fun valided =>
      { gateway.works thread (if valided.proceeds then some (.valided, valided.order) else none) with
        cache := valided.cache
        outMsg := gateway.outMsg ++ valided.pushed }
  | _ => none

def record (gateway : Gateway) (thread : Nat) : Option Gateway :=
  match gateway.working thread with
  | some (.valided, order) =>
    some { gateway.works thread (some (.recorded, order)) with
      outMsg := gateway.outMsg ++ RecordNewOrderHelper.confirm order
      orderIds := recordOrderInRedis gateway.orderIds order }
  | _ => none

/-- The match task of a recorded order. A failure is logged and nothing else. -/
def queue (setting : Setting) (gateway : Gateway) (thread : Nat) : Option Gateway :=
  match gateway.working thread with
  | some (.recorded, order) =>
    match GenTaskHelper.assignMatch setting.hash gateway.matchPool order with
    | (0, matchPool) => some { gateway.works thread none with matchPool, accepted := gateway.accepted ++ [order] }
    | _ => some (gateway.works thread none)
  | _ => none

/-- One event. The match workers may change their queues and the holdings at will. -/
def step (setting : Setting) (gateway : Gateway) : Event → Option Gateway
  | .receive order =>
    some { gateway with validPool := (GenTaskHelper.genTaskValid setting.hash gateway.validPool order).2 }
  | .take thread => take gateway thread
  | .check thread => check gateway thread
  | .valide thread => valide setting gateway thread
  | .record thread => record gateway thread
  | .queue thread => queue setting gateway thread
  | .matching matchPool cache => some { gateway with matchPool, cache }

end TaskValidOrder
end Simutgw
