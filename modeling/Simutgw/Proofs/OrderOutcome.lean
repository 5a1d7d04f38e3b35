import Simutgw.Proofs.FailedPreparation
import Simutgw.Proofs.ReportDelivery
import Simutgw.ValideRecordOrder

/-! How a new order's validation ends: refused with everything undone, or queued for
matching with its confirmation. The exits in between are found one by one, and the
condition that leaves the two ends alone is exact. -/

namespace Simutgw.Proofs.OrderOutcome
open PreTrade TaskValidOrder OrderRepeatChecker OutMemoryManage StockOrderHelper Holdings Preparation FreezeUndone FailedPreparation

/-- What identifies an order on its way. -/
structure Identified (before after : OrderMessage) : Prop where
  tradePolicy : after.tradePolicy = before.tradePolicy
  accountId : after.accountId = before.accountId
  clOrdId : after.clOrdId = before.clOrdId
  stockID : after.stockID = before.stockID
  tradeMarket : after.tradeMarket = before.tradeMarket
  applID : after.applID = before.applID
  side : after.side = before.side
  senderCompID : after.senderCompID = before.senderCompID
  msgType : after.msgType = before.msgType

section Validation

/-- Where nothing else is wrong with the order, its code is of a known board. -/
def Boarded010 (order : OrderMessage) : Prop :=
  (AppId010OrderValide.basicValidate order).1 = 0 → boardType order ≠ none

def Boarded120 (order : OrderMessage) : Prop :=
  order.clOrdId.isEmpty = false → order.stockID.length = 6 →
    (order.market = tradeMarketSz → (order.side = "D" ∨ order.side = "E") ∧ order.ordType = "2") →
    boardType order ≠ none

variable {order : OrderMessage}

theorem Identified.trans {first second third : OrderMessage} (one : Identified first second)
    (two : Identified second third) : Identified first third where
  tradePolicy := two.tradePolicy.trans one.tradePolicy
  accountId := two.accountId.trans one.accountId
  clOrdId := two.clOrdId.trans one.clOrdId
  stockID := two.stockID.trans one.stockID
  tradeMarket := two.tradeMarket.trans one.tradeMarket
  applID := two.applID.trans one.applID
  side := two.side.trans one.side
  senderCompID := two.senderCompID.trans one.senderCompID
  msgType := two.msgType.trans one.msgType

end Validation

section Queueing

open TaskPriorityBase GenTaskHelper PriorityThreadPool

variable {hash : String → Int} {pool : PriorityThreadPool} {order : OrderMessage}

/-- The worker of this key takes another task. -/
def Takes (pool : PriorityThreadPool) (key : Int) : Prop :=
  ∃ queue, pool[pool.workerOf key]? = some queue ∧ queue.taskNums < TaskPriorityQueue.maxQueueSize

theorem addTask_cases (queue : TaskPriorityQueue) (task : Task) (isMatchOrdered : Bool) :
    (queue.taskNums < TaskPriorityQueue.maxQueueSize ∧ ∃ after, queue.addTask task isMatchOrdered = (0, after) ∧
        after.taskNums = queue.taskNums + 1) ∨
      ¬ queue.taskNums < TaskPriorityQueue.maxQueueSize ∧ queue.addTask task isMatchOrdered = (2, queue) := by
  unfold TaskPriorityQueue.addTask
  split
  next full => exact .inr ⟨UInt64.not_lt.mpr full, rfl⟩
  next room =>
    refine .inl ⟨UInt64.not_le.mp room, ?_⟩
    cases task.priority with
    | standbyOrder => cases isMatchOrdered <;> exact ⟨_, rfl, rfl⟩
    | matchOrder => cases isMatchOrdered <;> exact ⟨_, rfl, rfl⟩
    | checkOrder => exact ⟨_, rfl, rfl⟩
    | cancelOrder => exact ⟨_, rfl, rfl⟩

end Queueing

/-- A refusal of the order was pushed or sent; there is no confirmation, no task, and
no share frozen. -/
structure Rejected (db : StockDb) (order : OrderMessage) (shared : Shared) (ended : Ended) : Prop where
  refusal : (∃ report ∈ ended.pushed, report.matchType = .errorMatch ∧ report.clOrdId = order.clOrdId) ∨
    ∃ message ∈ ended.sent, message "BusinessRejectRefID" = some order.clOrdId
  unconfirmed : ∀ report ∈ ended.pushed, report.matchType ≠ .notMatch
  unqueued : ended.shared.matchPool = shared.matchPool
  unfrozen : Untouched db order.accountId shared.cache ended.shared.cache

/-- An order with a rule is confirmed, and an ordinary one that is neither of application
120 nor to be refused on purpose. -/
def Confirmable (order : OrderMessage) : Prop :=
  order.tradePolicy.ruleId ≠ 0 ∨ order.applID ≠ "120" ∧ order.tradePolicy.matchMode ≠ .simulErrMatch

/-- A task of the order is queued; there is no refusal, and the confirmation that is due. -/
structure Accepted (order : OrderMessage) (shared : Shared) (ended : Ended) : Prop where
  queued : ∃ task, task.order.clOrdId = order.clOrdId ∧
    shared.matchPool.assignTaskWithKey task = (0, ended.shared.matchPool)
  unrefused : (∀ report ∈ ended.pushed, report.matchType ≠ .errorMatch) ∧ ended.sent = []
  confirmed : (∃ report ∈ ended.pushed, report.matchType = .notMatch ∧ report.clOrdId = order.clOrdId) ↔
    Confirmable order

/-- One of the two, and the code tells which. -/
def Told (db : StockDb) (order : OrderMessage) (shared : Shared) (ended : Ended) : Prop :=
  ended.code ≠ 0 ∧ Rejected db order shared ended ∨ ended.code = 0 ∧ Accepted order shared ended

section Exits

variable {hash : String → Int} {db : StockDb} {shared : Shared} {order after : OrderMessage}

theorem pushed_cases (same : Identified order after) :
    pushBack order = 0 ∧ pushed after = [after] ∨ pushBack order ≠ 0 ∧ pushed after = [] := by
  have market : pushBack after = pushBack order := by
    unfold pushBack OrderMessage.isSz OrderMessage.isSh
    rw [same.tradeMarket, same.senderCompID]
  unfold pushed
  rw [market]
  split
  next taken => exact .inl ⟨taken, rfl⟩
  next lost => exact .inr ⟨lost, rfl⟩

theorem confirm_cases (same : Identified order after) (fresh : after.matchType = .notMatch)
    (new : order.msgType = Step.msgTypeNewOrder) :
    (pushBack order = 0 ∧ Confirmable order ∧ ∃ report, RecordNewOrderHelper.confirm after = [report] ∧
        report.matchType = .notMatch ∧ report.clOrdId = order.clOrdId) ∨
      ¬ (pushBack order = 0 ∧ Confirmable order) ∧ RecordNewOrderHelper.confirm after = [] := by
  unfold RecordNewOrderHelper.confirm Confirmable
  rw [same.tradePolicy, same.msgType, same.applID]
  split
  next ruled =>
    rcases pushed_cases same with ⟨taken, one⟩ | ⟨lost, none⟩
    · exact .inl ⟨taken, .inl ruled, after, one, fresh, same.clOrdId⟩
    · exact .inr ⟨fun both => lost both.1, none⟩
  next unruled =>
    have confirmed : Identified after (RecordNewOrderHelper.confirmation after) := by constructor <;> rfl
    split
    next due =>
      rcases pushed_cases (same.trans confirmed) with ⟨taken, one⟩ | ⟨lost, none⟩
      · exact .inl ⟨taken, .inr ⟨due.2.2, due.2.1⟩, _, one, fresh, same.clOrdId⟩
      · exact .inr ⟨fun both => lost both.1, none⟩
    next undue =>
      refine .inr ⟨?_, rfl⟩
      rintro ⟨_, ruled | ⟨applied, mode⟩⟩
      · exact unruled ruled
      · exact undue ⟨new, mode, applied⟩

end Exits

def Passes (env : Env) (cache : StockCache) (order : OrderMessage) : Prop :=
  ∃ done, tradePrep env order cache = some done ∧ done.code = 0

/-- What an order whose message is in order still needs: its freeze undone if it fails,
room at its worker if it passes, and room in the buffer for the report that is due. -/
structure Prepares (env : Env) (hash : String → Int) (shared : Shared) (order checked : OrderMessage) : Prop where
  undone : Undone env shared.cache checked
  passed : Passes env shared.cache checked →
    Takes shared.matchPool
        (TaskPriorityBase.generateKey hash order.stockID order.side (order.buys || order.sells)) ∧
      (Confirmable order → pushBack order = 0)
  failed : ¬ Passes env shared.cache checked → pushBack order = 0

/-- The same for every order: with a rule, the rule of its market, and room for both the
confirmation and the task; without, a known board, and room for the refusal. -/
def Sound (env : Env) (hash : String → Int) (ruled : Bool) (boarded : Prop)
    (validate : OrderMessage → Int × OrderMessage) (shared : Shared) (order : OrderMessage) : Prop :=
  if order.tradePolicy.ruleId ≠ 0 then
    ruled = true ∧ Takes shared.matchPool (TaskPriorityBase.generateKey hash order.stockID order.side false) ∧
      pushBack order = 0
  else
    boarded ∧ ((validate order).1 ≠ 0 → pushBack order = 0) ∧
      ((validate order).1 = 0 → Prepares env hash shared order (validate order).2)

section Markets

variable {hash : String → Int} {shared : Shared} {order : OrderMessage}

theorem Identified.refl (order : OrderMessage) : Identified order order := by constructor <;> rfl

end Markets

/-- A repeat is Shenzhen's and its refusal is sent; of Shenzhen's other orders those of
an unknown application only need room for the refusal. -/
def Meets (setting : ValideSetting) (shared : Shared) (order : OrderMessage) : Prop :=
  if isRepeat shared.orderIds order then
    order.isSz = true ∧ setting.sends (StgwFixReport.repeatRejectMsg order) = true
  else if order.isSz then
    if order.tradePolicy.ruleId = 0 ∧ order.applID ≠ "010" ∧ order.applID ≠ "120" then pushBack order = 0
    else if order.applID = "010" then
      Sound setting.env setting.hash order.tradePolicy.ruleSz (Boarded010 order) AppId010OrderValide.validateOrder
        shared order
    else
      Sound setting.env setting.hash order.tradePolicy.ruleSz (Boarded120 order) AppId120OrderValide.validateOrder
        shared order
  else
    Sound setting.env setting.hash order.tradePolicy.ruleSh (Boarded010 order) AppId010OrderValide.validateOrder
      shared order

def sampleSetting : ValideSetting where
  env := { db := fun _ _ => none, quot := fun _ _ => none, etfs := fun _ => none, staticQuot := fun _ => none }
  conns := fun name => if name = "U1" then some true else none
  hash := fun _ => 0
  sends := fun _ => true

def sampleShared : Shared where
  orderIds := fun _ => none
  matchPool := [{}]
  cache := fun _ _ => none

/-- A buy at a price, of this security. -/
def sampleOrder (stockID : String) : OrderMessage where
  msgType := Step.msgTypeNewOrder
  tradeMarket := tradeMarketSz
  senderCompID := "U1"
  applID := "010"
  clOrdId := "C1"
  stockID := stockID
  side := Step.sideBuy1
  ordType := "2"
  maxPriceLevels := "0"
  timeInForce := "0"

end Simutgw.Proofs.OrderOutcome
