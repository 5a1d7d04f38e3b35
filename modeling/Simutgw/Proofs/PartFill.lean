import Simutgw.Proofs.FrozenRelease
import Simutgw.Proofs.QuoteConservation
import Simutgw.Proofs.TaskConservation
import Simutgw.ValidOrder

/-! What becomes of the rest of an order a quote fills partly. It waits on in the match
queue, with what was traded taken off it, or it is cancelled, reported as cancelled and
given back; which of these the task does is decided by the declaration type alone. -/

namespace Simutgw.Proofs.PartFill
open ABStockMatch UserStockHelper UserStockVolume QuoteMatching SellReserve Holdings EtfSettlement MatchVerdict
open FrozenRelease OutMemoryManage CancelLookup TaskPriorityQueue SofString

/-- The workers' queues after the task: an order it hands back goes to a worker again. -/
def queuedAgain (hash : String → Int) (pool : PriorityThreadPool) (attempt : Attempt) : PriorityThreadPool :=
  if attempt.requeued then (GenTaskHelper.assignMatch hash pool attempt.order).2 else pool

/-- Every task of every worker. -/
def waiting (pool : PriorityThreadPool) : List Task := pool.flatMap pending

/-- What a trade leaves of the two records of a reserve. -/
def recordLeft (order : OrderMessage) (qty : UInt64) : SellCps × SellEtfCps :=
  if order.tradePolicy.checkAssets = true ∧ (order.isSz = true ∧ order.applID = "010" ∨
      order.isSz = false ∧ order.isSh = true) then
    match saleOf order with
    | some .ordinary => ((sellSplit { order with orderqtyMatched := qty }).2.2, order.sellEtfCps)
    | some .etf => (order.sellCps, (sellEtfSplit { order with orderqtyMatched := qty }).2.2)
    | none => (order.sellCps, order.sellEtfCps)
  else (order.sellCps, order.sellEtfCps)

def recordAfter (order : OrderMessage) (qty : UInt64) : OrderMessage :=
  { order with sellCps := (recordLeft order qty).1, sellEtfCps := (recordLeft order qty).2 }

/-- The order as the remainder's cancel leaves it, when its trade is booked. -/
def withdrawn (round : Round) (order : OrderMessage) (quote : Quote) : OrderMessage :=
  ProcCancelOrder.procSingleCancelOrderWithoutRequest (partFilled order quote.cjsl (quote.cjje / quote.cjsl))
    round.cancelId

/-- The run leaves something of the order, and less than there was. -/
def PartlyFilled (order : OrderMessage) (attempt : Attempt) : Prop :=
  0 < attempt.order.leavesQty ∧ attempt.order.leavesQty < order.leavesQty

/-- What is left of an order after a trade: its leaves and its record less the trade,
and but for the fields a trade is reported in the order it was. -/
structure FullState (before : OrderMessage) (qty : UInt64) (after : OrderMessage) : Prop where
  leaves : after.leavesQty = before.leavesQty - qty
  leavesText : after.strLeavesQty = itostr (before.leavesQty - qty)
  cumulated : after.strCumQty = itostr (before.orderqtyOrigin - (before.leavesQty - qty))
  record : share after = share (recordAfter before qty)
  same : after = { before with
    matchType := after.matchType
    execType := after.execType
    ordStatus := after.ordStatus
    msgType := after.msgType
    orderqtyMatched := after.orderqtyMatched
    lastQty := after.lastQty
    priceMatched := after.priceMatched
    lastPx := after.lastPx
    cashorderqtyMatched := after.cashorderqtyMatched
    strCashorderqty := after.strCashorderqty
    orderqtyUnmatched := after.orderqtyUnmatched
    cashorderqtyUnmatched := after.cashorderqtyUnmatched
    leavesQty := after.leavesQty
    strLeavesQty := after.strLeavesQty
    strCumQty := after.strCumQty
    strOrderPrice := after.strOrderPrice
    sellCps := after.sellCps
    sellEtfCps := after.sellEtfCps
    execID := after.execID
    orderID := after.orderID }

/-- The rest is back in the match queue, and nothing else there has changed. -/
structure Waits (hash : String → Int) (pool : PriorityThreadPool) (order : OrderMessage) (qty : UInt64)
    (attempt : Attempt) : Prop where
  state : FullState order qty attempt.order
  queued : ∃ task, task.kind = .aBStockMatch ∧ task.order = attempt.order ∧
    (waiting (queuedAgain hash pool attempt)).Perm (task :: waiting pool)

/-- The rest is cancelled: reported with its quantity, and what the order has on record
after the trade is no longer frozen. -/
structure Withdrawn (db : StockDb) (round : Round) (cache : StockCache) (order : OrderMessage) (quote : Quote)
    (attempt : Attempt) : Prop where
  ended : attempt.order.matchType = .cancelMatch
  reported : ∃ report ∈ attempt.pushed, report.matchType = .cancelMatch ∧ report.execType = Step.execTypeCancel ∧
    report.lastQty = itostr (order.leavesQty - quote.cjsl)
  released : order.tradePolicy.checkAssets = true → ∃ booked,
    updateAfterTrade db cache (withdrawn round order quote) = some booked ∧ ∀ stockID bucket,
      frozen db order.accountId attempt.cache stockID bucket + share booked.order stockID bucket =
        frozen db order.accountId booked.cache stockID bucket

/-- There is an ordinary match task for the order, and room for it at its worker. -/
def HasRoom (hash : String → Int) (pool : PriorityThreadPool) (order : OrderMessage) : Prop :=
  GenTaskHelper.genTaskMatch order = some .aBStockMatch ∧
    ∃ queue, pool[pool.workerOf (Task.setOrderMsg hash .aBStockMatch order).key]? = some queue ∧
      queue.taskNums < maxQueueSize

/-- When the rest is kept. A type whose remainder the matcher cancels keeps the law with a
report that can be pushed and a trade that takes all there is on record; of the others
the own side's best is only queued again where the write-back fails. -/
def Keeps (hash : String → Int) (pool : PriorityThreadPool) (round : Round) (order : OrderMessage) (quote : Quote) :
    Prop :=
  if cancelsRemainder order.delType then
    pushBack order = 0 ∧
      (order.tradePolicy.checkAssets = true → ∀ stockID bucket, share (recordAfter order quote.cjsl) stockID bucket = 0)
  else (holdsRemainder order.delType = true ∨ round.stored = false) ∧ HasRoom hash pool order

section Records

variable {db : StockDb} {cache : StockCache} {order asked : OrderMessage} {updated : Updated} {qty : UInt64}

theorem updateTrade_record (checked : order.tradePolicy.checkAssets = true)
    (done : updateTrade db cache order = some updated) : (updated.order.sellCps, updated.order.sellEtfCps) =
      match saleOf order with
      | some .ordinary => ((sellSplit order).2.2, order.sellEtfCps)
      | some .etf => (order.sellCps, (sellEtfSplit order).2.2)
      | none => (order.sellCps, order.sellEtfCps) := by
  cases selling : saleOf order with
  | some sale =>
    cases sale with
    | ordinary =>
      rw [updateTrade_ordinary selling checked] at done
      rw [settled_order done]
    | etf =>
      rw [updateTrade_etf selling checked] at done
      rw [settled_order done]
  | none =>
    unfold updateTrade at done
    rw [if_neg (by simp [checked])] at done
    unfold saleOf at selling
    cases type : order.tradeType with
    | aTrade | bTrade =>
      have buys : order.sells = false := by simpa [type] using selling
      simp only [type, buys, Bool.false_eq_true, if_false] at done
      split at done <;> rw [settled_order done]
    | etfSell => simp [type] at selling
    | _ =>
      simp only [type] at done
      rw [settled_order done]

theorem updateAfterTrade_record (done : updateAfterTrade db cache order = some updated) :
    (updated.order.sellCps, updated.order.sellEtfCps) = recordLeft order order.orderqtyMatched := by
  unfold recordLeft
  split
  next books =>
    obtain ⟨checked, booked⟩ := books
    apply updateTrade_record checked
    rcases booked with ⟨sz, applID⟩ | ⟨notSz, sh⟩
    · simpa only [updateAfterTrade, sz, applID, if_true] using done
    · simpa only [updateAfterTrade, notSz, sh, Bool.false_eq_true, if_false, if_true] using done
  next other =>
    suffices same : updated.order = order by rw [same]
    have free (checked : ¬ order.tradePolicy.checkAssets = true) (done : updateTrade db cache order = some updated) :
        updated.order = order := by
      unfold updateTrade at done
      rw [if_pos (by simpa using checked)] at done
      cases done
      rfl
    unfold updateAfterTrade at done
    split at done
    next sz =>
      split at done
      next applID => exact free (fun checked => other ⟨checked, .inl ⟨sz, applID⟩⟩) done
      next =>
        split at done
        · exact updateETFCrtRdp_order done
        · cases done
          rfl
    next notSz =>
      split at done
      next sh => exact free (fun checked => other ⟨checked, .inr ⟨by simpa using notSz, sh⟩⟩) done
      next =>
        cases done
        rfl

theorem recordLeft_asks (asks : Asks order asked qty) :
    recordLeft asked asked.orderqtyMatched = recordLeft order qty := by
  obtain ⟨alike, sellCps, sellEtfCps, matched, -⟩ := asks
  have sz : asked.isSz = order.isSz := by simp only [OrderMessage.isSz, alike.tradeMarket]
  have sh : asked.isSh = order.isSh := by simp only [OrderMessage.isSh, alike.tradeMarket]
  have ordinary : sellSplit { asked with orderqtyMatched := qty } = sellSplit { order with orderqtyMatched := qty } := by
    simp only [sellSplit, sellCps]
  have etf : sellEtfSplit { asked with orderqtyMatched := qty } =
      sellEtfSplit { order with orderqtyMatched := qty } := by
    simp only [sellEtfSplit, sellCps, sellEtfCps]
  rw [matched]
  unfold recordLeft
  rw [ordinary, etf, alike.tradePolicy, alike.applID, sz, sh, saleOf_alike alike, sellCps, sellEtfCps]

theorem booked_alike (asks : Asks order asked qty) (done : updateAfterTrade db cache asked = some updated) :
    Alike order updated.order := by
  obtain ⟨_, _, wrote⟩ := updateAfterTrade_order done
  obtain ⟨alike, -, -, -, -⟩ := asks
  rw [wrote]
  exact ⟨alike.accountId, alike.stockID, alike.side, alike.tradeType, alike.tradePolicy, alike.tradeMarket,
    alike.senderCompID, alike.applID, alike.frozeComponents, alike.rdpEtfCps⟩

/-- After a booked trade the order's shares are those of the record it leaves. -/
theorem booked_share (asks : Asks order asked qty) (done : updateAfterTrade db cache asked = some updated) :
    share updated.order = share (recordAfter order qty) := by
  have record := (updateAfterTrade_record done).trans (recordLeft_asks asks)
  rw [Prod.ext_iff] at record
  have alike := booked_alike asks done
  exact share_alike ⟨alike.accountId, alike.stockID, alike.side, alike.tradeType, alike.tradePolicy,
    alike.tradeMarket, alike.senderCompID, alike.applID, alike.frozeComponents, alike.rdpEtfCps⟩ record.1 record.2

end Records

section Queues

variable {hash : String → Int} {pool : PriorityThreadPool} {order : OrderMessage} {task : Task}

theorem waiting_set {queue next : TaskPriorityQueue} {worker : Nat} (found : pool[worker]? = some queue)
    (more : (pending next).Perm (task :: pending queue)) :
    (waiting (pool.set worker next)).Perm (task :: waiting pool) := by
  induction pool generalizing worker with
  | nil => simp at found
  | cons first rest ih =>
    unfold waiting at *
    cases worker with
    | zero =>
      simp only [List.getElem?_cons_zero, Option.some.injEq] at found
      subst first
      simp only [List.set_cons_zero, List.flatMap_cons]
      exact more.append_right _
    | succ worker =>
      simp only [List.getElem?_cons_succ] at found
      simp only [List.set_cons_succ, List.flatMap_cons]
      exact ((ih found).append_left _).trans List.perm_middle

theorem assignTaskWithKey_waiting (pool : PriorityThreadPool) (task : Task) :
    (waiting (pool.assignTaskWithKey task).2).Perm (task :: waiting pool) ∧
        (∃ queue, pool[pool.workerOf task.key]? = some queue ∧ queue.taskNums < maxQueueSize) ∨
      (pool.assignTaskWithKey task).2 = pool ∧
        ¬ ∃ queue, pool[pool.workerOf task.key]? = some queue ∧ queue.taskNums < maxQueueSize := by
  unfold PriorityThreadPool.assignTaskWithKey
  cases found : pool[pool.workerOf task.key]? with
  | none => exact .inr ⟨rfl, by simp⟩
  | some queue =>
    rcases TaskConservation.addTask_cases queue task task.isMatchOrdered with
      ⟨full, refused⟩ | ⟨next, room, added, -, more⟩
    · refine .inr ⟨by simp only [refused], ?_⟩
      rintro ⟨_, ⟨⟩, room⟩
      exact absurd full (UInt64.not_le.mpr room)
    · refine .inl ⟨?_, queue, rfl, room⟩
      simp only [added]
      exact waiting_set found more

theorem setOrderMsg_order (kind : TaskKind) : (Task.setOrderMsg hash kind order).order = order := by
  cases kind <;> rfl

theorem setOrderMsg_kind (kind : TaskKind) : (Task.setOrderMsg hash kind order).kind = kind := by
  cases kind <;> rfl

theorem assignMatch_queued_iff : (∃ task, task.kind = .aBStockMatch ∧ task.order = order ∧
      (waiting (GenTaskHelper.assignMatch hash pool order).2).Perm (task :: waiting pool)) ↔
    HasRoom hash pool order := by
  have longer {task : Task} : ¬ (waiting pool).Perm (task :: waiting pool) := fun same => by
    simpa using same.length_eq
  unfold GenTaskHelper.assignMatch HasRoom
  cases made : GenTaskHelper.genTaskMatch order with
  | none =>
    refine iff_of_false ?_ (by simp)
    rintro ⟨_, -, -, same⟩
    exact longer same
  | some kind =>
    rcases assignTaskWithKey_waiting pool (Task.setOrderMsg hash kind order) with ⟨more, room⟩ | ⟨same, full⟩
    · constructor
      · rintro ⟨task, ordinary, -, queued⟩
        have both := Multiset.coe_eq_coe.mpr (more.symm.trans queued)
        rw [← Multiset.cons_coe, ← Multiset.cons_coe, Multiset.cons_inj_left] at both
        rw [← both, setOrderMsg_kind] at ordinary
        subst kind
        exact ⟨rfl, room⟩
      · rintro ⟨ordinary, -⟩
        cases ordinary
        exact ⟨_, setOrderMsg_kind _, setOrderMsg_order _, more⟩
    · refine iff_of_false ?_ ?_
      · rintro ⟨_, -, -, queued⟩
        rw [same] at queued
        exact longer queued
      · rintro ⟨ordinary, room⟩
        cases ordinary
        exact full room

end Queues

section Runs

variable {hash : String → Int} {pool : PriorityThreadPool} {db : StockDb} {round : Round} {cache : StockCache}
  {order : OrderMessage} {quote : Quote} {attempt : Attempt}

theorem hasRoom_alike {after : OrderMessage} (alike : Alike order after) :
    HasRoom hash pool after ↔ HasRoom hash pool order := by
  have made : GenTaskHelper.genTaskMatch after = GenTaskHelper.genTaskMatch order := by
    simp only [GenTaskHelper.genTaskMatch, alike.tradePolicy, alike.tradeType]
  have key : (Task.setOrderMsg hash .aBStockMatch after).key = (Task.setOrderMsg hash .aBStockMatch order).key := by
    simp only [Task.setOrderMsg, Task.matching, alike.stockID, alike.side]
  unfold HasRoom
  rw [made, key]

theorem queuedAgain_idle (idle : attempt.requeued = false) : queuedAgain hash pool attempt = pool := by
  simp [queuedAgain, idle]

theorem waits_requeued {qty : UInt64} (waits : Waits hash pool order qty attempt) : attempt.requeued = true := by
  by_contra idle
  obtain ⟨_, -, -, queued⟩ := waits.queued
  rw [queuedAgain_idle (by simpa using idle)] at queued
  simpa using queued.length_eq

theorem part_state {after : OrderMessage} (read : round.quote = some quote) (takes : Takes order quote)
    (short : quote.cjsl < order.leavesQty) (ran : enableQuoMatch db round cache order = some attempt)
    (booked : Booked (partFilled order quote.cjsl (quote.cjje / quote.cjsl)) after)
    (left : attempt.order = if round.stored then after else after.markedAs .notMatch) :
    FullState order quote.cjsl attempt.order ∧ Alike order attempt.order := by
  obtain ⟨asked, updated, asks, books, -, unmoved⟩ := traded_comes read takes ran
  rw [if_pos short] at asks
  obtain ⟨_, _, _, wrote⟩ := booked
  refine ⟨⟨?_, ?_, ?_, ?_, ?_⟩, (booked_alike asks books).trans unmoved.alike⟩
  · rw [left, wrote]
    split <;> rfl
  · rw [left, wrote]
    split <;> rfl
  · rw [left, wrote]
    split <;> rfl
  · exact (share_alike unmoved.alike unmoved.sellCps unmoved.sellEtfCps).trans (booked_share asks books)
  · rw [left, wrote]
    split <;> rfl

/-- A rest the matcher does not cancel waits exactly where the task queues it and finds room. -/
theorem part_waits_iff {after : OrderMessage} (read : round.quote = some quote) (takes : Takes order quote)
    (short : quote.cjsl < order.leavesQty) (ran : enableQuoMatch db round cache order = some attempt)
    (booked : Booked (partFilled order quote.cjsl (quote.cjje / quote.cjsl)) after)
    (closed : Closes round order quote.hqsj after 0 0 attempt) :
    Waits hash pool order quote.cjsl attempt ↔
      (holdsRemainder order.delType = true ∨ round.stored = false) ∧ HasRoom hash pool order := by
  obtain ⟨state, alike⟩ := part_state read takes short ran booked closed.left
  have again : attempt.requeued = true ↔ holdsRemainder order.delType = true ∨ round.stored = false := by
    obtain ⟨_, _, _, wrote⟩ := booked
    have type : after.matchType = .matchPart := by rw [wrote]; rfl
    have same : after.delType = order.delType := by rw [wrote]; rfl
    rw [closed.requeued, type, same]
    cases round.stored <;> simp
  have goes (requeued : attempt.requeued = true) :
      queuedAgain hash pool attempt = (GenTaskHelper.assignMatch hash pool attempt.order).2 := if_pos requeued
  rw [← again, ← hasRoom_alike alike, ← assignMatch_queued_iff]
  constructor
  · intro waits
    have requeued := waits_requeued waits
    have queued := waits.queued
    rw [goes requeued] at queued
    exact ⟨requeued, queued⟩
  · rintro ⟨requeued, queued⟩
    rw [← goes requeued] at queued
    exact ⟨state, queued⟩

/-- A rest the matcher cancels is cancelled properly exactly where its report can be
pushed and nothing is left on record. -/
theorem cut_withdrawn_iff (read : round.quote = some quote) (takes : Takes order quote)
    (short : quote.cjsl < order.leavesQty) (cancels : cancelsRemainder order.delType = true)
    (ran : enableQuoMatch db round cache order = some attempt) (ended : attempt.order.matchType = .cancelMatch)
    (report : attempt.pushed = pushed (withdrawn round order quote)) :
    Withdrawn db round cache order quote attempt ↔ pushBack order = 0 ∧
      (order.tradePolicy.checkAssets = true →
        ∀ stockID bucket, share (recordAfter order quote.cjsl) stockID bucket = 0) := by
  obtain ⟨booked, books, same⟩ : ∃ booked, updateAfterTrade db cache (withdrawn round order quote) = some booked ∧
      attempt.cache = booked.cache := by
    cases found : quotMatchByMarket db round cache order quote with
    | none => simp [enableQuoMatch, quotMatchOrder, read, found] at ran
    | some matched =>
      have same := (quoted_cache read found ran).1
      rw [quotMatchByMarket_takes takes] at found
      obtain ⟨updated, books, rfl⟩ := Option.map_eq_some_iff.mp found
      simp only [fill, short, cancels, if_true] at books
      exact ⟨updated, books, same⟩
  have asks : Asks order (withdrawn round order quote) quote.cjsl :=
    ⟨by constructor <;> rfl, rfl, rfl, rfl, leaves_sub order.leavesQty quote.cjsl⟩
  have delivers : (∃ report ∈ attempt.pushed, report.matchType = .cancelMatch ∧
      report.execType = Step.execTypeCancel ∧ report.lastQty = itostr (order.leavesQty - quote.cjsl)) ↔
      pushBack order = 0 := by
    have answer : pushBack (withdrawn round order quote) = pushBack order := rfl
    rw [report, pushed, answer]
    split
    next delivered => exact iff_of_true ⟨_, List.mem_cons_self, rfl, rfl, rfl⟩ delivered
    next refused => exact iff_of_false (by simp) refused
  rw [← delivers]
  constructor
  · rintro ⟨-, reported, released⟩
    refine ⟨reported, fun checked stockID bucket => ?_⟩
    obtain ⟨_, again, counts⟩ := released checked
    cases books.symm.trans again
    have count := counts stockID bucket
    rw [same, booked_share asks books] at count
    omega
  · rintro ⟨reported, nothing⟩
    refine ⟨ended, reported, fun checked => ⟨booked, books, fun stockID bucket => ?_⟩⟩
    rw [same, booked_share asks books, nothing checked stockID bucket, Nat.add_zero]

theorem left_short (volume : quote.cjsl ≠ 0) (short : quote.cjsl < order.leavesQty) :
    0 < order.leavesQty - quote.cjsl ∧ order.leavesQty - quote.cjsl < order.leavesQty := by
  have left := UInt64.toNat_sub_of_le _ _ (UInt64.le_of_lt short)
  rw [UInt64.lt_iff_toNat_lt] at short
  rw [ne_eq, ← UInt64.toNat_inj] at volume
  rw [UInt64.lt_iff_toNat_lt, UInt64.lt_iff_toNat_lt, left]
  simp only [UInt64.toNat_zero] at volume ⊢
  omega

theorem partlyFilled_iff (ran : enableQuoMatch db round cache order = some attempt) :
    PartlyFilled order attempt ↔
      ∃ quote, round.quote = some quote ∧ Takes order quote ∧ quote.cjsl < order.leavesQty := by
  cases enableQuoMatch_outcome ran with
  | refused untaken refused unwritten quiet =>
    refine iff_of_false ?_ ?_
    · rintro ⟨-, less⟩
      obtain ⟨_, _, _, _, wrote, _⟩ := refused
      rw [wrote] at less
      exact absurd less (UInt64.lt_irrefl _)
    · rintro ⟨quote, read, takes, -⟩
      exact untaken quote read takes
  | part read takes short holds booked closed =>
    refine iff_of_true ?_ ⟨_, read, takes, short⟩
    unfold PartlyFilled
    rw [(part_state read takes short ran booked closed.left).1.leaves]
    exact left_short takes.volume short
  | cut read takes short cancels cancel booked report unwritten ends =>
    refine iff_of_true ?_ ⟨_, read, takes, short⟩
    obtain ⟨_, _, _, wrote⟩ := booked
    unfold PartlyFilled
    rw [wrote, cancel]
    exact left_short takes.volume short
  | whole read takes enough booked closed =>
    refine iff_of_false ?_ ?_
    · rintro ⟨-, less⟩
      obtain ⟨_, _, _, wrote⟩ := booked
      have same : attempt.order.leavesQty = order.leavesQty := by
        rw [closed.left, wrote]
        split <;> rfl
      rw [same] at less
      exact absurd less (UInt64.lt_irrefl _)
    · rintro ⟨other, again, -, short⟩
      cases read.symm.trans again
      exact absurd short (UInt64.not_lt.mpr enough)

/-- The rest of a partly filled order waits on, or is cancelled, reported and released. -/
def RestKept (hash : String → Int) (pool : PriorityThreadPool) (db : StockDb) (round : Round) (cache : StockCache)
    (order : OrderMessage) (attempt : Attempt) : Prop :=
  PartlyFilled order attempt → ∃ quote, round.quote = some quote ∧
    (Waits hash pool order quote.cjsl attempt ∨ Withdrawn db round cache order quote attempt)

/-- A match keeps the rest of the order exactly where the quote it is filled partly by
meets the condition of its declaration type. -/
theorem part_fill_kept_iff (hash : String → Int) (pool : PriorityThreadPool)
    (ran : enableQuoMatch db round cache order = some attempt) : RestKept hash pool db round cache order attempt ↔
      ∀ quote, round.quote = some quote → Takes order quote → quote.cjsl < order.leavesQty →
        Keeps hash pool round order quote := by
  unfold RestKept
  rw [partlyFilled_iff ran]
  cases enableQuoMatch_outcome ran with
  | refused untaken refused unwritten quiet =>
    refine iff_of_true ?_ fun quote read takes => absurd takes (untaken quote read)
    rintro ⟨quote, read, takes, -⟩
    exact absurd takes (untaken quote read)
  | @part quote _ after read takes short holds booked closed =>
    have left : attempt.order.matchType ≠ .cancelMatch := by
      obtain ⟨_, _, _, wrote⟩ := booked
      rw [closed.left, wrote]
      split <;> simp [withTransId, partFilled, OrderMessage.markedAs]
    have waits : Waits hash pool order quote.cjsl attempt ↔ _ := part_waits_iff read takes short ran booked closed
    simp only [Keeps, holds, Bool.false_eq_true, if_false, ← waits]
    constructor
    · intro kept other again _ _
      cases read.symm.trans again
      obtain ⟨_, same, waiting | cancelled⟩ := kept ⟨quote, read, takes, short⟩
      · cases read.symm.trans same
        exact waiting
      · exact absurd cancelled.ended left
    · intro keeps _
      exact ⟨quote, read, .inl (keeps quote read takes short)⟩
  | @cut quote _ _ read takes short cancels cancel booked report unwritten ends =>
    have ended : attempt.order.matchType = .cancelMatch := by
      obtain ⟨_, _, _, wrote⟩ := booked
      rw [wrote, cancel]
      rfl
    have withdraws := cut_withdrawn_iff read takes short cancels ran ended (report.trans (by rw [cancel]; rfl))
    simp only [Keeps, cancels, if_true]
    constructor
    · intro kept other again _ _
      cases read.symm.trans again
      obtain ⟨_, same, waiting | cancelled⟩ := kept ⟨quote, read, takes, short⟩
      · exact absurd (waits_requeued waiting) (by simp [ends])
      · cases read.symm.trans same
        exact withdraws.mp cancelled
    · intro keeps _
      exact ⟨quote, read, .inr (withdraws.mpr (keeps quote read takes short))⟩
  | @whole quote _ _ read takes enough booked closed =>
    refine iff_of_true ?_ fun other again _ short => ?_
    · rintro ⟨other, again, -, short⟩
      cases read.symm.trans again
      exact absurd short (UInt64.not_lt.mpr enough)
    · cases read.symm.trans again
      exact absurd short (UInt64.not_lt.mpr enough)

end Runs

/-- A limit order of a hundred on a quote of sixty: forty wait on at the only worker. -/
theorem part_fill_kept_limit : ∃ attempt,
    enableQuoMatch (fun _ _ => none) QuoteConservation.sampleRound (fun _ _ => none)
      (QuoteConservation.sampleBuy .ordinaryLimit) = some attempt ∧ attempt.order.leavesQty = 40 ∧
    RestKept (fun _ => 0) [{}] (fun _ _ => none) QuoteConservation.sampleRound (fun _ _ => none)
      (QuoteConservation.sampleBuy .ordinaryLimit) attempt := by
  refine ⟨_, rfl, rfl, (part_fill_kept_iff (fun _ => 0) [{}] rfl).mpr ?_⟩
  intro quote read _ _
  cases read
  exact ⟨.inl rfl, rfl, {}, rfl, by decide⟩

/-- Of the same order at the own side's best the forty are neither queued nor cancelled. -/
theorem own_side_rest_disappears :
    ¬ ∀ (hash : String → Int) (pool : PriorityThreadPool) (db : StockDb) (round : Round) (cache : StockCache)
        (order : OrderMessage) (attempt : Attempt), enableQuoMatch db round cache order = some attempt →
      RestKept hash pool db round cache order attempt := by
  intro always
  obtain ⟨_, _, waits | cancelled⟩ := always (fun _ => 0) [{}] (fun _ _ => none) QuoteConservation.sampleRound
    (fun _ _ => none) (QuoteConservation.sampleBuy .theSideOptimal) _ rfl ⟨by decide, by decide⟩
  · exact absurd (waits_requeued waits) (by decide)
  · exact absurd cancelled.ended (by decide)

end Simutgw.Proofs.PartFill
