import Simutgw.CancelTask
import Simutgw.Proofs.CancelLookup
import Simutgw.Proofs.OrderPrecedence

/-! Whether a cancel comes after the order it names. Behind the validation a match
worker takes the tasks of its own queue, cancels first. An order it does not end goes
back under the same key, so it stays with one worker until it leaves for good, and a
cancel under that key is run when nothing else of the worker is in hand. -/

namespace Simutgw.Proofs.CancelPrecedence
open Logic TaskValidOrder OrderRepeat OrderPrecedence CancelLookup QuoteMatching ABStockMatch

/-- The validation, what each match worker has in hand, the tasks that have left the
match queues for good, and the cancels that were run, under their numbers. -/
structure Floor where
  watch : Watch
  hands : Nat → Option Task := fun _ => none
  ended : List Task := []
  cancels : List (Nat × OrderMessage) := []

inductive Happening where
  | valid (event : TaskValidOrder.Event)
  | fetch (worker : Nat)
  | work (worker : Nat) (round : Round)

namespace Floor

abbrev gateway (floor : Floor) : Gateway := floor.watch.gateway

/-- A worker's turn leaves the threads of the validation alone. -/
def turned (floor : Floor) (worker : Nat) (hand : Option Task) (matchPool : PriorityThreadPool) (cache : StockCache)
    (pushed : List OrderMessage) : Floor :=
  { floor with
    watch := { floor.watch with
      gateway := { floor.gateway with matchPool, cache, outMsg := floor.gateway.outMsg ++ pushed } }
    hands := Function.update floor.hands worker hand }

def fetch (floor : Floor) (worker : Nat) : Option Floor :=
  match floor.hands worker, floor.gateway.matchPool[worker]? with
  | none, some queue =>
    queue.getTask.map fun (task, queue) =>
      floor.turned worker (some task) (floor.gateway.matchPool.set worker queue) floor.gateway.cache []
  | _, _ => none

/-- Where two messages are alike in every field, both count as run. -/
def runCancel (floor : Floor) (worker : Nat) (queue : TaskPriorityQueue) (task : Task) (transId : String) :
    Option Floor :=
  (TaskCancelOrder.procSingleCancelOrder queue floor.gateway.cache task transId).map fun cancelled =>
    { floor.turned worker none (floor.gateway.matchPool.set worker cancelled.queue) cancelled.cache
        cancelled.pushed with
      ended := floor.ended ++ ((queue.deleteIfHaveTask task.key task.order.origClOrdId).map Prod.fst).toList
      cancels := floor.cancels ++ floor.watch.queued.filter fun one => one.2 = task.order }

/-- An order that is not queued again has left. -/
def runMatch (setting : Setting) (floor : Floor) (worker : Nat) (task : Task) (round : Round) :
    Option Floor :=
  (task.kind.run setting.env.db round floor.gateway.cache task.order).map fun attempt =>
    let again : Int × PriorityThreadPool := if attempt.requeued then
        GenTaskHelper.assignMatch setting.hash floor.gateway.matchPool attempt.order
      else (-1, floor.gateway.matchPool)
    { floor.turned worker none again.2 attempt.cache attempt.pushed with
      ended := if again.1 = 0 then floor.ended else floor.ended ++ [task] }

def work (setting : Setting) (floor : Floor) (worker : Nat) (round : Round) : Option Floor :=
  match floor.hands worker, floor.gateway.matchPool[worker]? with
  | some task, some queue =>
    if task.kind = .cancelOrder then floor.runCancel worker queue task round.transId
    else floor.runMatch setting worker task round
  | _, _ => none

/-- The match workers change their queues here by their own turns alone. -/
def step (setting : Setting) (floor : Floor) : Happening → Option Floor
  | .valid (.matching _ _) => none
  | .valid event => (floor.watch.step setting event).map fun watch => { floor with watch }
  | .fetch worker => floor.fetch worker
  | .work worker round => floor.work setting worker round

end Floor

def Step (setting : Setting) : Steps Floor Happening := fun before happening after =>
  before.step setting happening = some after

/-- The cancel looks for the order where it waits: an ordinary order of its own security
and side. -/
def Reaches (cancel order : OrderMessage) : Prop :=
  GenTaskHelper.genTaskMatch order = some .aBStockMatch ∧ cancel.stockID = order.stockID ∧ cancel.side = order.side

/-- The orders of a security and side are queued as they were received. Of an earlier
order a cancel names, that has been run, it holds that it was turned away or queued
before; and where the cancel reaches it, an order under its id has left the queue for good. -/
structure InTurn (floor : Floor) : Prop where
  orders : floor.watch.queued.Pairwise fun one two => SameBook one.2 two.2 → one.1 < two.1
  cancels : ∀ cancel ∈ floor.cancels, ∀ number order, floor.watch.lines.arrivals[number]? = some order →
    number < cancel.1 → Names cancel.2 order → (number, order) ∈ floor.watch.lines.dropped ∨
      ∃ queued, (number, queued) ∈ floor.watch.queued ∧ Named order queued ∧
        (Reaches cancel.2 queued → ∃ task ∈ floor.ended, task.clOrdId = order.clOrdId)

/-- The condition is the validation's. -/
def Meets (setting : Setting) (floor : Floor) : Happening → Prop
  | .valid event => Joins setting floor.watch event
  | _ => True

section Queues

/-- A task as the match queues are given theirs. -/
def Made (hash : String → Int) (task : Task) : Prop :=
  GenTaskHelper.genTaskMatch task.order = some task.kind ∧ task = Task.setOrderMsg hash task.kind task.order

/-- Cancels and matches apart, and nothing else. -/
structure Sorted (queue : TaskPriorityQueue) : Prop where
  ordered : queue.p3OrderQue = []
  checks : queue.p2Que = []
  standby : queue.p1Que = []
  cancels : ∀ task ∈ queue.p4Que, task.kind = .cancelOrder
  matches' : ∀ task ∈ queue.p3UnorderQue, task.kind ≠ .cancelOrder

def Holds (queue : TaskPriorityQueue) (task : Task) : Prop := task ∈ queue.p4Que ∨ task ∈ queue.p3UnorderQue

variable {hash : String → Int} {task : Task} {queue rest : TaskPriorityQueue}

theorem genTaskMatch_validOrder (order : OrderMessage) : GenTaskHelper.genTaskMatch order ≠ some .validOrder := by
  unfold GenTaskHelper.genTaskMatch
  repeat' split
  all_goals exact nofun

theorem Made.unordered (made : Made hash task) : task.isMatchOrdered = false := by
  obtain ⟨_, same⟩ := made
  rw [same]
  cases task.kind <;> rfl

theorem Made.clOrdId (made : Made hash task) : task.clOrdId = task.order.clOrdId := by
  obtain ⟨matched, same⟩ := made
  cases kind : task.kind with
  | validOrder => exact absurd (kind ▸ matched) (genTaskMatch_validOrder task.order)
  | aBStockMatch | etfMatch | shRuleMatch | szRuleMatch | cancelOrder =>
    rw [kind] at same
    rw [same]
    rfl

theorem Made.priority (made : Made hash task) :
    task.priority = if task.kind = .cancelOrder then .cancelOrder else .matchOrder := by
  obtain ⟨matched, same⟩ := made
  cases kind : task.kind with
  | validOrder => exact absurd (kind ▸ matched) (genTaskMatch_validOrder task.order)
  | aBStockMatch | etfMatch | shRuleMatch | szRuleMatch | cancelOrder =>
    rw [kind] at same
    rw [same]
    rfl

theorem Sorted.adds (sorted : Sorted queue) (made : Made hash task)
    (added : queue.addTask task task.isMatchOrdered = (0, rest)) :
    Sorted rest ∧ ∀ one, Holds rest one ↔ Holds queue one ∨ one = task := by
  obtain ⟨ordered, checks, standby, cancels, matches'⟩ := sorted
  rw [made.unordered] at added
  unfold TaskPriorityQueue.addTask at added
  split at added
  · cases added
  · rw [made.priority] at added
    by_cases cancel : task.kind = .cancelOrder
    · simp only [if_pos cancel, Prod.mk.injEq, true_and] at added
      subst added
      refine ⟨⟨ordered, checks, standby, fun one member => ?_, matches'⟩, fun one => ?_⟩
      · rcases List.mem_append.mp member with old | new
        · exact cancels one old
        · rw [List.mem_singleton.mp new]
          exact cancel
      · simp only [Holds, List.mem_append, List.mem_singleton]
        exact or_right_comm
    · simp only [if_neg cancel, Bool.false_eq_true, if_false, Prod.mk.injEq, true_and] at added
      subst added
      refine ⟨⟨ordered, checks, standby, cancels, fun one member => ?_⟩, fun one => ?_⟩
      · rcases List.mem_append.mp member with old | new
        · exact matches' one old
        · rw [List.mem_singleton.mp new]
          exact cancel
      · simp only [Holds, List.mem_append, List.mem_singleton]
        exact or_assoc.symm

theorem Sorted.gets (sorted : Sorted queue) (taken : queue.getTask = some (task, rest)) :
    Sorted rest ∧ ∀ one, Holds queue one ↔ one = task ∨ Holds rest one := by
  obtain ⟨ordered, checks, standby, cancels, matches'⟩ := sorted
  unfold TaskPriorityQueue.getTask at taken
  simp only [ordered, TaskPriorityQueue.popOrdered, checks, standby] at taken
  cases cancelFront : queue.p4Que with
  | cons head tail =>
    rw [cancelFront] at taken cancels
    simp only [Option.some.injEq, Prod.mk.injEq] at taken
    obtain ⟨rfl, rfl⟩ := taken
    have kept := (List.forall_mem_cons.mp cancels).2
    refine ⟨?_, fun one => ?_⟩
    · split <;> exact ⟨rfl, rfl, rfl, kept, matches'⟩
    · rw [Holds, cancelFront, List.mem_cons, or_assoc]
      split <;> rfl
  | nil =>
    rw [cancelFront] at taken
    cases matchFront : queue.p3UnorderQue with
    | cons head tail =>
      rw [matchFront] at taken matches'
      simp only [Option.some.injEq, Prod.mk.injEq] at taken
      obtain ⟨rfl, rfl⟩ := taken
      have kept := (List.forall_mem_cons.mp matches').2
      refine ⟨?_, fun one => ?_⟩
      · split <;> exact ⟨rfl, rfl, rfl, fun one member => absurd member List.not_mem_nil, kept⟩
      · rw [Holds, cancelFront, matchFront, List.mem_cons, or_left_comm]
        split <;> rfl
    | nil =>
      rw [matchFront] at taken
      cases taken

theorem Sorted.deletes (sorted : Sorted queue) (key : Int) (clOrdId : String) :
    match queue.deleteIfHaveTask key clOrdId with
    | none => ∀ one, Holds queue one → one.kind ≠ .cancelOrder → one.clOrdId ≠ clOrdId
    | some (task, rest) => Sorted rest ∧ task.clOrdId = clOrdId ∧ ∀ one, Holds queue one ↔ one = task ∨ Holds rest one := by
  obtain ⟨ordered, checks, standby, cancels, matches'⟩ := sorted
  have found := deleteOrderByClordId_spec clOrdId queue.p3UnorderQue
  unfold TaskPriorityQueue.deleteIfHaveTask
  simp only [ordered, TaskPriorityQueue.deleteOrdered, checks, standby, TaskPriorityQueue.deleteOrderByClordId]
  cases deleted : TaskPriorityQueue.deleteOrderByClordId clOrdId queue.p3UnorderQue with
  | none =>
    rw [deleted] at found
    simp only at found ⊢
    intro one held ordinary same
    rcases held with cancel | waiting
    · exact ordinary (cancels one cancel)
    · exact absurd (List.find?_eq_none.mp found one waiting) (by simp [Under, same])
  | some result =>
    obtain ⟨task, left⟩ := result
    rw [deleted] at found
    obtain ⟨first, before, after, all, rest⟩ := found
    simp only
    refine ⟨⟨rfl, rfl, rfl, cancels, fun one member => matches' one ?_⟩, ?_, fun one => ?_⟩
    · simp only [rest, List.mem_append] at member
      simp only [all, List.mem_append, List.mem_cons]
      exact member.imp_right .inr
    · simpa [Under] using List.find?_some first
    · simp only [Holds, all, rest, List.mem_append, List.mem_cons]
      constructor
      · rintro (cancel | before | here | after)
        · exact .inr (.inl cancel)
        · exact .inr (.inr (.inl before))
        · exact .inl here
        · exact .inr (.inr (.inr after))
      · rintro (here | cancel | before | after)
        · exact .inr (.inr (.inl here))
        · exact .inl cancel
        · exact .inr (.inl before)
        · exact .inr (.inr (.inr after))

end Queues

section Pools

variable {hash : String → Int} {pool : PriorityThreadPool} {worker : Nat} {queue rest : TaskPriorityQueue}

/-- The worker's queue has the task. -/
def Waits (pool : PriorityThreadPool) (worker : Nat) (task : Task) : Prop :=
  ∃ queue, pool[worker]? = some queue ∧ Holds queue task

theorem workerOf_length {grown : PriorityThreadPool} (length : grown.length = pool.length) (key : Int) :
    grown.workerOf key = pool.workerOf key := by
  unfold PriorityThreadPool.workerOf
  rw [length]

theorem waits_here (found : pool[worker]? = some queue) (one : Task) : Waits pool worker one ↔ Holds queue one := by
  constructor
  · rintro ⟨other, there, holds⟩
    cases found.symm.trans there
    exact holds
  · exact fun holds => ⟨queue, found, holds⟩

theorem waits_set_here (found : pool[worker]? = some queue) (one : Task) :
    Waits (pool.set worker rest) worker one ↔ Holds rest one := by
  obtain ⟨inside, _⟩ := List.getElem?_eq_some_iff.mp found
  exact waits_here (List.getElem?_set_self inside) one

theorem waits_set_other {other : Nat} (different : other ≠ worker) (one : Task) :
    Waits (pool.set worker rest) other one ↔ Waits pool other one := by
  unfold Waits
  rw [List.getElem?_set_ne different.symm]

theorem sorted_set (sorted : ∀ queue ∈ pool, Sorted queue) (this : Sorted rest) :
    ∀ queue ∈ pool.set worker rest, Sorted queue := by
  intro queue member
  rcases List.mem_or_eq_of_mem_set member with old | rfl
  · exact sorted queue old
  · exact this

theorem assignMatch_cases (sorted : ∀ queue ∈ pool, Sorted queue) (hash : String → Int) (order : OrderMessage) :
    ((GenTaskHelper.assignMatch hash pool order).1 ≠ 0 ∧ (GenTaskHelper.assignMatch hash pool order).2 = pool) ∨
    ∃ task grown, GenTaskHelper.assignMatch hash pool order = (0, grown) ∧ Made hash task ∧ task.order = order ∧
      grown.length = pool.length ∧ (∀ queue ∈ grown, Sorted queue) ∧
      ∀ worker one, Waits grown worker one ↔ Waits pool worker one ∨ worker = pool.workerOf task.key ∧ one = task := by
  unfold GenTaskHelper.assignMatch
  cases matched : GenTaskHelper.genTaskMatch order with
  | none => exact .inl ⟨by simp, rfl⟩
  | some kind =>
    obtain ⟨task, set⟩ : ∃ task, Task.setOrderMsg hash kind order = task := ⟨_, rfl⟩
    have own : task.order = order := by
      rw [← set]
      cases kind <;> rfl
    have typed : task.kind = kind := by
      rw [← set]
      cases kind <;> rfl
    have made : Made hash task := by
      unfold Made
      rw [own, typed]
      exact ⟨matched, set.symm⟩
    simp only [set, PriorityThreadPool.assignTaskWithKey]
    cases found : pool[pool.workerOf task.key]? with
    | none => exact .inl ⟨by simp, rfl⟩
    | some queue =>
      simp only
      split
      next rest added =>
        obtain ⟨fits, holds⟩ := (sorted queue (List.mem_of_getElem? found)).adds made added
        refine .inr ⟨task, _, rfl, made, own, List.length_set, sorted_set sorted fits, fun worker one => ?_⟩
        by_cases here : worker = pool.workerOf task.key
        · subst here
          rw [waits_set_here found, holds, waits_here found]
          simp
        · rw [waits_set_other here]
          simp [here]
      next => exact .inl ⟨by simp, rfl⟩

end Pools

section Runs

/-- What decides under which key an order waits, and its id. -/
structure Keyed (before after : OrderMessage) : Prop where
  clOrdId : after.clOrdId = before.clOrdId
  stockID : after.stockID = before.stockID
  side : after.side = before.side
  tradeType : after.tradeType = before.tradeType
  tradePolicy : after.tradePolicy = before.tradePolicy

theorem Keyed.refl (order : OrderMessage) : Keyed order order := ⟨rfl, rfl, rfl, rfl, rfl⟩

theorem Keyed.trans {first second third : OrderMessage} (one : Keyed first second) (two : Keyed second third) :
    Keyed first third :=
  ⟨two.clOrdId.trans one.clOrdId, two.stockID.trans one.stockID, two.side.trans one.side,
    two.tradeType.trans one.tradeType, two.tradePolicy.trans one.tradePolicy⟩

theorem keyed_refused {before after : OrderMessage} (refused : Refused before after) : Keyed before after := by
  obtain ⟨_, _, _, _, rfl, _⟩ := refused
  exact ⟨rfl, rfl, rfl, rfl, rfl⟩

theorem keyed_reserved {before after : OrderMessage}
    (reserved : ∃ sellCps sellEtfCps, after = { before with sellCps, sellEtfCps }) : Keyed before after := by
  obtain ⟨_, _, rfl⟩ := reserved
  exact ⟨rfl, rfl, rfl, rfl, rfl⟩

variable {db : StockDb} {round : Round} {cache : StockCache} {order : OrderMessage} {attempt : Attempt}

theorem fill_keyed (remainderCancel : Bool) (cjsl cjje : UInt64) :
    Keyed order (fill remainderCancel round cache order cjsl cjje).order := by
  unfold fill
  simp only
  split
  · split <;> exact ⟨rfl, rfl, rfl, rfl, rfl⟩
  · exact ⟨rfl, rfl, rfl, rfl, rfl⟩

theorem matchWith_keyed {limit remainderCancel : Bool} {cjsl cjje : UInt64} {matched : Matched}
    (done : matchWith limit remainderCancel db round cache order cjsl cjje = some matched) :
    Keyed order matched.order := by
  unfold matchWith at done
  rcases checkMatchMethod_cases order cjsl cjje limit with ⟨_, passed⟩ | ⟨_, refused, found, refusal⟩
  · simp only [passed] at done
    obtain ⟨updated, books, rfl⟩ := Option.map_eq_some_iff.mp done
    have traded := (fill_keyed remainderCancel cjsl cjje).trans (keyed_reserved (updateAfterTrade_order books))
    exact ⟨traded.clOrdId, traded.stockID, traded.side, traded.tradeType, traded.tradePolicy⟩
  · simp only [found] at done
    cases done
    exact keyed_refused refusal

theorem quotMatchByMarket_keyed {quote : Quote} {matched : Matched}
    (done : quotMatchByMarket db round cache order quote = some matched) : Keyed order matched.order := by
  have marked : Keyed order (order.markedAs .notMatch) := ⟨rfl, rfl, rfl, rfl, rfl⟩
  refine marked.trans ?_
  unfold quotMatchByMarket at done
  generalize order.markedAs .notMatch = order at done ⊢
  simp only at done
  rcases checkTPBZ_cases order quote.tpbz with ⟨_, passed⟩ | ⟨_, refused, found, refusal⟩
  · simp only [passed] at done
    split at done
    · cases done
      exact .refl order
    · split at done
      · rcases checkMaxGainAndMinFall_cases order quote with ⟨_, within⟩ | ⟨_, refused, found, refusal⟩
        · simp only [within] at done
          exact matchWith_keyed done
        · simp only [found] at done
          cases done
          have refuses := keyed_refused refusal
          exact ⟨refuses.clOrdId, refuses.stockID, refuses.side, refuses.tradeType, refuses.tradePolicy⟩
      all_goals exact matchWith_keyed done
  · simp only [found] at done
    cases done
    exact keyed_refused refusal

theorem answer_keyed (attempt : Attempt) : Keyed attempt.order (answer attempt).order := by
  unfold answer
  split <;> exact ⟨rfl, rfl, rfl, rfl, rfl⟩

theorem enableQuoMatch_keyed (done : enableQuoMatch db round cache order = some attempt) : Keyed order attempt.order := by
  obtain ⟨tried, matched, rfl⟩ := Option.map_eq_some_iff.mp done
  refine Keyed.trans ?_ (answer_keyed tried)
  unfold quotMatchOrder at matched
  simp only at matched
  split at matched
  · cases matched
    exact ⟨rfl, rfl, rfl, rfl, rfl⟩
  next quote _ =>
    obtain ⟨filled, found, matched⟩ := Option.bind_eq_some_iff.mp matched
    have keyed := quotMatchByMarket_keyed found
    split at matched
    · cases matched
      exact keyed
    · split at matched <;> cases matched
      · exact keyed
      · exact ⟨keyed.clOrdId, keyed.stockID, keyed.side, keyed.tradeType, keyed.tradePolicy⟩

theorem simulated_keyed {requeue : Bool} (done : simulated db cache order requeue = some attempt) :
    Keyed order attempt.order := by
  obtain ⟨updated, books, rfl⟩ := Option.map_eq_some_iff.mp done
  exact keyed_reserved (updateAfterTrade_order books)

theorem divided_keyed {matchType : MatchType} {matched : UInt64}
    (done : divided db round cache order matchType matched = some attempt) : Keyed order attempt.order := by
  have keyed := simulated_keyed done
  exact ⟨keyed.clOrdId, keyed.stockID, keyed.side, keyed.tradeType, keyed.tradePolicy⟩

/-- Whatever a match does with an order, it would wait under the same key again. -/
theorem matchOrder_keyed (done : matchOrder db round cache order = some attempt) : Keyed order attempt.order := by
  unfold matchOrder at done
  split at done
  · exact enableQuoMatch_keyed done
  · have keyed := simulated_keyed done
    exact ⟨keyed.clOrdId, keyed.stockID, keyed.side, keyed.tradeType, keyed.tradePolicy⟩
  · unfold simulMatchByDivide at done
    simp only at done
    split at done
    · cases done
    · split at done <;> exact divided_keyed done
  · cases done
    exact .refl order
  · cases done
    unfold simulErrMatch
    split
    · obtain ⟨errorCode, wrote⟩ := withErrorCode_eq { order with
        matchType := .errorMatch, dataError := true, error := "模拟错误应答" } SzErrCode.c20001 ShErrCode.c215
      simp only [wrote]
      exact ⟨rfl, rfl, rfl, rfl, rfl⟩
    · exact .refl order
  · unfold simulMatchPart at done
    split at done
    · cases done
      exact .refl order
    · split at done <;> exact divided_keyed done

theorem Keyed.matched {before after : OrderMessage} (keyed : Keyed before after) :
    GenTaskHelper.genTaskMatch after = GenTaskHelper.genTaskMatch before := by
  unfold GenTaskHelper.genTaskMatch
  rw [keyed.tradePolicy, keyed.tradeType]

theorem Keyed.key {before after : OrderMessage} (keyed : Keyed before after) (hash : String → Int) :
    (Task.setOrderMsg hash .aBStockMatch after).key = (Task.setOrderMsg hash .aBStockMatch before).key := by
  simp only [Task.setOrderMsg, Task.matching, keyed.stockID, keyed.side]

theorem run_requeues {kind : TaskKind} (done : kind.run db round cache order = some attempt)
    (requeued : attempt.requeued = true) : kind = .aBStockMatch ∧ Keyed order attempt.order := by
  cases kind with
  | aBStockMatch => exact ⟨rfl, matchOrder_keyed done⟩
  | etfMatch =>
    simp only [TaskKind.run, TaskEtfMatch.matchOrder] at done
    split at done
    · obtain ⟨updated, _, rfl⟩ := Option.map_eq_some_iff.mp done
      cases requeued
    · cases done
      cases requeued
  | shRuleMatch | szRuleMatch =>
    cases done
    cases requeued
  | cancelOrder | validOrder => cases done

theorem Made.again {hash : String → Int} {task next : Task} (made : Made hash task) (again : Made hash next)
    (ordinary : task.kind = .aBStockMatch) (keyed : Keyed task.order next.order) :
    next.kind = .aBStockMatch ∧ next.key = task.key ∧ next.clOrdId = task.clOrdId := by
  have id := made.clOrdId
  have nextId := again.clOrdId
  obtain ⟨matched, same⟩ := made
  obtain ⟨nextMatched, nextSame⟩ := again
  rw [ordinary] at matched same
  rw [keyed.matched, matched, Option.some.injEq] at nextMatched
  rw [← nextMatched] at nextSame
  refine ⟨nextMatched.symm, ?_, ?_⟩
  · rw [nextSame, same]
    exact keyed.key hash
  · rw [nextId, id, keyed.clOrdId]

end Runs

section Floors

variable {setting : Setting} {floor after : Floor} {hash : String → Int}

/-- Waiting with the worker or in its hand. -/
def At (floor : Floor) (worker : Nat) (task : Task) : Prop :=
  Waits floor.gateway.matchPool worker task ∨ floor.hands worker = some task

/-- An order of the id is with the worker, or has left for good. -/
def Stays (floor : Floor) (worker : Nat) (clOrdId : String) : Prop :=
  (∃ task, At floor worker task ∧ task.kind ≠ .cancelOrder ∧ task.clOrdId = clOrdId) ∨
    ∃ task ∈ floor.ended, task.clOrdId = clOrdId

/-- Every task is with the worker of its key, and no ordinary order that was queued is
lost out of sight. -/
structure Manned (hash : String → Int) (floor : Floor) : Prop where
  sorted : ∀ queue ∈ floor.gateway.matchPool, Sorted queue
  made : ∀ worker task, At floor worker task → Made hash task ∧
    floor.gateway.matchPool.workerOf task.key = worker ∧ (task.kind = .cancelOrder → task.order ∈ floor.gateway.accepted)
  stays : ∀ order ∈ floor.gateway.accepted, GenTaskHelper.genTaskMatch order = some .aBStockMatch →
    Stays floor (floor.gateway.matchPool.workerOf (Task.setOrderMsg hash .aBStockMatch order).key) order.clOrdId

/-- What a step must account for: the tasks that come, and the orders that go. -/
theorem Manned.changes (manned : Manned hash floor)
    (length : after.gateway.matchPool.length = floor.gateway.matchPool.length)
    (sorted : ∀ queue ∈ after.gateway.matchPool, Sorted queue)
    (comes : ∀ worker task, At after worker task → At floor worker task ∨ Made hash task ∧
      floor.gateway.matchPool.workerOf task.key = worker ∧
      (task.kind = .cancelOrder → task.order ∈ after.gateway.accepted))
    (goes : ∀ worker task, At floor worker task → task.kind ≠ .cancelOrder → Stays after worker task.clOrdId)
    (ended : ∀ task ∈ floor.ended, task ∈ after.ended)
    (older : ∀ order ∈ floor.gateway.accepted, order ∈ after.gateway.accepted)
    (newer : ∀ order ∈ after.gateway.accepted, order ∈ floor.gateway.accepted ∨
      (GenTaskHelper.genTaskMatch order = some .aBStockMatch →
        Stays after (floor.gateway.matchPool.workerOf (Task.setOrderMsg hash .aBStockMatch order).key) order.clOrdId)) :
    Manned hash after where
  sorted := sorted
  made worker task here := by
    rw [workerOf_length length]
    rcases comes worker task here with before | new
    · obtain ⟨made, home, known⟩ := manned.made worker task before
      exact ⟨made, home, fun cancel => older _ (known cancel)⟩
    · exact new
  stays order accepted ordinary := by
    rw [workerOf_length length]
    rcases newer order accepted with before | new
    · rcases manned.stays order before ordinary with ⟨task, here, match', id⟩ | ⟨task, left, id⟩
      · exact id ▸ goes _ task here match'
      · exact .inr ⟨task, ended task left, id⟩
    · exact new ordinary

theorem Manned.queues (manned : Manned hash floor) {order : OrderMessage}
    (assigned : GenTaskHelper.assignMatch hash floor.gateway.matchPool order = (0, after.gateway.matchPool))
    (hands : after.hands = floor.hands) (ended : after.ended = floor.ended)
    (accepted : after.gateway.accepted = floor.gateway.accepted ++ [order]) : Manned hash after := by
  rcases assignMatch_cases manned.sorted hash order with ⟨failed, _⟩ | ⟨task, grown, found, made, own, length, sorted, waits⟩
  · exact absurd (by rw [assigned]) failed
  · cases assigned.symm.trans found
    have stays {worker : Nat} {one : Task} (here : At floor worker one) : At after worker one := by
      rcases here with waiting | inHand
      · exact .inl ((waits worker one).mpr (.inl waiting))
      · exact .inr (by rw [hands, inHand])
    refine manned.changes length sorted (fun worker one here => ?_) (fun worker one here ordinary =>
      .inl ⟨one, stays here, ordinary, rfl⟩) (fun one left => by rw [ended]; exact left)
      (fun one before => by rw [accepted]; exact List.mem_append_left _ before) (fun one now => ?_)
    · rcases here with waiting | inHand
      · rcases (waits worker one).mp waiting with before | ⟨home, rfl⟩
        · exact .inl (.inl before)
        · refine .inr ⟨made, home.symm, fun _ => ?_⟩
          rw [accepted, own]
          exact List.mem_append_right _ (List.mem_singleton_self _)
      · exact .inl (.inr (by rw [← hands, inHand]))
    · rw [accepted] at now
      rcases List.mem_append.mp now with before | new
      · exact .inl before
      · rw [List.mem_singleton.mp new]
        refine .inr fun ordinary => .inl ⟨task, .inl ((waits _ task).mpr (.inr ⟨?_, rfl⟩)), ?_, ?_⟩
        · obtain ⟨matched, same⟩ := made
          rw [own, ordinary, Option.some.injEq] at matched
          rw [← matched, own] at same
          rw [← same]
        · obtain ⟨matched, _⟩ := made
          rw [own, ordinary, Option.some.injEq] at matched
          rw [← matched]
          decide
        · rw [made.clOrdId, own]

/-- A worker's turn on its own queue: nothing comes, and what goes is accounted for. -/
theorem Manned.turns (manned : Manned hash floor) {worker : Nat} {hand : Option Task} {more : List Task}
    {queue rest : TaskPriorityQueue} (found : floor.gateway.matchPool[worker]? = some queue)
    (pool : after.gateway.matchPool = floor.gateway.matchPool.set worker rest)
    (hands : after.hands = Function.update floor.hands worker hand) (ended : after.ended = floor.ended ++ more)
    (accepted : after.gateway.accepted = floor.gateway.accepted) (sorted : Sorted rest)
    (comes : ∀ one, Holds rest one ∨ hand = some one → At floor worker one)
    (goes : ∀ one, At floor worker one → one.kind ≠ .cancelOrder →
      (Holds rest one ∨ hand = some one) ∨ ∃ other ∈ more, other.clOrdId = one.clOrdId) : Manned hash after := by
  have here (one : Task) : At after worker one ↔ Holds rest one ∨ hand = some one := by
    rw [At, pool, waits_set_here found, hands, Function.update_self]
  have there {other : Nat} (different : other ≠ worker) (one : Task) : At after other one ↔ At floor other one := by
    rw [At, pool, waits_set_other different, hands, Function.update_of_ne different, At]
  refine manned.changes (by rw [pool, List.length_set]) (by rw [pool]; exact sorted_set manned.sorted sorted)
    (fun other one now => .inl ?_) (fun other one before ordinary => ?_)
    (fun one left => by rw [ended]; exact List.mem_append_left _ left) (fun one before => by rw [accepted]; exact before)
    (fun one now => .inl (by rw [← accepted]; exact now))
  · by_cases same : other = worker
    · subst same
      exact comes one ((here one).mp now)
    · exact (there same one).mp now
  · by_cases same : other = worker
    · subst same
      rcases goes one before ordinary with stays | ⟨next, left, id⟩
      · exact .inl ⟨one, (here one).mpr stays, ordinary, rfl⟩
      · exact .inr ⟨next, by rw [ended]; exact List.mem_append_right _ left, id⟩
    · exact .inl ⟨one, (there same one).mpr before, ordinary, rfl⟩

theorem at_free {worker : Nat} {queue : TaskPriorityQueue} (free : floor.hands worker = none)
    (found : floor.gateway.matchPool[worker]? = some queue) (one : Task) : At floor worker one ↔ Holds queue one := by
  unfold At
  rw [waits_here found, free]
  simp

theorem Manned.fetches (manned : Manned hash floor) {worker : Nat} (done : floor.fetch worker = some after) :
    Manned hash after := by
  unfold Floor.fetch at done
  split at done
  next queue free found =>
    obtain ⟨⟨task, rest⟩, taken, rfl⟩ := Option.map_eq_some_iff.mp done
    obtain ⟨sorted, holds⟩ := (manned.sorted queue (List.mem_of_getElem? found)).gets taken
    refine manned.turns found rfl rfl (List.append_nil _).symm rfl sorted (fun one now => ?_)
      (fun one before ordinary => .inl ?_)
    · rw [at_free free found, holds]
      rcases now with waits | same
      · exact .inr waits
      · exact .inl (Option.some.inj same).symm
    · rw [at_free free found, holds] at before
      rcases before with rfl | waits
      · exact .inr rfl
      · exact .inl waits
  next => cases done

theorem at_busy {worker : Nat} {queue : TaskPriorityQueue} {task : Task} (busy : floor.hands worker = some task)
    (found : floor.gateway.matchPool[worker]? = some queue) (one : Task) :
    At floor worker one ↔ Holds queue one ∨ one = task := by
  unfold At
  rw [waits_here found, busy, Option.some.injEq, eq_comm]

theorem Manned.runsCancel (manned : Manned hash floor) {worker : Nat} {queue : TaskPriorityQueue} {task : Task}
    {transId : String} (busy : floor.hands worker = some task)
    (found : floor.gateway.matchPool[worker]? = some queue) (cancel : task.kind = .cancelOrder)
    (done : floor.runCancel worker queue task transId = some after) : Manned hash after ∧
      ∀ one, At floor worker one → one.kind ≠ .cancelOrder → one.clOrdId = task.order.origClOrdId →
        ∃ other ∈ after.ended, other.clOrdId = task.order.origClOrdId := by
  obtain ⟨cancelled, ran, rfl⟩ := Option.map_eq_some_iff.mp done
  have own := manned.sorted queue (List.mem_of_getElem? found)
  have spec := own.deletes task.key task.order.origClOrdId
  have waits {one : Task} (here : At floor worker one) (ordinary : one.kind ≠ .cancelOrder) : Holds queue one := by
    rcases (at_busy busy found one).mp here with waits | rfl
    · exact waits
    · exact absurd cancel ordinary
  rcases procSingleCancelOrder_queue ran with ⟨nothing, same⟩ | ⟨gone, taken⟩
  · rw [nothing] at spec
    have ended : floor.ended ++ ((queue.deleteIfHaveTask task.key task.order.origClOrdId).map Prod.fst).toList =
        floor.ended ++ [] := by rw [nothing]; rfl
    refine ⟨manned.turns found (congrArg _ same) rfl ended rfl own (fun one now => ?_)
      (fun one before ordinary => .inl (.inl (waits before ordinary))), fun one before ordinary id => ?_⟩
    · rcases now with holds | none
      · exact (at_busy busy found one).mpr (.inl holds)
      · cases none
    · exact absurd id (spec one (waits before ordinary) ordinary)
  · rw [taken] at spec
    obtain ⟨sorted, named, holds⟩ := spec
    have ended : floor.ended ++ ((queue.deleteIfHaveTask task.key task.order.origClOrdId).map Prod.fst).toList =
        floor.ended ++ [gone] := by rw [taken]; rfl
    refine ⟨manned.turns found rfl rfl ended rfl sorted (fun one now => ?_)
      (fun one before ordinary => ?_), fun one before ordinary id => ?_⟩
    · rcases now with stays | none
      · exact (at_busy busy found one).mpr (.inl ((holds one).mpr (.inr stays)))
      · cases none
    · rcases (holds one).mp (waits before ordinary) with rfl | stays
      · exact .inr ⟨one, List.mem_singleton_self one, rfl⟩
      · exact .inl (.inl stays)
    · refine ⟨gone, ?_, named⟩
      rw [ended]
      exact List.mem_append_right _ (List.mem_singleton_self gone)

/-- An order that is not queued again has left; one that is waits with its worker. -/
theorem Manned.runsMatch (manned : Manned setting.hash floor) {worker : Nat} {queue : TaskPriorityQueue} {task : Task}
    {round : Round} (busy : floor.hands worker = some task)
    (found : floor.gateway.matchPool[worker]? = some queue)
    (done : floor.runMatch setting worker task round = some after) : Manned setting.hash after := by
  obtain ⟨attempt, ran, rfl⟩ := Option.map_eq_some_iff.mp done
  have own := manned.sorted queue (List.mem_of_getElem? found)
  have unchanged : floor.gateway.matchPool.set worker queue = floor.gateway.matchPool := by
    obtain ⟨inside, rfl⟩ := List.getElem?_eq_some_iff.mp found
    exact List.set_getElem_self inside
  -- Without the order queued again, it has left the worker.
  have leaves {after : Floor} (pool : after.gateway.matchPool = floor.gateway.matchPool)
      (hands : after.hands = Function.update floor.hands worker none) (ended : after.ended = floor.ended ++ [task])
      (accepted : after.gateway.accepted = floor.gateway.accepted) : Manned setting.hash after := by
    refine manned.turns found (pool.trans unchanged.symm) hands ended accepted own (fun one now => ?_)
      (fun one before _ => ?_)
    · rcases now with holds | none
      · exact (at_busy busy found one).mpr (.inl holds)
      · cases none
    · rcases (at_busy busy found one).mp before with holds | rfl
      · exact .inl (.inl holds)
      · exact .inr ⟨one, List.mem_singleton_self one, rfl⟩
  by_cases requeued : attempt.requeued = true
  · simp only [if_pos requeued]
    rcases assignMatch_cases manned.sorted setting.hash attempt.order with
      ⟨failed, same⟩ | ⟨next, grown, assigned, made, same, length, sorted, waits⟩
    · simp only [if_neg failed, same]
      exact leaves rfl rfl rfl rfl
    · simp only [assigned, if_true]
      obtain ⟨ordinary, keyed⟩ := run_requeues ran requeued
      obtain ⟨madeTask, home, _⟩ := manned.made worker task ((at_busy busy found task).mpr (.inr rfl))
      obtain ⟨kind, key, id⟩ := madeTask.again made ordinary (same ▸ keyed)
      have freed {other : Nat} {one : Task} (inHand : Function.update floor.hands worker none other = some one) :
          floor.hands other = some one := by
        by_cases here : other = worker
        · subst here
          rw [Function.update_self] at inHand
          cases inHand
        · rwa [Function.update_of_ne here] at inHand
      refine manned.changes length sorted (fun other one now => ?_) (fun other one before match' => .inl ?_)
        (fun _ left => left) (fun _ before => before) (fun _ before => .inl before)
      · rcases now with waiting | inHand
        · rcases (waits other one).mp waiting with before | ⟨there, rfl⟩
          · exact .inl (.inl before)
          · exact .inr ⟨made, there.symm, fun cancel => absurd (kind.symm.trans cancel) (by decide)⟩
        · exact .inl (.inr (freed inHand))
      · rcases before with waiting | inHand
        · exact ⟨one, .inl ((waits other one).mpr (.inl waiting)), match', rfl⟩
        · by_cases here : other = worker
          · subst here
            cases busy.symm.trans inHand
            refine ⟨next, .inl ((waits other next).mpr (.inr ⟨?_, rfl⟩)), ?_, id⟩
            · rw [key, home]
            · rw [kind]
              decide
          · refine ⟨one, .inr ?_, match', rfl⟩
            exact (Function.update_of_ne here none floor.hands).trans inHand
  · simp only [if_neg requeued]
    exact leaves rfl rfl rfl rfl

/-- The validation is as it must be, the match workers too, and the cancels that were run
met what they named. -/
structure Settled (setting : Setting) (floor : Floor) : Prop where
  sound : Sound floor.watch
  manned : Manned setting.hash floor
  run : ∀ cancel ∈ floor.cancels, cancel ∈ floor.watch.queued
  met : ∀ cancel ∈ floor.cancels, ∀ one ∈ floor.watch.queued, one.1 < cancel.1 → Names cancel.2 one.2 →
    Reaches cancel.2 one.2 → ∃ task ∈ floor.ended, task.clOrdId = one.2.clOrdId

theorem Settled.inTurn (settled : Settled setting floor) : InTurn floor := by
  refine ⟨settled.sound.queued_in_turn, fun cancel ran number order arrived earlier names => ?_⟩
  rcases settled.sound.named_settled (settled.run cancel ran) arrived earlier names with dropped | ⟨queued, there, same⟩
  · exact .inl dropped
  · refine .inr ⟨queued, there, same, fun reaches => ?_⟩
    obtain ⟨cancels, orders, id⟩ := names
    have named : Names cancel.2 queued := ⟨cancels, same.msgType.trans orders, id.trans same.clOrdId.symm⟩
    obtain ⟨task, ended, left⟩ := settled.met cancel ran _ there earlier named reaches
    exact ⟨task, ended, left.trans same.clOrdId⟩

/-- A match worker's turn changes nothing the validation works on. -/
structure Beside (before after : Floor) : Prop where
  lines : after.watch.lines = before.watch.lines
  working : after.gateway.working = before.gateway.working
  validPool : after.gateway.validPool = before.gateway.validPool
  accepted : after.gateway.accepted = before.gateway.accepted
  ended : ∀ task ∈ before.ended, task ∈ after.ended

theorem Beside.queued (beside : Beside floor after) : after.watch.queued = floor.watch.queued := by
  unfold Watch.queued
  rw [beside.lines, beside.accepted]

theorem Settled.beside (settled : Settled setting floor) (beside : Beside floor after)
    (manned : Manned setting.hash after)
    (more : ∀ cancel ∈ after.cancels, cancel ∈ floor.cancels ∨ cancel ∈ floor.watch.queued ∧
      ∀ one ∈ floor.watch.queued, Names cancel.2 one.2 → Reaches cancel.2 one.2 →
        ∃ task ∈ after.ended, task.clOrdId = one.2.clOrdId) : Settled setting after where
  sound := by
    obtain ⟨tracks, kept⟩ := settled.sound
    refine ⟨⟨?_, ?_, ?_⟩, ?_⟩
    · rw [beside.validPool, beside.working, beside.lines]
      exact tracks.idle
    · rw [beside.validPool, beside.working, beside.lines]
      exact tracks.line
    · rw [beside.accepted, beside.lines]
      exact tracks.accepted
    · rw [beside.lines]
      exact kept
  manned := manned
  run cancel ran := by
    rw [beside.queued]
    rcases more cancel ran with before | ⟨queued, _⟩
    · exact settled.run cancel before
    · exact queued
  met cancel ran one there earlier names reaches := by
    rw [beside.queued] at there
    rcases more cancel ran with before | ⟨_, meets⟩
    · obtain ⟨task, left, id⟩ := settled.met cancel before one there earlier names reaches
      exact ⟨task, beside.ended task left, id⟩
    · exact meets one there names reaches

theorem Settled.fetches (settled : Settled setting floor) {worker : Nat} (done : floor.fetch worker = some after) :
    Settled setting after := by
  refine settled.beside ?_ (settled.manned.fetches done) (fun cancel ran => .inl ?_)
  all_goals
    unfold Floor.fetch at done
    split at done
    next =>
      obtain ⟨_, _, rfl⟩ := Option.map_eq_some_iff.mp done
      first
        | exact ⟨rfl, rfl, rfl, rfl, fun _ left => left⟩
        | exact ran
    next => cases done

theorem Settled.works (settled : Settled setting floor) {worker : Nat} {round : Round}
    (done : floor.work setting worker round = some after) : Settled setting after := by
  unfold Floor.work at done
  split at done
  next task queue busy found =>
    split at done
    next cancel =>
      obtain ⟨manned, meets⟩ := settled.manned.runsCancel busy found cancel done
      obtain ⟨madeTask, home, _⟩ := settled.manned.made worker task ((at_busy busy found task).mpr (.inr rfl))
      obtain ⟨cancelled, ran, rfl⟩ := Option.map_eq_some_iff.mp done
      refine settled.beside ⟨rfl, rfl, rfl, rfl, fun _ left => List.mem_append_left _ left⟩ manned
        (fun one member => (List.mem_append.mp member).imp_right fun new => ?_)
      obtain ⟨queued, same⟩ := List.mem_filter.mp new
      have same : one.2 = task.order := of_decide_eq_true same
      refine ⟨queued, fun other there names reaches => ?_⟩
      obtain ⟨ordinary, stockID, side⟩ := reaches
      obtain ⟨_, _, id⟩ := names
      rw [same] at stockID side id
      have key : (Task.setOrderMsg setting.hash .aBStockMatch other.2).key = task.key := by
        obtain ⟨_, made⟩ := madeTask
        rw [made, cancel]
        simp only [Task.setOrderMsg, Task.matching, stockID, side]
      have stays := settled.manned.stays other.2 (queued_accepted there) ordinary
      rw [key, home] at stays
      rcases stays with ⟨waiting, here, ordinary, named⟩ | ⟨gone, left, named⟩
      · obtain ⟨gone, left, named⟩ := meets waiting here ordinary (named.trans id.symm)
        exact ⟨gone, left, named.trans id⟩
      · exact ⟨gone, List.mem_append_left _ left, named⟩
    next =>
      have manned := settled.manned.runsMatch busy found done
      obtain ⟨attempt, ran, rfl⟩ := Option.map_eq_some_iff.mp done
      refine settled.beside ⟨rfl, rfl, rfl, rfl, fun one left => ?_⟩ manned fun _ before => .inl before
      have kept (code : Int) : one ∈ if code = 0 then floor.ended else floor.ended ++ [task] := by
        split
        · exact left
        · exact List.mem_append_left _ left
      exact kept _
  next => cases done

theorem Settled.valids (settled : Settled setting floor) {event : TaskValidOrder.Event} {watch : Watch}
    (own : ∀ pool cache, event ≠ .matching pool cache) (joins : Joins setting floor.watch event)
    (done : floor.watch.step setting event = some watch) : Settled setting { floor with watch } := by
  have sound := settled.sound.step joins done
  rcases settled.sound.tracks.queues_front done own with
    ⟨pool, accepted, queued⟩ | ⟨thread, front, order, waiting, same, accepted, queued, assigned⟩
  · have here (worker : Nat) (task : Task) : At { floor with watch } worker task ↔ At floor worker task := by
      show Waits watch.gateway.matchPool worker task ∨ _ ↔ _
      rw [pool]
      rfl
    refine ⟨sound, ?_, fun cancel ran => ?_, fun cancel ran one there => ?_⟩
    · refine settled.manned.changes (congrArg List.length pool) (fun queue member => ?_)
        (fun worker task now => .inl ((here worker task).mp now))
        (fun worker task before ordinary => .inl ⟨task, (here worker task).mpr before, ordinary, rfl⟩)
        (fun _ left => left) (fun one before => ?_) (fun one now => .inl ?_)
      · exact settled.manned.sorted queue (pool ▸ member)
      · exact accepted ▸ before
      · exact accepted ▸ now
    · rw [queued]
      exact settled.run cancel ran
    · rw [queued] at there
      exact settled.met cancel ran one there
  · refine ⟨sound, settled.manned.queues assigned rfl rfl accepted, fun cancel ran => ?_,
      fun cancel ran one there earlier names reaches => ?_⟩
    · rw [queued]
      exact List.mem_append_left _ (settled.run cancel ran)
    · rw [queued] at there
      rcases List.mem_append.mp there with before | new
      · exact settled.met cancel ran one before earlier names reaches
      · rw [List.mem_singleton.mp new] at earlier names
        have later := settled.sound.queued_after (settled.run cancel ran) waiting same names
        omega

theorem step_valid {event : TaskValidOrder.Event} (done : floor.step setting (.valid event) = some after) :
    (∀ pool cache, event ≠ .matching pool cache) ∧
      ∃ watch, floor.watch.step setting event = some watch ∧ { floor with watch } = after := by
  have own (pool : PriorityThreadPool) (cache : StockCache) : event ≠ .matching pool cache := by
    rintro rfl
    cases done
  have steps : floor.step setting (.valid event) =
      (floor.watch.step setting event).map fun watch => { floor with watch } := by
    cases event with
    | matching pool cache => exact absurd rfl (own pool cache)
    | receive | take | check | valide | record | queue => rfl
  rw [steps] at done
  exact ⟨own, Option.map_eq_some_iff.mp done⟩

theorem Settled.step (settled : Settled setting floor) {happening : Happening}
    (meets : Meets setting floor happening) (done : floor.step setting happening = some after) :
    Settled setting after := by
  cases happening with
  | fetch worker => exact settled.fetches done
  | work worker round => exact settled.works done
  | valid event =>
    obtain ⟨own, watch, moves, rfl⟩ := step_valid done
    exact settled.valids own meets moves

theorem step_threads_fixed {happening : Happening} (done : floor.step setting happening = some after) :
    after.gateway.validPool.length = floor.gateway.validPool.length := by
  cases happening with
  | fetch worker =>
    simp only [Floor.step, Floor.fetch] at done
    split at done
    · obtain ⟨_, _, rfl⟩ := Option.map_eq_some_iff.mp done
      rfl
    · cases done
  | work worker round =>
    simp only [Floor.step, Floor.work] at done
    split at done
    · split at done
      · obtain ⟨_, _, rfl⟩ := Option.map_eq_some_iff.mp done
        rfl
      · obtain ⟨_, _, rfl⟩ := Option.map_eq_some_iff.mp done
        rfl
    · cases done
  | valid event =>
    obtain ⟨_, watch, moves, rfl⟩ := step_valid done
    obtain ⟨gateway, moved, rfl⟩ := Option.map_eq_some_iff.mp moves
    refine (congrArg (List.length ∘ Gateway.validPool) ?_).trans (step_threads moved)
    cases event <;> rfl

theorem Settled.meets_single (settled : Settled setting floor) (single : floor.gateway.validPool.length = 1)
    (happening : Happening) : Meets setting floor happening := by
  cases happening with
  | valid event => exact settled.sound.tracks.joins single event
  | fetch | work => trivial

/-- The gateway opens with every thread and worker idle and every queue empty. -/
structure Opening (floor : Floor) : Prop where
  watch : Opens floor.watch
  queues : ∀ queue ∈ floor.gateway.matchPool, Sorted queue ∧ ∀ task, ¬ Holds queue task
  hands : ∀ worker, floor.hands worker = none
  ended : floor.ended = []
  cancels : floor.cancels = []

theorem Opening.settled (opening : Opening floor) (setting : Setting) : Settled setting floor := by
  obtain ⟨watch, queues, hands, ended, cancels⟩ := opening
  refine ⟨watch.sound, ⟨fun queue member => (queues queue member).1, fun worker task here => ?_, fun order accepted => ?_⟩,
    fun cancel ran => ?_, fun cancel ran => ?_⟩
  · rcases here with ⟨queue, found, holds⟩ | inHand
    · exact absurd holds ((queues queue (List.mem_of_getElem? found)).2 task)
    · rw [hands] at inHand
      cases inHand
  · rw [watch.accepted] at accepted
    cases accepted
  · rw [cancels] at ran
    cases ran
  · rw [cancels] at ran
    cases ran

/-- With one validation thread every run meets the condition throughout. -/
theorem guarded_single {first last : Floor} {happenings : List Happening}
    (run : Run (Step setting) first happenings last) (settled : Settled setting first)
    (single : first.gateway.validPool.length = 1) :
    Run ((Step setting).guarded (Meets setting)) first happenings last := by
  induction run with
  | nil => exact .nil _
  | @cons _ _ _ happening _ taken _ ih =>
    have meets := settled.meets_single single happening
    exact .cons ⟨taken, meets⟩ (ih (settled.step meets taken) ((step_threads_fixed taken).trans single))

end Floors

/-- Every order of steps of the validation threads and the match workers keeps the law
where each order joins the thread that still has the earlier ones it must not overtake,
as it always does with the one validation thread the program starts. -/
theorem cancels_after_their_orders (setting : Setting) {start : Floor} (opening : Opening start)
    (happenings : List Happening) (last : Floor) :
    (Run ((Step setting).guarded (Meets setting)) start happenings last → InTurn last) ∧
      (start.gateway.validPool.length = 1 → Run (Step setting) start happenings last → InTurn last) := by
  have kept (run : Run ((Step setting).guarded (Meets setting)) start happenings last) : Settled setting last :=
    run.invariant (fun _ _ _ settled taken => settled.step taken.2 taken.1) (opening.settled setting)
  exact ⟨fun run => (kept run).inTurn,
    fun single run => (kept (guarded_single run (opening.settled setting) single)).inTurn⟩

def samplePolicy : TradePolicyCell := { runMode := .miniMode, matchMode := .simulNotMatch }

def sampleCancel : OrderMessage :=
  { sampleBuy "S1" with
    clOrdId := "8"
    origClOrdId := "7"
    msgType := Step.msgTypeOrderCancel
    tradePolicy := samplePolicy }

def sampleFloor (threads : List TaskPriorityQueue) : Floor where
  watch := { gateway := { sampleStart with validPool := threads } }

def sampleRound : Round where
  quotationType := .averagePrice
  quote := none
  stored := true
  cancelId := ""
  transId := ""

theorem sampleFloor_opening (threads : List TaskPriorityQueue) (idle : ∀ queue ∈ threads, queue = {}) :
    Opening (sampleFloor threads) := by
  refine ⟨⟨fun _ => rfl, fun queue member => ?_, rfl, rfl⟩, fun queue member => ?_, fun _ => rfl, rfl, rfl⟩
  · rw [idle queue member]
    exact ⟨⟨rfl, rfl, rfl, rfl⟩, rfl⟩
  · rw [List.mem_singleton.mp member]
    refine ⟨⟨rfl, rfl, rfl, fun _ none => absurd none List.not_mem_nil, fun _ none => absurd none List.not_mem_nil⟩, ?_⟩
    rintro task (none | none) <;> exact absurd none List.not_mem_nil

/-- With one thread the order is queued first, and the cancel takes it out. -/
theorem cancels_after_their_orders_single :
    ∃ last, last.cancels.length = 1 ∧ last.ended.length = 1 ∧ InTurn last := by
  let thread : List Happening := [.valid (.take 0), .valid (.check 0), .valid (.valide 0), .valid (.record 0),
    .valid (.queue 0)]
  let happenings : List Happening := [.valid (.receive { sampleBuy "S1" with tradePolicy := samplePolicy }),
    .valid (.receive sampleCancel)] ++ thread ++ thread ++ [.fetch 0, .work 0 sampleRound]
  obtain ⟨last, done⟩ : ∃ last, happenings.foldlM (Floor.step sampleSetting) (sampleFloor [{}]) = some last := ⟨_, rfl⟩
  have law := (cancels_after_their_orders sampleSetting (sampleFloor_opening [{}] (by simp)) happenings last).2 rfl
    (Run.of_foldlM done)
  refine ⟨last, ?_, ?_, law⟩ <;>
  · cases done
    rfl

/-- The cancel is given to the other thread, and runs while the order waits for its check. -/
theorem cancel_overtakes_order :
    ¬ ∀ (setting : Setting) (start last : Floor) (happenings : List Happening), Opening start →
      Run (Step setting) start happenings last → InTurn last := by
  intro always
  let happenings : List Happening := [.valid (.receive { sampleBuy "S1" with tradePolicy := samplePolicy }),
    .valid (.receive sampleCancel), .valid (.take 1), .valid (.check 1), .valid (.valide 1), .valid (.record 1),
    .valid (.queue 1), .fetch 0, .work 0 sampleRound]
  obtain ⟨last, done⟩ : ∃ last, happenings.foldlM (Floor.step sampleSetting) (sampleFloor [{}, {}]) = some last :=
    ⟨_, rfl⟩
  have law := always sampleSetting (sampleFloor [{}, {}]) last happenings (sampleFloor_opening [{}, {}] (by simp))
    (Run.of_foldlM done)
  cases done
  rcases law.cancels (1, _) List.mem_cons_self 0 _ rfl (by decide) ⟨rfl, rfl, rfl⟩ with dropped | ⟨queued, there, _⟩
  · cases dropped
  · cases List.mem_singleton.mp (show (0, queued) ∈ [(1, _)] from there)

end Simutgw.Proofs.CancelPrecedence
