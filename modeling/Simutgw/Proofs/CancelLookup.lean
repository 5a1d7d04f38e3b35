import Simutgw.CancelTask

/-! What a cancel takes out of a worker's queue. The containers are searched in
turn for one id, so the task taken is the first of that id, whoever sent it. -/

namespace Simutgw.Proofs.CancelLookup
open TaskPriorityQueue

/-- The ordered container of a key. -/
def ordered (key : Int) : List (Int × List Task) → List Task
  | [] => []
  | (other, container) :: rest => if other = key then container else ordered key rest

/-- The tasks a look-up under a key passes, in the order it passes them. -/
def searched (queue : TaskPriorityQueue) (key : Int) : List Task :=
  ordered key queue.p3OrderQue ++ queue.p3UnorderQue ++ queue.p2Que ++ queue.p1Que

/-- Every task of the queue. -/
def pending (queue : TaskPriorityQueue) : List Task :=
  queue.p3OrderQue.flatMap Prod.snd ++ queue.p3UnorderQue ++ queue.p2Que ++ queue.p1Que ++ queue.p4Que

/-- One task has left the list and nothing else has moved. -/
def LeavesOnly (task : Task) (tasks rest : List Task) : Prop :=
  ∃ before after, tasks = before ++ task :: after ∧ rest = before ++ after

theorem LeavesOnly.append {task : Task} {tasks rest : List Task} (leaves : LeavesOnly task tasks rest)
    (first last : List Task) : LeavesOnly task (first ++ tasks ++ last) (first ++ rest ++ last) := by
  obtain ⟨before, after, rfl, rfl⟩ := leaves
  exact ⟨first ++ before, after ++ last, by simp, by simp⟩

def Under (clOrdId : String) (task : Task) : Bool := task.clOrdId == clOrdId

theorem deleteOrderByClordId_spec (clOrdId : String) (container : List Task) :
    match deleteOrderByClordId clOrdId container with
    | none => container.find? (Under clOrdId) = none
    | some (task, rest) => container.find? (Under clOrdId) = some task ∧ LeavesOnly task container rest := by
  induction container with
  | nil => rfl
  | cons task tasks ih =>
    by_cases same : task.clOrdId = clOrdId
    · rw [deleteOrderByClordId, if_pos same]
      exact ⟨by simp [Under, same], [], tasks, rfl, rfl⟩
    · have passes : (task :: tasks).find? (Under clOrdId) = tasks.find? (Under clOrdId) := by simp [Under, same]
      rw [deleteOrderByClordId, if_neg same, passes]
      cases found : deleteOrderByClordId clOrdId tasks with
      | none =>
        rw [found] at ih
        exact ih
      | some taken =>
        rw [found] at ih
        obtain ⟨first, before, after, left, kept⟩ := ih
        exact ⟨first, task :: before, after, by rw [left]; rfl, by rw [kept]; rfl⟩

theorem deleteOrdered_spec (key : Int) (clOrdId : String) (que : List (Int × List Task)) :
    match deleteOrdered key clOrdId que with
    | none => (ordered key que).find? (Under clOrdId) = none
    | some (task, rest) => (ordered key que).find? (Under clOrdId) = some task ∧
        LeavesOnly task (que.flatMap Prod.snd) (rest.flatMap Prod.snd) := by
  induction que with
  | nil => rfl
  | cons entry que ih =>
    obtain ⟨other, container⟩ := entry
    simp only [deleteOrdered, ordered]
    by_cases same : other = key
    · simp only [if_pos same]
      have inside := deleteOrderByClordId_spec clOrdId container
      cases found : deleteOrderByClordId clOrdId container with
      | none =>
        rw [found] at inside
        exact inside
      | some taken =>
        rw [found] at inside
        exact ⟨inside.1, inside.2.append [] (que.flatMap Prod.snd)⟩
    · simp only [if_neg same]
      cases found : deleteOrdered key clOrdId que with
      | none =>
        rw [found] at ih
        exact ih
      | some taken =>
        rw [found] at ih
        refine ⟨ih.1, ?_⟩
        have leaves := ih.2.append container []
        simp only [List.append_nil] at leaves
        exact leaves

/-- The look-up finds the first task of the id among those it passes, and takes
that one task out of the queue. -/
theorem deleteIfHaveTask_spec (queue : TaskPriorityQueue) (key : Int) (clOrdId : String) :
    match queue.deleteIfHaveTask key clOrdId with
    | none => (searched queue key).find? (Under clOrdId) = none
    | some (task, rest) => (searched queue key).find? (Under clOrdId) = some task ∧
        LeavesOnly task (pending queue) (pending rest) := by
  have one := deleteOrdered_spec key clOrdId queue.p3OrderQue
  have two := deleteOrderByClordId_spec clOrdId queue.p3UnorderQue
  have three := deleteOrderByClordId_spec clOrdId queue.p2Que
  have four := deleteOrderByClordId_spec clOrdId queue.p1Que
  unfold deleteIfHaveTask searched pending
  simp only [List.find?_append]
  cases first : deleteOrdered key clOrdId queue.p3OrderQue with
  | some taken =>
    rw [first] at one
    refine ⟨by simp [one.1], ?_⟩
    have leaves := one.2.append [] (queue.p3UnorderQue ++ queue.p2Que ++ queue.p1Que ++ queue.p4Que)
    simpa only [List.nil_append, List.append_assoc] using leaves
  | none =>
    rw [first] at one
    cases second : deleteOrderByClordId clOrdId queue.p3UnorderQue with
    | some taken =>
      rw [second] at two
      refine ⟨by simp [one, two.1], ?_⟩
      have leaves := two.2.append (queue.p3OrderQue.flatMap Prod.snd) (queue.p2Que ++ queue.p1Que ++ queue.p4Que)
      simpa only [List.append_assoc] using leaves
    | none =>
      rw [second] at two
      cases third : deleteOrderByClordId clOrdId queue.p2Que with
      | some taken =>
        rw [third] at three
        refine ⟨by simp [one, two, three.1], ?_⟩
        have leaves := three.2.append (queue.p3OrderQue.flatMap Prod.snd ++ queue.p3UnorderQue)
          (queue.p1Que ++ queue.p4Que)
        simpa only [List.append_assoc] using leaves
      | none =>
        rw [third] at three
        cases fourth : deleteOrderByClordId clOrdId queue.p1Que with
        | some taken =>
          rw [fourth] at four
          refine ⟨by simp [one, two, three, four.1], ?_⟩
          have leaves := four.2.append (queue.p3OrderQue.flatMap Prod.snd ++ queue.p3UnorderQue ++ queue.p2Que)
            queue.p4Que
          simpa only [List.append_assoc] using leaves
        | none =>
          rw [fourth] at four
          simp [one, two, three, four]

/-- The order is one the client of the request placed in the request's security. -/
def Owns (request order : OrderMessage) : Prop :=
  order.sessionId = request.sessionId ∧ order.tradeMarket = request.tradeMarket ∧ order.stockID = request.stockID ∧
    order.side = request.side

/-- A cancel that takes an order out takes the requested id of its own client, and
every other order stays pending. -/
def CancelsOnlyOwn (queue : TaskPriorityQueue) (request : Task) : Prop :=
  ∀ task rest, queue.deleteIfHaveTask request.key request.order.origClOrdId = some (task, rest) →
    task.clOrdId = request.order.origClOrdId ∧ Owns request.order task.order ∧
      LeavesOnly task (pending queue) (pending rest)

theorem procSingleCancelOrder_queue {queue : TaskPriorityQueue} {cache : StockCache} {request : Task}
    {transId : String} {cancelled : TaskCancelOrder.Cancelled}
    (done : TaskCancelOrder.procSingleCancelOrder queue cache request transId = some cancelled) :
    (queue.deleteIfHaveTask request.key request.order.origClOrdId = none ∧ cancelled.queue = queue) ∨
      ∃ task, queue.deleteIfHaveTask request.key request.order.origClOrdId = some (task, cancelled.queue) := by
  unfold TaskCancelOrder.procSingleCancelOrder at done
  cases taken : queue.deleteIfHaveTask request.key request.order.origClOrdId with
  | none =>
    rw [taken] at done
    cases done
    exact Or.inl ⟨rfl, rfl⟩
  | some result =>
    obtain ⟨task, rest⟩ := result
    rw [taken] at done
    simp only at done
    split at done
    · obtain ⟨updated, _, rfl⟩ := Option.map_eq_some_iff.mp done
      exact Or.inr ⟨task, rfl⟩
    · cases done

/-- A cancel takes out only its own order exactly when no order of somebody else
stands first under the id, and its run changes nothing else in the queue. -/
theorem cancel_takes_own_iff (queue : TaskPriorityQueue) (request : Task) :
    (CancelsOnlyOwn queue request ↔ ∀ before task after, searched queue request.key = before ++ task :: after →
      task.clOrdId = request.order.origClOrdId → (∀ other ∈ before, other.clOrdId ≠ request.order.origClOrdId) →
      Owns request.order task.order) ∧
    ∀ cache transId cancelled, TaskCancelOrder.procSingleCancelOrder queue cache request transId = some cancelled →
      cancelled.queue = queue ∨
        ∃ task, queue.deleteIfHaveTask request.key request.order.origClOrdId = some (task, cancelled.queue) := by
  have spec := deleteIfHaveTask_spec queue request.key request.order.origClOrdId
  refine ⟨⟨?_, ?_⟩, fun _ _ _ ran => (procSingleCancelOrder_queue ran).imp_left And.right⟩
  · intro only before task after passed named first
    have found : (searched queue request.key).find? (Under request.order.origClOrdId) = some task := by
      rw [List.find?_eq_some_iff_append]
      refine ⟨by simp [Under, named], before, after, passed, fun other member => ?_⟩
      simp [Under, first other member]
    cases taken : queue.deleteIfHaveTask request.key request.order.origClOrdId with
    | none =>
      rw [taken, found] at spec
      cases spec
    | some result =>
      rw [taken] at spec
      obtain ⟨same, _⟩ := spec
      rw [found, Option.some.injEq] at same
      rw [same]
      exact (only _ _ taken).2.1
  · intro first task rest taken
    rw [taken] at spec
    obtain ⟨found, leaves⟩ := spec
    obtain ⟨named, before, after, passed, others⟩ := List.find?_eq_some_iff_append.mp found
    have under : task.clOrdId = request.order.origClOrdId := by simpa [Under] using named
    refine ⟨under, first before task after passed under fun other member => ?_, leaves⟩
    simpa [Under] using others other member

/-- An order of a session, pending under an id. -/
def sampleOrder (sessionId : String) : OrderMessage where
  sessionId := sessionId
  clOrdId := "7"
  origClOrdId := "7"
  tradeMarket := tradeMarketSz
  stockID := "000001"
  side := "1"
  tradeType := .aTrade

/-- The first of two sessions' orders of one id is taken by the second's cancel. -/
theorem cancel_takes_foreign_order : ¬ ∀ (queue : TaskPriorityQueue) (request : Task), CancelsOnlyOwn queue request := by
  intro always
  let hash (_ : String) : Int := 0
  let first := Task.setOrderMsg hash .aBStockMatch (sampleOrder "S1")
  let second := Task.setOrderMsg hash .aBStockMatch (sampleOrder "S2")
  let queue := ((({} : TaskPriorityQueue).addTask first false).2.addTask second false).2
  obtain ⟨_, owns, _⟩ := always queue (Task.setOrderMsg hash .cancelOrder (sampleOrder "S2")) first _ rfl
  exact absurd owns.1 (by decide)

end Simutgw.Proofs.CancelLookup
