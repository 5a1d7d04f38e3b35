import Mathlib.Algebra.Order.BigOperators.Group.List
import Mathlib.Algebra.Order.Ring.Nat
import Simutgw.Logic.Runs
import Simutgw.PipeLineThreadPool

/-! What the pool does with the tasks it accepts, while callers and workers take their
turns in any order. The counts of a queue are exact, no task is lost or handed out twice,
and where the calls for one id do not overlap, its tasks wait in one queue and are handed
out in the order they were accepted. -/

namespace Simutgw.Proofs.PipeLineOrder
open Logic PipeLineThreadPool

variable {Work : Type*}

/-- The tasks of an id, in their order. -/
def ofId (id : UInt64) (tasks : List (TaskBase Work)) : List (TaskBase Work) := tasks.filter (·.m_uiTaskId == id)

section Queues

/-- The counts are those of the tasks. -/
structure Tracked (queue : TaskQueue Work) : Prop where
  nums : queue.m_uiTaskNums.toNat = queue.m_taskQueue.length
  track : ∀ id, queue.m_mapTaskNumTrack[id]? =
    if ofId id queue.m_taskQueue = [] then none else some ((ofId id queue.m_taskQueue).length : Int)

theorem tracked_empty : Tracked ({} : TaskQueue Work) where
  nums := rfl
  track id := by
    simp [ofId]

theorem ofId_append (id : UInt64) (front back : List (TaskBase Work)) :
    ofId id (front ++ back) = ofId id front ++ ofId id back :=
  List.filter_append ..

theorem ofId_cons_own (task : TaskBase Work) (rest : List (TaskBase Work)) :
    ofId task.m_uiTaskId (task :: rest) = task :: ofId task.m_uiTaskId rest :=
  List.filter_cons_of_pos (beq_self_eq_true _)

theorem ofId_cons_other {id : UInt64} {task : TaskBase Work} (other : task.m_uiTaskId ≠ id)
    (rest : List (TaskBase Work)) : ofId id (task :: rest) = ofId id rest :=
  List.filter_cons_of_neg (by rw [beq_iff_eq]; exact other)

theorem ofId_own (task : TaskBase Work) : ofId task.m_uiTaskId [task] = [task] := by
  simp [ofId]

theorem ofId_other {id : UInt64} {task : TaskBase Work} (other : task.m_uiTaskId ≠ id) : ofId id [task] = [] := by
  simp [ofId, other]

variable {queue : TaskQueue Work} {task : TaskBase Work}

theorem Tracked.counted (tracked : Tracked queue) (room : ¬ TaskQueue.maxQueueSize ≤ queue.m_uiTaskNums) :
    Tracked (queue.counted task ((ofId task.m_uiTaskId queue.m_taskQueue).length + 1)) where
  nums := by
    have below : queue.m_uiTaskNums.toNat < TaskQueue.maxQueueSize.toNat := UInt64.lt_iff_toNat_lt.mp (UInt64.not_le.mp room)
    have limit : TaskQueue.maxQueueSize.toNat = 18446744073709551605 := rfl
    simp only [TaskQueue.counted, List.length_append, List.length_singleton, UInt64.toNat_add, tracked.nums,
      UInt64.toNat_one]
    rw [tracked.nums] at below
    omega
  track id := by
    simp only [TaskQueue.counted, Std.TreeMap.getElem?_insert, ofId_append, List.append_eq_nil_iff, List.length_append]
    by_cases own : task.m_uiTaskId = id
    · subst own
      simp [ofId_own]
    · simp [own, ofId_other own, tracked.track id]

theorem addTask_cases (tracked : Tracked queue) (task : TaskBase Work) :
    (TaskQueue.maxQueueSize.toNat ≤ queue.m_taskQueue.length ∧ queue.addTask task = (2, queue.m_uiTaskNums, queue)) ∨
      ∃ added, queue.addTask task = (0, added.m_uiTaskNums, added) ∧ Tracked added ∧
        added.m_taskQueue = queue.m_taskQueue ++ [task] := by
  by_cases full : TaskQueue.maxQueueSize ≤ queue.m_uiTaskNums
  · refine .inl ⟨?_, if_pos full⟩
    rw [← tracked.nums]
    exact UInt64.le_iff_toNat_le.mp full
  · refine .inr ⟨queue.counted task ((ofId task.m_uiTaskId queue.m_taskQueue).length + 1), ?_,
      tracked.counted full, rfl⟩
    simp only [TaskQueue.addTask, full, if_false, tracked.track]
    by_cases none : ofId task.m_uiTaskId queue.m_taskQueue = []
    · simp [none]
    · simp [none]

theorem addIfHaveTask_cases (tracked : Tracked queue) (task : TaskBase Work) :
    (TaskQueue.maxQueueSize.toNat ≤ queue.m_taskQueue.length ∧
        queue.addIfHaveTask task = (2, queue.m_uiTaskNums, queue)) ∨
      (∃ added, queue.addIfHaveTask task = (0, added.m_uiTaskNums, added) ∧ Tracked added ∧
        added.m_taskQueue = queue.m_taskQueue ++ [task] ∧ ofId task.m_uiTaskId queue.m_taskQueue ≠ []) ∨
      (queue.addIfHaveTask task = (1, queue.m_uiTaskNums, queue) ∧ ofId task.m_uiTaskId queue.m_taskQueue = []) := by
  by_cases full : TaskQueue.maxQueueSize ≤ queue.m_uiTaskNums
  · refine .inl ⟨?_, if_pos full⟩
    rw [← tracked.nums]
    exact UInt64.le_iff_toNat_le.mp full
  · refine .inr ?_
    simp only [TaskQueue.addIfHaveTask, full, if_false, tracked.track]
    by_cases none : ofId task.m_uiTaskId queue.m_taskQueue = []
    · exact .inr ⟨by simp [none], none⟩
    · exact .inl ⟨_, by simp only [none, if_false], tracked.counted full, rfl, none⟩

/-- A task is handed out as long as there is one, and the counts follow. -/
theorem getTask_cons (tracked : Tracked queue) {rest : List (TaskBase Work)} (waits : queue.m_taskQueue = task :: rest) :
    ∃ left, queue.getTask = (0, some task, left) ∧ Tracked left ∧ left.m_taskQueue = rest := by
  have nums := tracked.nums
  have counts := tracked.track
  rw [waits] at nums counts
  have own := counts task.m_uiTaskId
  simp only [ofId_cons_own, List.cons_ne_nil, if_false, List.length_cons] at own
  have filled : queue.m_mapTaskNumTrack.isEmpty = false := by
    by_contra empty
    rw [Bool.not_eq_false] at empty
    rw [Std.TreeMap.getElem?_of_isEmpty empty] at own
    cases own
  have some : queue.m_uiTaskNums ≠ 0 := by
    intro zero
    rw [zero] at nums
    cases nums
  refine ⟨_, by simp only [TaskQueue.getTask, waits, filled, some, own, Bool.false_eq_true, or_self, if_false]; rfl,
    ⟨?_, ?_⟩, rfl⟩
  · simp only
    rw [UInt64.toNat_sub_of_le _ _ (UInt64.le_iff_toNat_le.mpr (by rw [nums]; exact Nat.succ_pos _)), nums]
    rfl
  · intro id
    have less : (((ofId task.m_uiTaskId rest).length + 1 : Nat) : Int) - 1 = (ofId task.m_uiTaskId rest).length := by
      omega
    have before := counts id
    simp only [less, Int.natCast_eq_zero, List.length_eq_zero_iff]
    by_cases same : task.m_uiTaskId = id
    · subst same
      by_cases last : ofId task.m_uiTaskId rest = []
      · simp [last]
      · simp [last]
    · rw [ofId_cons_other same] at before
      by_cases last : ofId task.m_uiTaskId rest = []
      · simp [last, Std.TreeMap.getElem?_erase, same, before]
      · simp [last, Std.TreeMap.getElem?_insert, same, before]

theorem getTask_nil (empty : queue.m_taskQueue = []) : queue.getTask = (1, none, queue) := by
  rw [TaskQueue.getTask, empty]

end Queues

section System

/-- The threads' queues, the calls under way by caller, and what was accepted and handed
out so far. -/
structure Pool (Work : Type*) where
  hdThreads : List (TaskQueue Work)
  calls : Nat → Option (TaskBase Work × Scan) := fun _ => none
  accepted : List (TaskBase Work) := []
  executed : List (Nat × TaskBase Work) := []

inductive Event (Work : Type*)
  | begins (caller : Nat) (task : TaskBase Work)
  | passes (caller : Nat)
  | returns (caller : Nat) (code : Int)
  | works (worker : Nat)

/-- Every pass of a call and every look of a worker into its queue is a step of its own. -/
inductive Moves : Steps (Pool Work) (Event Work)
  | begins {pool : Pool Work} (caller : Nat) (task : TaskBase Work) (idle : pool.calls caller = none) :
      Moves pool (.begins caller task)
        { pool with calls := Function.update pool.calls caller (some (task, {})) }
  | passes {pool : Pool Work} {caller : Nat} {task : TaskBase Work} {scan next : Scan} {hdThreads : List (TaskQueue Work)}
      (calls : pool.calls caller = some (task, scan))
      (goes : assignTask task (pool.hdThreads, scan) = .again (hdThreads, next)) :
      Moves pool (.passes caller)
        { pool with hdThreads, calls := Function.update pool.calls caller (some (task, next)) }
  | returns {pool : Pool Work} {caller : Nat} {task : TaskBase Work} {scan : Scan} {code : Int}
      {hdThreads : List (TaskQueue Work)} (calls : pool.calls caller = some (task, scan))
      (left : assignTask task (pool.hdThreads, scan) = .leave (code, hdThreads)) :
      Moves pool (.returns caller code)
        { pool with
          hdThreads
          calls := Function.update pool.calls caller none
          accepted := if code = 0 then pool.accepted ++ [task] else pool.accepted }
  | works {pool : Pool Work} {worker : Nat} {queue left : TaskQueue Work} {code : Int} {task : Option (TaskBase Work)}
      (own : pool.hdThreads[worker]? = some queue) (taken : queue.getTask = (code, task, left)) :
      Moves pool (.works worker)
        { pool with
          hdThreads := pool.hdThreads.set worker left
          executed := if code = 0 then pool.executed ++ (task.map (worker, ·)).toList else pool.executed }

/-- What waits in the queues. -/
def waiting (hdThreads : List (TaskQueue Work)) : List (TaskBase Work) := hdThreads.flatMap (·.m_taskQueue)

theorem assignTask_cases (task : TaskBase Work) (scan : Scan) {hdThreads : List (TaskQueue Work)}
    (tracked : ∀ queue ∈ hdThreads, Tracked queue) :
    (∃ queue code num, hdThreads[scan.i]? = some queue ∧
        assignTask task (hdThreads, scan) = .again (hdThreads, scan.next code num) ∧
        (TaskQueue.maxQueueSize.toNat ≤ queue.m_taskQueue.length ∨ ofId task.m_uiTaskId queue.m_taskQueue = [])) ∨
      (∃ place queue added, hdThreads[place]? = some queue ∧
        assignTask task (hdThreads, scan) = .leave (0, hdThreads.set place added) ∧
        Tracked added ∧ added.m_taskQueue = queue.m_taskQueue ++ [task] ∧
        (ofId task.m_uiTaskId queue.m_taskQueue = [] → hdThreads.length ≤ scan.i)) ∨
      assignTask task (hdThreads, scan) = .leave (-1, hdThreads) ∨
      assignTask task (hdThreads, scan) = .undefined := by
  cases asked : hdThreads[scan.i]? with
  | some queue =>
    have own := tracked queue (List.mem_of_getElem? asked)
    rcases addIfHaveTask_cases own task with ⟨full, same⟩ | ⟨added, takes, kept, behind, some⟩ | ⟨none, empty⟩
    · exact .inl ⟨queue, 2, queue.m_uiTaskNums, rfl, by simp [assignTask, asked, same], .inl full⟩
    · refine .inr (.inl ⟨scan.i, queue, added, asked, by simp [assignTask, asked, takes], kept, behind, ?_⟩)
      intro empty
      exact absurd empty some
    · exact .inl ⟨queue, 1, queue.m_uiTaskNums, rfl, by simp [assignTask, asked, none], .inr empty⟩
  | none =>
    have all := List.getElem?_eq_none_iff.mp asked
    cases fewer : scan.itFewerTask with
    | none => exact .inr (.inr (.inr (by simp [assignTask, asked, fewer])))
    | some it =>
      cases found : hdThreads[it]? with
      | none => exact .inr (.inr (.inr (by simp [assignTask, asked, fewer, found])))
      | some queue =>
        rcases addTask_cases (tracked queue (List.mem_of_getElem? found)) task with ⟨full, same⟩ | ⟨added, takes, kept, behind⟩
        · obtain ⟨inside, rfl⟩ := List.getElem?_eq_some_iff.mp found
          exact .inr (.inr (.inl (by simp [assignTask, asked, fewer, found, same])))
        · exact .inr (.inl ⟨it, queue, added, found, by simp [assignTask, asked, fewer, found, takes], kept, behind,
            fun _ => all⟩)

/-- A pass that goes on has asked a thread that cannot take the task. -/
theorem assignTask_again {task : TaskBase Work} {scan next : Scan} {hdThreads left : List (TaskQueue Work)}
    (tracked : ∀ queue ∈ hdThreads, Tracked queue) (goes : assignTask task (hdThreads, scan) = .again (left, next)) :
    left = hdThreads ∧ next.i = scan.i + 1 ∧ ∃ queue, hdThreads[scan.i]? = some queue ∧
      (TaskQueue.maxQueueSize.toNat ≤ queue.m_taskQueue.length ∨ ofId task.m_uiTaskId queue.m_taskQueue = []) := by
  rcases assignTask_cases task scan tracked with
    ⟨queue, code, num, asked, again, refused⟩ | ⟨place, queue, added, -, leaves, -⟩ | leaves | undefined
  · rw [again] at goes
    cases goes
    refine ⟨rfl, ?_, queue, asked, refused⟩
    unfold Scan.next
    split <;> rfl
  · rw [leaves] at goes
    cases goes
  · rw [leaves] at goes
    cases goes
  · rw [undefined] at goes
    cases goes

theorem assignTask_leave {task : TaskBase Work} {scan : Scan} {hdThreads left : List (TaskQueue Work)} {code : Int}
    (tracked : ∀ queue ∈ hdThreads, Tracked queue) (leaves : assignTask task (hdThreads, scan) = .leave (code, left)) :
    (code = 0 ∧ ∃ place queue added, hdThreads[place]? = some queue ∧ left = hdThreads.set place added ∧
        Tracked added ∧ added.m_taskQueue = queue.m_taskQueue ++ [task] ∧
        (ofId task.m_uiTaskId queue.m_taskQueue = [] → hdThreads.length ≤ scan.i)) ∨
      (code = -1 ∧ left = hdThreads) := by
  rcases assignTask_cases task scan tracked with
    ⟨queue, num, _, -, again, -⟩ | ⟨place, queue, added, found, puts, kept, behind, last⟩ | refuses | undefined
  · rw [again] at leaves
    cases leaves
  · rw [puts] at leaves
    cases leaves
    exact .inl ⟨rfl, place, queue, added, found, rfl, kept, behind, last⟩
  · rw [refuses] at leaves
    cases leaves
    exact .inr ⟨rfl, rfl⟩
  · rw [undefined] at leaves
    cases leaves

theorem getTask_leave {queue left : TaskQueue Work} {code : Int} {task : Option (TaskBase Work)} (tracked : Tracked queue)
    (taken : queue.getTask = (code, task, left)) :
    (code = 1 ∧ left = queue) ∨
      ∃ front, code = 0 ∧ task = some front ∧ Tracked left ∧ queue.m_taskQueue = front :: left.m_taskQueue := by
  cases waits : queue.m_taskQueue with
  | nil =>
    rw [getTask_nil waits] at taken
    cases taken
    exact .inl ⟨rfl, rfl⟩
  | cons front rest =>
    obtain ⟨popped, takes, kept, behind⟩ := getTask_cons tracked waits
    rw [takes] at taken
    cases taken
    exact .inr ⟨front, rfl, rfl, kept, by rw [behind]⟩

theorem waiting_set {hdThreads : List (TaskQueue Work)} {place : Nat} {queue : TaskQueue Work} (other : TaskQueue Work)
    (found : hdThreads[place]? = some queue) :
    (waiting (hdThreads.set place other) ++ queue.m_taskQueue).Perm (waiting hdThreads ++ other.m_taskQueue) := by
  obtain ⟨inside, rfl⟩ := List.getElem?_eq_some_iff.mp found
  have split : hdThreads = hdThreads.take place ++ hdThreads[place] :: hdThreads.drop (place + 1) := by
    rw [List.getElem_cons_drop, List.take_append_drop]
  have exchanged := List.set_eq_take_append_cons_drop (l := hdThreads) (i := place) (a := other)
  rw [if_pos inside] at exchanged
  rw [exchanged]
  conv_rhs => rw [split]
  simp only [waiting, List.flatMap_append, List.flatMap_cons, List.append_assoc]
  apply List.Perm.append_left
  refine List.perm_append_comm.trans ?_
  rw [List.append_assoc]
  refine List.perm_append_comm.trans ?_
  rw [List.append_assoc]
  exact List.Perm.append_left _ List.perm_append_comm

/-- Every queue counts what it holds, and every accepted task waits or was handed out. -/
structure Kept (pool : Pool Work) : Prop where
  tracked : ∀ queue ∈ pool.hdThreads, Tracked queue
  whole : pool.accepted.Perm (pool.executed.map Prod.snd ++ waiting pool.hdThreads)

theorem waiting_initPool (uiNum : Nat) : waiting (initPool uiNum : List (TaskQueue Work)) = [] := by
  rw [waiting, List.flatMap_eq_nil_iff]
  intro queue member
  rw [List.eq_of_mem_replicate member]

theorem kept_initial (uiNum : Nat) : Kept ({ hdThreads := initPool uiNum } : Pool Work) where
  tracked queue member := by
    rw [List.eq_of_mem_replicate member]
    exact tracked_empty
  whole := by
    rw [waiting_initPool]
    exact .refl _

theorem Kept.exchanged {pool : Pool Work} (kept : Kept pool) {place : Nat} {other : TaskQueue Work}
    (tracked : Tracked other) : ∀ queue ∈ pool.hdThreads.set place other, Tracked queue := by
  intro queue member
  rcases List.mem_or_eq_of_mem_set member with old | rfl
  · exact kept.tracked queue old
  · exact tracked

theorem kept_step {before after : Pool Work} {event : Event Work} (kept : Kept before)
    (moves : Moves before event after) : Kept after := by
  cases moves with
  | begins caller task idle => exact ⟨kept.tracked, kept.whole⟩
  | passes calls goes =>
    obtain ⟨rfl, -⟩ := assignTask_again kept.tracked goes
    exact ⟨kept.tracked, kept.whole⟩
  | @returns _ caller task scan code hdThreads calls left =>
    rcases assignTask_leave kept.tracked left with ⟨rfl, place, queue, added, found, rfl, tracked, behind, -⟩ | ⟨rfl, rfl⟩
    · refine ⟨kept.exchanged tracked, ?_⟩
      have exchanged := waiting_set added found
      rw [behind] at exchanged
      have waits : (waiting (before.hdThreads.set place added)).Perm (waiting before.hdThreads ++ [task]) := by
        apply (List.perm_append_right_iff queue.m_taskQueue).mp
        refine exchanged.trans ?_
        rw [List.append_assoc]
        exact List.Perm.append_left _ List.perm_append_comm
      refine (List.Perm.append_right [task] kept.whole).trans ?_
      rw [List.append_assoc]
      exact List.Perm.append_left _ waits.symm
    · exact ⟨kept.tracked, kept.whole⟩
  | @works _ worker queue popped code task own taken =>
    rcases getTask_leave (kept.tracked queue (List.mem_of_getElem? own)) taken with
      ⟨rfl, rfl⟩ | ⟨front, rfl, rfl, tracked, waits⟩
    · obtain ⟨inside, rfl⟩ := List.getElem?_eq_some_iff.mp own
      refine ⟨?_, ?_⟩
      · simpa only [List.set_getElem_self] using kept.tracked
      · simpa using kept.whole
    · refine ⟨kept.exchanged tracked, ?_⟩
      have exchanged := waiting_set popped own
      rw [waits] at exchanged
      have waited : (waiting before.hdThreads).Perm (front :: waiting (before.hdThreads.set worker popped)) := by
        apply (List.perm_append_right_iff popped.m_taskQueue).mp
        refine exchanged.symm.trans ?_
        exact List.perm_middle
      refine kept.whole.trans ?_
      simp only [if_true, Option.map_some, Option.toList_some, List.map_append, List.map_cons, List.map_nil,
        List.append_assoc]
      exact List.Perm.append_left _ waited

end System

/-- However callers and workers take turns, every queue counts what it holds and hands it
out, and every accepted task waits or was handed out, once. -/
theorem none_lost (uiNum : Nat) (events : List (Event Work)) (pool : Pool Work)
    (run : Run Moves { hdThreads := initPool uiNum } events pool) :
    pool.accepted.Perm (pool.executed.map Prod.snd ++ waiting pool.hdThreads) ∧
      ∀ queue ∈ pool.hdThreads, Tracked queue ∧ (queue.m_taskQueue ≠ [] → queue.getTask.1 = 0) := by
  have kept : Kept pool := run.invariant (fun _ _ _ => kept_step) (kept_initial uiNum)
  refine ⟨kept.whole, ?_⟩
  intro queue member
  have tracked := kept.tracked queue member
  refine ⟨tracked, ?_⟩
  intro some
  obtain ⟨task, rest, waits⟩ := List.exists_cons_of_ne_nil some
  obtain ⟨left, taken, -⟩ := getTask_cons tracked waits
  rw [taken]

section Order

/-- A call for an id begins when none is under way for it, and the pool has not accepted
as many tasks as would fill a queue. -/
def Apart (pool : Pool Work) : Event Work → Prop
  | .begins _ task => ∀ other running scan, pool.calls other = some (running, scan) →
      running.m_uiTaskId ≠ task.m_uiTaskId
  | .works _ => True
  | _ => pool.accepted.length < TaskQueue.maxQueueSize.toNat

/-- Two tasks of the id 1, one call after the other, with calls for the id 2 between the
passes of both. The first task of each id finds a thread of its own. -/
def twoOfOneId : List (Event Nat) :=
  [.begins 0 ⟨1, 10⟩, .begins 1 ⟨2, 20⟩, .passes 1, .passes 1, .returns 1 0, .passes 0, .passes 0, .returns 0 0,
    .begins 2 ⟨1, 11⟩, .passes 2, .begins 1 ⟨2, 21⟩, .returns 1 0, .returns 2 0, .works 1, .works 0, .works 1]

theorem twoOfOneId_run : ∃ pool : Pool Nat, Run (Moves.guarded Apart) { hdThreads := initPool 2 } twoOfOneId pool ∧
    pool.accepted = [⟨2, 20⟩, ⟨1, 10⟩, ⟨2, 21⟩, ⟨1, 11⟩] ∧
    pool.executed = [(1, ⟨1, 10⟩), (0, ⟨2, 20⟩), (1, ⟨1, 11⟩)] := by
  have few : ∀ tasks : List (TaskBase Nat), tasks.length < 5 → tasks.length < TaskQueue.maxQueueSize.toNat := by
    intro tasks short
    have limit : TaskQueue.maxQueueSize.toNat = 18446744073709551605 := rfl
    omega
  refine ⟨_, .cons ⟨.begins 0 ⟨1, 10⟩ rfl, ?first⟩ <| .cons ⟨.begins 1 ⟨2, 20⟩ rfl, ?between⟩ <|
    .cons ⟨.passes rfl rfl, few _ ?_⟩ <| .cons ⟨.passes rfl rfl, few _ ?_⟩ <| .cons ⟨.returns rfl rfl, few _ ?_⟩ <|
    .cons ⟨.passes rfl rfl, few _ ?_⟩ <| .cons ⟨.passes rfl rfl, few _ ?_⟩ <| .cons ⟨.returns rfl rfl, few _ ?_⟩ <|
    .cons ⟨.begins 2 ⟨1, 11⟩ rfl, ?second⟩ <| .cons ⟨.passes rfl rfl, few _ ?_⟩ <|
    .cons ⟨.begins 1 ⟨2, 21⟩ rfl, ?again⟩ <| .cons ⟨.returns rfl rfl, few _ ?_⟩ <|
    .cons ⟨.returns rfl rfl, few _ ?_⟩ <| .cons ⟨.works rfl rfl, trivial⟩ <| .cons ⟨.works rfl rfl, trivial⟩ <|
    .cons ⟨.works rfl rfl, trivial⟩ <| .nil _, rfl, rfl⟩
  case first => exact fun _ _ _ calls => nomatch calls
  -- The call under way then is for the other id, or has returned.
  case between | second | again =>
    intro other running scan calls
    simp only [Function.update_apply] at calls
    grind
  all_goals decide

theorem none_lost_two : ∃ pool : Pool Nat, pool.executed = [(1, ⟨1, 10⟩), (0, ⟨2, 20⟩), (1, ⟨1, 11⟩)] ∧
    pool.accepted.Perm (pool.executed.map Prod.snd ++ waiting pool.hdThreads) := by
  obtain ⟨pool, guarded, -, executed⟩ := twoOfOneId_run
  have run : Run Moves { hdThreads := initPool 2 } twoOfOneId pool :=
    guarded.mono (fun _ _ _ (_ : True) taken => ⟨taken.1, trivial⟩) trivial
  exact ⟨pool, executed, (none_lost 2 twoOfOneId pool run).1⟩

/-- An id waits in one queue at most, behind what was handed out of it, and a call under
way has passed no queue with tasks of its id. -/
structure InLine (pool : Pool Work) : Prop where
  kept : Kept pool
  single : ∀ id (place other : Nat) (queue behind : TaskQueue Work), pool.hdThreads[place]? = some queue → pool.hdThreads[other]? = some behind →
    ofId id queue.m_taskQueue ≠ [] → ofId id behind.m_taskQueue ≠ [] → place = other
  order : ∀ id, ofId id pool.accepted = ofId id (pool.executed.map Prod.snd) ++ ofId id (waiting pool.hdThreads)
  apart : ∀ caller other task running scan found, pool.calls caller = some (task, scan) →
    pool.calls other = some (running, found) → task.m_uiTaskId = running.m_uiTaskId → caller = other
  passed : ∀ caller task scan, pool.calls caller = some (task, scan) → ∀ place < scan.i, ∀ queue,
    pool.hdThreads[place]? = some queue → ofId task.m_uiTaskId queue.m_taskQueue = []

theorem ofId_waiting (id : UInt64) (hdThreads : List (TaskQueue Work)) :
    ofId id (waiting hdThreads) = hdThreads.flatMap fun queue => ofId id queue.m_taskQueue := by
  rw [ofId, waiting, List.filter_flatMap]
  rfl

/-- Where no other queue has tasks of the id, what waits of it waits in this one. -/
theorem ofId_waiting_alone {id : UInt64} {hdThreads : List (TaskQueue Work)} {place : Nat} {queue : TaskQueue Work}
    (found : hdThreads[place]? = some queue)
    (alone : ∀ other behind, hdThreads[other]? = some behind → other ≠ place → ofId id behind.m_taskQueue = []) :
    ofId id (waiting hdThreads) = ofId id queue.m_taskQueue := by
  rw [ofId_waiting]
  induction hdThreads generalizing place with
  | nil => cases found
  | cons first hdThreads ih =>
    rw [List.flatMap_cons]
    cases place with
    | zero =>
      cases found
      have none : (hdThreads.flatMap fun queue => ofId id queue.m_taskQueue) = [] := by
        rw [List.flatMap_eq_nil_iff]
        intro behind member
        obtain ⟨other, inside⟩ := List.mem_iff_getElem?.mp member
        exact alone (other + 1) behind inside (Nat.succ_ne_zero _)
      rw [none, List.append_nil]
    | succ place =>
      rw [alone 0 first rfl (Nat.succ_ne_zero _).symm, List.nil_append]
      apply ih found
      intro other behind inside differs
      exact alone (other + 1) behind inside (fun same => differs (Nat.succ.inj same))

theorem ofId_waiting_set {id : UInt64} {hdThreads : List (TaskQueue Work)} {place : Nat} {queue other : TaskQueue Work}
    (found : hdThreads[place]? = some queue) (same : ofId id other.m_taskQueue = ofId id queue.m_taskQueue) :
    ofId id (waiting (hdThreads.set place other)) = ofId id (waiting hdThreads) := by
  rw [ofId_waiting, ofId_waiting]
  induction hdThreads generalizing place with
  | nil => cases found
  | cons first hdThreads ih =>
    cases place with
    | zero =>
      cases found
      simp only [List.set_cons_zero, List.flatMap_cons, same]
    | succ place => simp only [List.set_cons_succ, List.flatMap_cons, ih found]

theorem found_set {hdThreads : List (TaskQueue Work)} {place asked : Nat} {other behind : TaskQueue Work}
    (found : (hdThreads.set place other)[asked]? = some behind) :
    (asked = place ∧ behind = other) ∨ (asked ≠ place ∧ hdThreads[asked]? = some behind) := by
  by_cases same : asked = place
  · subst same
    rw [List.getElem?_set_self'] at found
    cases here : hdThreads[asked]? with
    | none =>
      rw [here] at found
      cases found
    | some queue =>
      rw [here] at found
      cases found
      exact .inl ⟨rfl, rfl⟩
  · rw [List.getElem?_set_ne (Ne.symm same)] at found
    exact .inr ⟨same, found⟩

/-- No queue is full while the tasks accepted would not fill one. -/
theorem Kept.room {pool : Pool Work} (kept : Kept pool) (few : pool.accepted.length < TaskQueue.maxQueueSize.toNat)
    {queue : TaskQueue Work} (member : queue ∈ pool.hdThreads) :
    queue.m_taskQueue.length < TaskQueue.maxQueueSize.toNat := by
  have lengths := kept.whole.length_eq
  have part : queue.m_taskQueue.length ≤ (waiting pool.hdThreads).length := by
    rw [waiting, List.length_flatMap]
    exact List.le_sum_of_mem (List.mem_map_of_mem member)
  rw [List.length_append] at lengths
  omega

variable {before : Pool Work}

theorem InLine.others (inLine : InLine before) {caller : Nat} {task : TaskBase Work} {scan : Scan}
    (calls : before.calls caller = some (task, scan)) {other : Nat} {running : TaskBase Work} {found : Scan}
    (still : Function.update before.calls caller none other = some (running, found)) :
    before.calls other = some (running, found) ∧ running.m_uiTaskId ≠ task.m_uiTaskId := by
  by_cases same : other = caller
  · subst same
    rw [Function.update_self] at still
    cases still
  · rw [Function.update_of_ne same] at still
    refine ⟨still, ?_⟩
    intro equal
    exact same (inLine.apart other caller running task found scan still calls equal)

/-- The task joins the queue that has its id, where there is one. -/
theorem InLine.joins (inLine : InLine before) {caller : Nat} {task : TaskBase Work} {scan : Scan}
    (calls : before.calls caller = some (task, scan)) {place : Nat} {queue : TaskQueue Work}
    (found : before.hdThreads[place]? = some queue)
    (last : ofId task.m_uiTaskId queue.m_taskQueue = [] → before.hdThreads.length ≤ scan.i) :
    ∀ other behind, before.hdThreads[other]? = some behind → other ≠ place →
      ofId task.m_uiTaskId behind.m_taskQueue = [] := by
  intro other behind inside differs
  by_cases none : ofId task.m_uiTaskId queue.m_taskQueue = []
  · have below := (List.getElem?_eq_some_iff.mp inside).1
    exact inLine.passed caller task scan calls other (Nat.lt_of_lt_of_le below (last none)) behind inside
  · by_contra some
    exact differs (inLine.single _ other place behind queue inside found some none)

theorem InLine.added (inLine : InLine before) {caller : Nat} {task : TaskBase Work} {scan : Scan}
    (calls : before.calls caller = some (task, scan)) {place : Nat} {queue added : TaskQueue Work}
    (found : before.hdThreads[place]? = some queue) (behind : added.m_taskQueue = queue.m_taskQueue ++ [task])
    (last : ofId task.m_uiTaskId queue.m_taskQueue = [] → before.hdThreads.length ≤ scan.i)
    (kept : Kept { before with
      hdThreads := before.hdThreads.set place added
      calls := Function.update before.calls caller none
      accepted := before.accepted ++ [task] }) :
    InLine { before with
      hdThreads := before.hdThreads.set place added
      calls := Function.update before.calls caller none
      accepted := before.accepted ++ [task] } := by
  have alone := inLine.joins calls found last
  have otherId : ∀ id, task.m_uiTaskId ≠ id → ofId id added.m_taskQueue = ofId id queue.m_taskQueue := by
    intro id differs
    rw [behind, ofId_append, ofId_other differs, List.append_nil]
  have after : (before.hdThreads.set place added)[place]? = some added := by
    rw [List.getElem?_set_self', found]
    rfl
  refine ⟨kept, ?_, ?_, ?_, ?_⟩
  · intro id one two first second inFirst inSecond waitsFirst waitsSecond
    by_cases own : task.m_uiTaskId = id
    · subst own
      have here : ∀ asked behind, (before.hdThreads.set place added)[asked]? = some behind →
          ofId task.m_uiTaskId behind.m_taskQueue ≠ [] → asked = place := by
        intro asked behind inside holds
        rcases found_set inside with ⟨same, -⟩ | ⟨differs, old⟩
        · exact same
        · exact absurd (alone asked behind old differs) holds
      exact (here one first inFirst waitsFirst).trans (here two second inSecond waitsSecond).symm
    · have old : ∀ (asked : Nat) (behind : TaskQueue Work), (before.hdThreads.set place added)[asked]? = some behind →
          ofId id behind.m_taskQueue ≠ [] → ∃ queue : TaskQueue Work, before.hdThreads[asked]? = some queue ∧
            ofId id queue.m_taskQueue ≠ [] := by
        intro asked behind inside holds
        rcases found_set inside with ⟨rfl, rfl⟩ | ⟨-, old⟩
        · exact ⟨queue, found, by rw [← otherId id own]; exact holds⟩
        · exact ⟨behind, old, holds⟩
      obtain ⟨front, inFront, holds⟩ := old one first inFirst waitsFirst
      obtain ⟨back, inBack, also⟩ := old two second inSecond waitsSecond
      exact inLine.single id one two front back inFront inBack holds also
  · intro id
    by_cases own : task.m_uiTaskId = id
    · subst own
      have waits := ofId_waiting_alone found alone
      have stays : ofId task.m_uiTaskId (waiting (before.hdThreads.set place added)) =
          ofId task.m_uiTaskId added.m_taskQueue := by
        apply ofId_waiting_alone after
        intro other queue inside differs
        rcases found_set inside with ⟨same, -⟩ | ⟨-, old⟩
        · exact absurd same differs
        · exact alone other queue old differs
      simp only [ofId_append, stays, behind, inLine.order, waits, List.append_assoc]
    · simp only [ofId_append, ofId_other own, List.append_nil, ofId_waiting_set found (otherId id own), inLine.order]
  · intro one two first second scanned looked stillOne stillTwo same
    exact inLine.apart one two first second scanned looked (inLine.others calls stillOne).1
      (inLine.others calls stillTwo).1 same
  · intro other running point still asked below waits inside
    obtain ⟨old, differs⟩ := inLine.others calls still
    rcases found_set inside with ⟨rfl, rfl⟩ | ⟨-, unchanged⟩
    · rw [otherId _ (Ne.symm differs)]
      exact inLine.passed other running point old asked below queue found
    · exact inLine.passed other running point old asked below waits unchanged

theorem InLine.popped (inLine : InLine before) {worker : Nat} {queue left : TaskQueue Work} {front : TaskBase Work}
    (own : before.hdThreads[worker]? = some queue) (waits : queue.m_taskQueue = front :: left.m_taskQueue)
    (kept : Kept { before with
      hdThreads := before.hdThreads.set worker left
      executed := before.executed ++ [(worker, front)] }) :
    InLine { before with
      hdThreads := before.hdThreads.set worker left
      executed := before.executed ++ [(worker, front)] } := by
  have otherId : ∀ id, front.m_uiTaskId ≠ id → ofId id left.m_taskQueue = ofId id queue.m_taskQueue := by
    intro id differs
    rw [waits, ofId_cons_other differs]
  have fewer : ∀ (asked : Nat) (behind : TaskQueue Work), (before.hdThreads.set worker left)[asked]? = some behind →
      ∃ old : TaskQueue Work, before.hdThreads[asked]? = some old ∧
        ∀ id, ofId id old.m_taskQueue = [] → ofId id behind.m_taskQueue = [] := by
    intro asked behind inside
    rcases found_set inside with ⟨rfl, rfl⟩ | ⟨-, old⟩
    · refine ⟨queue, own, ?_⟩
      intro id none
      rw [waits] at none
      by_cases same : front.m_uiTaskId = id
      · subst same
        rw [ofId_cons_own] at none
        cases none
      · rwa [ofId_cons_other same] at none
    · exact ⟨behind, old, fun _ none => none⟩
  refine ⟨kept, ?_, ?_, inLine.apart, ?_⟩
  · intro id one two first second inFirst inSecond waitsFirst waitsSecond
    obtain ⟨one, oldFirst, holds⟩ := fewer _ first inFirst
    obtain ⟨two, oldSecond, also⟩ := fewer _ second inSecond
    exact inLine.single id _ _ one two oldFirst oldSecond (fun none => waitsFirst (holds id none))
      (fun none => waitsSecond (also id none))
  · intro id
    by_cases same : front.m_uiTaskId = id
    · subst same
      have holds : ofId front.m_uiTaskId queue.m_taskQueue ≠ [] := by
        rw [waits, ofId_cons_own]
        exact List.cons_ne_nil _ _
      have alone : ∀ other behind, before.hdThreads[other]? = some behind → other ≠ worker →
          ofId front.m_uiTaskId behind.m_taskQueue = [] := by
        intro other behind inside differs
        by_contra waitsThere
        exact differs (inLine.single _ other worker behind queue inside own waitsThere holds)
      have after : (before.hdThreads.set worker left)[worker]? = some left := by
        rw [List.getElem?_set_self', own]
        rfl
      have stays : ofId front.m_uiTaskId (waiting (before.hdThreads.set worker left)) =
          ofId front.m_uiTaskId left.m_taskQueue := by
        apply ofId_waiting_alone after
        intro other behind inside differs
        rcases found_set inside with ⟨here, -⟩ | ⟨-, old⟩
        · exact absurd here differs
        · exact alone other behind old differs
      have waited := ofId_waiting_alone own alone
      rw [waits, ofId_cons_own] at waited
      simp only [List.map_append, List.map_cons, List.map_nil, ofId_append, ofId_own, stays, inLine.order, waited,
        List.append_assoc, List.singleton_append]
    · simp only [List.map_append, List.map_cons, List.map_nil, ofId_append, ofId_other same, List.append_nil,
        ofId_waiting_set own (otherId id same), inLine.order]
  · intro caller task scan calls place below behind inside
    obtain ⟨old, inOld, less⟩ := fewer _ behind inside
    exact less _ (inLine.passed caller task scan calls place below old inOld)

/-- A call that shares its id with no other goes on behind the threads that lack it. -/
theorem InLine.calling (inLine : InLine before) {caller : Nat} {task : TaskBase Work} {scan : Scan}
    (others : ∀ other running point, other ≠ caller → before.calls other = some (running, point) →
      running.m_uiTaskId ≠ task.m_uiTaskId)
    (asked : ∀ place < scan.i, ∀ queue, before.hdThreads[place]? = some queue → ofId task.m_uiTaskId queue.m_taskQueue = []) :
    InLine { before with calls := Function.update before.calls caller (some (task, scan)) } := by
  have cases : ∀ other running point, Function.update before.calls caller (some (task, scan)) other = some (running, point) →
      (other = caller ∧ running = task ∧ point = scan) ∨ (other ≠ caller ∧ before.calls other = some (running, point)) := by
    intro other running point calls
    by_cases same : other = caller
    · subst same
      rw [Function.update_self] at calls
      cases calls
      exact .inl ⟨rfl, rfl, rfl⟩
    · rw [Function.update_of_ne same] at calls
      exact .inr ⟨same, calls⟩
  refine ⟨⟨inLine.kept.tracked, inLine.kept.whole⟩, inLine.single, inLine.order, ?_, ?_⟩
  · intro one two first second scanned looked callsOne callsTwo same
    rcases cases one first scanned callsOne with ⟨rfl, rfl, rfl⟩ | ⟨differsOne, oldOne⟩
    · rcases cases two second looked callsTwo with ⟨rfl, -, -⟩ | ⟨differs, old⟩
      · rfl
      · exact absurd same.symm (others two second looked differs old)
    · rcases cases two second looked callsTwo with ⟨rfl, rfl, rfl⟩ | ⟨-, old⟩
      · exact absurd same (others one first scanned differsOne oldOne)
      · exact inLine.apart one two first second scanned looked oldOne old same
  · intro other running point calls
    rcases cases other running point calls with ⟨rfl, rfl, rfl⟩ | ⟨-, old⟩
    · exact asked
    · exact inLine.passed other running point old

theorem inLine_step {after : Pool Work} {event : Event Work} (inLine : InLine before)
    (moves : (Moves.guarded Apart) before event after) : InLine after := by
  obtain ⟨moves, apart⟩ := moves
  have kept := kept_step inLine.kept moves
  cases moves with
  | begins caller task idle =>
    apply inLine.calling
    · intro other running point _ calls
      exact apart other running point calls
    · intro place below
      exact absurd below (Nat.not_lt_zero place)
  | @passes _ caller task scan next hdThreads calls goes =>
    obtain ⟨rfl, count, queue, asked, refuses⟩ := assignTask_again inLine.kept.tracked goes
    apply inLine.calling
    · intro other running point differs old same
      exact differs (inLine.apart other caller running task point scan old calls same)
    · intro place below behind inside
      rcases Nat.lt_or_ge place scan.i with earlier | last
      · exact inLine.passed caller task scan calls place earlier behind inside
      · have here : place = scan.i := by omega
        rw [here, asked] at inside
        cases inside
        have room := inLine.kept.room apart (List.mem_of_getElem? asked)
        rcases refuses with full | none
        · omega
        · exact none
  | @returns _ caller task scan code hdThreads calls left =>
    rcases assignTask_leave inLine.kept.tracked left with
      ⟨rfl, place, queue, added, found, rfl, tracked, behind, last⟩ | ⟨rfl, rfl⟩
    · exact inLine.added calls found behind last kept
    · refine ⟨kept, inLine.single, inLine.order, ?_, ?_⟩
      · intro one two first second scanned looked stillOne stillTwo same
        exact inLine.apart one two first second scanned looked (inLine.others calls stillOne).1
          (inLine.others calls stillTwo).1 same
      · intro other running point still
        exact inLine.passed other running point (inLine.others calls still).1
  | @works _ worker queue popped code task own taken =>
    rcases getTask_leave (inLine.kept.tracked queue (List.mem_of_getElem? own)) taken with
      ⟨rfl, rfl⟩ | ⟨front, rfl, rfl, tracked, waits⟩
    · have same : before.hdThreads.set worker popped = before.hdThreads := by
        obtain ⟨inside, rfl⟩ := List.getElem?_eq_some_iff.mp own
        exact List.set_getElem_self inside
      simp only [same, Int.one_ne_zero, if_false]
      exact inLine
    · exact inLine.popped own waits kept

theorem inLine_initial (uiNum : Nat) : InLine ({ hdThreads := initPool uiNum } : Pool Work) where
  kept := kept_initial uiNum
  single id place other queue behind found _ holds := by
    rw [List.eq_of_mem_replicate (List.mem_of_getElem? found)] at holds
    exact absurd rfl holds
  order id := by
    rw [waiting_initPool]
    rfl
  apart _ _ _ _ _ _ calls := nomatch calls
  passed _ _ _ calls := nomatch calls

end Order

/-- Where the calls for an id do not overlap, what was handed out of it is what was
accepted of it first, in that order, and the rest of it waits in its order in one queue. -/
theorem handed_out_in_order (uiNum : Nat) (events : List (Event Work)) (pool : Pool Work)
    (run : Run (Moves.guarded Apart) { hdThreads := initPool uiNum } events pool) (id : UInt64) :
    ofId id pool.accepted = ofId id (pool.executed.map Prod.snd) ++ ofId id (waiting pool.hdThreads) ∧
      ∀ (place other : Nat) (queue behind : TaskQueue Work), pool.hdThreads[place]? = some queue →
        pool.hdThreads[other]? = some behind → ofId id queue.m_taskQueue ≠ [] → ofId id behind.m_taskQueue ≠ [] →
        place = other := by
  have inLine : InLine pool := run.invariant (fun _ _ _ => inLine_step) (inLine_initial uiNum)
  exact ⟨inLine.order id, inLine.single id⟩

theorem handed_out_in_order_two : ∃ pool : Pool Nat, ofId 1 pool.accepted = [⟨1, 10⟩, ⟨1, 11⟩] ∧
    pool.executed = [(1, ⟨1, 10⟩), (0, ⟨2, 20⟩), (1, ⟨1, 11⟩)] ∧
    ofId 1 pool.accepted = ofId 1 (pool.executed.map Prod.snd) ++ ofId 1 (waiting pool.hdThreads) := by
  obtain ⟨pool, run, accepted, executed⟩ := twoOfOneId_run
  exact ⟨pool, by rw [accepted]; decide, executed, (handed_out_in_order 2 twoOfOneId pool run 1).1⟩

/-- The one thread of the writer holds, in their order, the tasks not handed out yet. -/
structure OneLine (pool : Pool Work) : Prop where
  kept : Kept pool
  line : ∃ queue, pool.hdThreads = [queue] ∧ pool.accepted = pool.executed.map Prod.snd ++ queue.m_taskQueue

theorem oneLine_step {before after : Pool Work} {event : Event Work} (oneLine : OneLine before)
    (moves : Moves before event after) : OneLine after := by
  obtain ⟨keptBefore, own, threads, line⟩ := oneLine
  refine ⟨kept_step keptBefore moves, ?_⟩
  have only : ∀ {place : Nat} {queue : TaskQueue Work}, before.hdThreads[place]? = some queue → place = 0 ∧ queue = own := by
    intro place queue found
    rw [threads, List.getElem?_singleton] at found
    split at found
    next first =>
      cases found
      exact ⟨first, rfl⟩
    · cases found
  cases moves with
  | begins caller task idle => exact ⟨own, threads, line⟩
  | passes calls goes =>
    obtain ⟨rfl, -⟩ := assignTask_again keptBefore.tracked goes
    exact ⟨own, threads, line⟩
  | @returns _ caller task scan code hdThreads calls left =>
    rcases assignTask_leave keptBefore.tracked left with
      ⟨rfl, place, queue, added, found, rfl, tracked, behind, -⟩ | ⟨rfl, rfl⟩
    · obtain ⟨rfl, rfl⟩ := only found
      refine ⟨added, by rw [threads]; rfl, ?_⟩
      simp only [if_true, line, behind, List.append_assoc]
    · exact ⟨own, threads, line⟩
  | @works _ worker queue popped code task found taken =>
    obtain ⟨rfl, rfl⟩ := only found
    rcases getTask_leave (keptBefore.tracked queue (List.mem_of_getElem? found)) taken with
      ⟨rfl, rfl⟩ | ⟨front, rfl, rfl, tracked, waits⟩
    · exact ⟨popped, by rw [threads]; rfl, line⟩
    · refine ⟨popped, by rw [threads]; rfl, ?_⟩
      simp only [if_true, line, waits, Option.map_some, Option.toList_some, List.map_append, List.map_cons, List.map_nil,
        List.append_assoc, List.singleton_append]

/-- The database writer hands all tasks out in the order it accepted them, whatever their
ids and however the callers overlap. -/
theorem writer_in_order (events : List (Event Work)) (pool : Pool Work)
    (run : Run Moves { hdThreads := AsyncDbWriter.pipelinePool } events pool) :
    pool.accepted = pool.executed.map Prod.snd ++ waiting pool.hdThreads := by
  have initial : OneLine ({ hdThreads := AsyncDbWriter.pipelinePool } : Pool Work) := ⟨kept_initial 1, {}, rfl, rfl⟩
  have oneLine : OneLine pool := run.invariant (fun _ _ _ => oneLine_step) initial
  obtain ⟨queue, threads, line⟩ := oneLine.line
  rw [line, threads, waiting, List.flatMap_cons, List.flatMap_nil, List.append_nil]

/-- The same at the writer, where a task of the id 2 comes in between. -/
def oneThread : List (Event Nat) :=
  [.begins 0 ⟨1, 10⟩, .passes 0, .begins 1 ⟨2, 20⟩, .passes 1, .returns 1 0, .returns 0 0, .begins 2 ⟨1, 11⟩,
    .returns 2 0, .works 0, .works 0]

theorem writer_in_order_one : ∃ pool : Pool Nat, pool.accepted = [⟨2, 20⟩, ⟨1, 10⟩, ⟨1, 11⟩] ∧
    pool.executed = [(0, ⟨2, 20⟩), (0, ⟨1, 10⟩)] ∧
    pool.accepted = pool.executed.map Prod.snd ++ waiting pool.hdThreads := by
  have run : ∃ pool : Pool Nat, Run Moves { hdThreads := AsyncDbWriter.pipelinePool } oneThread pool ∧
      pool.accepted = [⟨2, 20⟩, ⟨1, 10⟩, ⟨1, 11⟩] ∧ pool.executed = [(0, ⟨2, 20⟩), (0, ⟨1, 10⟩)] :=
    ⟨_, .cons (.begins 0 ⟨1, 10⟩ rfl) <| .cons (.passes rfl rfl) <| .cons (.begins 1 ⟨2, 20⟩ rfl) <|
      .cons (.passes rfl rfl) <| .cons (.returns rfl rfl) <| .cons (.returns rfl rfl) <|
      .cons (.begins 2 ⟨1, 11⟩ rfl) <| .cons (.returns rfl rfl) <| .cons (.works rfl rfl) <|
      .cons (.works rfl rfl) <| .nil _, rfl, rfl⟩
  obtain ⟨pool, run, accepted, executed⟩ := run
  exact ⟨pool, accepted, executed, writer_in_order oneThread pool run⟩

end Simutgw.Proofs.PipeLineOrder
