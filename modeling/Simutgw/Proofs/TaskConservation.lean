import Simutgw.Proofs.CancelLookup

/-! No task of a worker's queue is lost or doubled: what was put in is what was handed
out, what a cancel took out and what still waits, and the count is of the last. -/

namespace Simutgw.Proofs.TaskConservation
open TaskPriorityQueue CancelLookup

section Operations

variable {queue rest : TaskPriorityQueue} {task : Task}

theorem placeFrom_perm (ascending : Bool) (task : Task) (container : List Task) :
    (placeFrom ascending task container).Perm (task :: container) := by
  induction container with
  | nil => exact .refl _
  | cons other container ih =>
    unfold placeFrom
    repeat' split
    all_goals first
      | exact .refl _
      | exact .swap _ _ _
      | exact (ih.cons other).trans (.swap _ _ _)

theorem dequeInsert_perm (container : List Task) (task : Task) :
    (dequeInsert container task).Perm (task :: container) := by
  have inserted (ascending : Bool) : (dequePriceTimeBinaryInsert ascending container task).Perm (task :: container) := by
    unfold dequePriceTimeBinaryInsert
    refine ((placeFrom_perm ascending task _).append_left _).trans ?_
    refine List.perm_middle.trans ?_
    rw [List.take_append_drop]
  unfold dequeInsert dequePriceTimeBinaryInsertInc dequePriceTimeBinaryInsertDesc
  split <;> exact inserted _

theorem insertOrdered_perm (task : Task) (que : List (Int × List Task)) :
    ((insertOrdered task que).flatMap Prod.snd).Perm (task :: que.flatMap Prod.snd) := by
  induction que with
  | nil => exact .refl _
  | cons entry que ih =>
    obtain ⟨key, container⟩ := entry
    unfold insertOrdered
    split
    · exact (dequeInsert_perm container task).append_right _
    · split
      · exact .refl _
      · exact (ih.append_left container).trans List.perm_middle

theorem addTask_cases (queue : TaskPriorityQueue) (task : Task) (isMatchOrdered : Bool) :
    maxQueueSize ≤ queue.taskNums ∧ queue.addTask task isMatchOrdered = (2, queue) ∨
      ∃ next, queue.taskNums < maxQueueSize ∧ queue.addTask task isMatchOrdered = (0, next) ∧
        next.taskNums = queue.taskNums + 1 ∧ (pending next).Perm (task :: pending queue) := by
  by_cases full : maxQueueSize ≤ queue.taskNums
  · exact .inl ⟨full, if_pos full⟩
  · right
    have room := UInt64.not_le.mp full
    unfold addTask
    simp only [full, if_false]
    cases task.priority with
    | standbyOrder =>
      cases isMatchOrdered with
      | true =>
        refine ⟨_, room, rfl, rfl, ?_⟩
        simp only [pending, List.append_assoc]
        exact (insertOrdered_perm task _).append_right _
      | false =>
        refine ⟨_, room, rfl, rfl, ?_⟩
        have moved := @List.perm_middle _ task
          (queue.p3OrderQue.flatMap Prod.snd ++ queue.p3UnorderQue ++ queue.p2Que ++ queue.p1Que) queue.p4Que
        simpa only [pending, List.append_assoc, List.cons_append, List.nil_append] using moved
    | checkOrder =>
      refine ⟨_, room, rfl, rfl, ?_⟩
      have moved := @List.perm_middle _ task
        (queue.p3OrderQue.flatMap Prod.snd ++ queue.p3UnorderQue ++ queue.p2Que) (queue.p1Que ++ queue.p4Que)
      simpa only [pending, List.append_assoc, List.cons_append, List.nil_append] using moved
    | matchOrder =>
      cases isMatchOrdered with
      | true =>
        refine ⟨_, room, rfl, rfl, ?_⟩
        simp only [pending, List.append_assoc]
        exact (insertOrdered_perm task _).append_right _
      | false =>
        refine ⟨_, room, rfl, rfl, ?_⟩
        have moved := @List.perm_middle _ task
          (queue.p3OrderQue.flatMap Prod.snd ++ queue.p3UnorderQue) (queue.p2Que ++ queue.p1Que ++ queue.p4Que)
        simpa only [pending, List.append_assoc, List.cons_append, List.nil_append] using moved
    | cancelOrder =>
      refine ⟨_, room, rfl, rfl, ?_⟩
      have moved := @List.perm_middle _ task
        (queue.p3OrderQue.flatMap Prod.snd ++ queue.p3UnorderQue ++ queue.p2Que ++ queue.p1Que ++ queue.p4Que) []
      simpa only [pending, List.append_assoc, List.singleton_append, List.append_nil] using moved

theorem LeavesOnly.perm {tasks left : List Task} (leaves : LeavesOnly task tasks left) : tasks.Perm (task :: left) := by
  obtain ⟨before, after, rfl, rfl⟩ := leaves
  exact List.perm_middle

theorem leaves_head (tasks : List Task) : LeavesOnly task (task :: tasks) tasks := ⟨[], tasks, rfl, rfl⟩

theorem popOrdered_spec (que : List (Int × List Task)) :
    match popOrdered que with
    | none => que.flatMap Prod.snd = []
    | some (task, left) => LeavesOnly task (que.flatMap Prod.snd) (left.flatMap Prod.snd) := by
  induction que with
  | nil => rfl
  | cons entry que ih =>
    obtain ⟨key, container⟩ := entry
    cases container with
    | nil =>
      unfold popOrdered
      cases found : popOrdered que with
      | none =>
        rw [found] at ih
        exact ih
      | some taken =>
        rw [found] at ih
        exact ih
    | cons task container => exact leaves_head _

theorem pending_off (queue : TaskPriorityQueue) :
    pending (if queue.taskNums = 0 then queue else { queue with taskNums := queue.taskNums - 1 }) = pending queue := by
  split <;> rfl

theorem counted_off (queue : TaskPriorityQueue) :
    (if queue.taskNums = 0 then queue else { queue with taskNums := queue.taskNums - 1 }).taskNums =
      if queue.taskNums = 0 then 0 else queue.taskNums - 1 := by
  split
  next none => exact none
  next => rfl

/-- What a worker gets leaves the queue and is counted off; it gets nothing only where
nothing waits. -/
theorem getTask_cases (queue : TaskPriorityQueue) :
    queue.getTask = none ∧ pending queue = [] ∨
      ∃ task rest, queue.getTask = some (task, rest) ∧ LeavesOnly task (pending queue) (pending rest) ∧
        rest.taskNums = if queue.taskNums = 0 then 0 else queue.taskNums - 1 := by
  obtain ⟨nums, standbys, checks, ordered, unordered, cancels⟩ := queue
  cases cancels with
  | cons task left =>
    refine .inr ⟨task, _, rfl, ?_, counted_off ⟨nums, standbys, checks, ordered, unordered, left⟩⟩
    rw [pending_off ⟨nums, standbys, checks, ordered, unordered, left⟩]
    have leaves := (@leaves_head task left).append (ordered.flatMap Prod.snd ++ unordered ++ checks ++ standbys) []
    simpa only [pending, List.append_assoc, List.append_nil] using leaves
  | nil =>
    cases unordered with
    | cons task left =>
      refine .inr ⟨task, _, rfl, ?_, counted_off ⟨nums, standbys, checks, ordered, left, []⟩⟩
      rw [pending_off ⟨nums, standbys, checks, ordered, left, []⟩]
      have leaves := (@leaves_head task left).append (ordered.flatMap Prod.snd) (checks ++ standbys)
      simpa only [pending, List.append_assoc, List.append_nil] using leaves
    | nil =>
      have popped := popOrdered_spec ordered
      unfold getTask
      cases front : popOrdered ordered with
      | some taken =>
        obtain ⟨task, left⟩ := taken
        rw [front] at popped
        refine .inr ⟨task, _, rfl, ?_, counted_off ⟨nums, standbys, checks, left, [], []⟩⟩
        rw [pending_off ⟨nums, standbys, checks, left, [], []⟩]
        have leaves := LeavesOnly.append popped [] (checks ++ standbys)
        simpa only [pending, List.append_assoc, List.nil_append, List.append_nil] using leaves
      | none =>
        rw [front] at popped
        cases checks with
        | cons task left =>
          refine .inr ⟨task, _, rfl, ?_, counted_off ⟨nums, standbys, left, ordered, [], []⟩⟩
          rw [pending_off ⟨nums, standbys, left, ordered, [], []⟩]
          have leaves := (@leaves_head task left).append (ordered.flatMap Prod.snd) standbys
          simpa only [pending, List.append_assoc, List.nil_append, List.append_nil] using leaves
        | nil =>
          cases standbys with
          | cons task left =>
            refine .inr ⟨task, _, rfl, ?_, counted_off ⟨nums, left, [], ordered, [], []⟩⟩
            rw [pending_off ⟨nums, left, [], ordered, [], []⟩]
            have leaves := (@leaves_head task left).append (ordered.flatMap Prod.snd) []
            simpa only [pending, List.append_assoc, List.nil_append, List.append_nil] using leaves
          | nil =>
            refine .inl ⟨rfl, ?_⟩
            simp only [pending, popped, List.append_nil]

theorem deleteIfHaveTask_counts {key : Int} {clOrdId : String}
    (done : queue.deleteIfHaveTask key clOrdId = some (task, rest)) : rest.taskNums = queue.taskNums - 1 := by
  unfold deleteIfHaveTask at done
  simp only at done
  repeat' split at done
  all_goals first
    | cases done
      rfl
    | cases done

end Operations

/-- What the users of a queue call. -/
inductive Call
  | add (task : Task) (isMatchOrdered : Bool)
  | get
  | delete (key : Int) (clOrdId : String)

/-- A queue and what has gone through it. -/
structure Ledger where
  queue : TaskPriorityQueue := {}
  added : List Task := []
  returned : List Task := []
  deleted : List Task := []

def Ledger.call (ledger : Ledger) : Call → Ledger
  | .add task isMatchOrdered =>
    match ledger.queue.addTask task isMatchOrdered with
    | (0, queue) => { ledger with queue, added := ledger.added ++ [task] }
    | (_, queue) => { ledger with queue }
  | .get =>
    match ledger.queue.getTask with
    | some (task, queue) => { ledger with queue, returned := ledger.returned ++ [task] }
    | none => ledger
  | .delete key clOrdId =>
    match ledger.queue.deleteIfHaveTask key clOrdId with
    | some (task, queue) => { ledger with queue, deleted := ledger.deleted ++ [task] }
    | none => ledger

/-- Every task added is handed out, taken out or waiting; the count is of those
waiting; and a worker goes without a task only where none waits. -/
structure Balanced (ledger : Ledger) : Prop where
  conserved : ledger.added.Perm (ledger.returned ++ ledger.deleted ++ pending ledger.queue)
  counted : ledger.queue.taskNums.toNat = (pending ledger.queue).length
  idle : ledger.queue.getTask = none → pending ledger.queue = []

section Calls

variable {ledger : Ledger}

theorem idle_only_empty (queue : TaskPriorityQueue) (none : queue.getTask = none) : pending queue = [] := by
  rcases getTask_cases queue with ⟨-, empty⟩ | ⟨task, rest, gets, -⟩
  · exact empty
  · rw [none] at gets
    cases gets

theorem counted_one_off {one rest : List Task} {task : Task} {nums : UInt64} (counted : nums.toNat = one.length)
    (leaves : LeavesOnly task one rest) : (nums - 1).toNat = rest.length ∧ nums ≠ 0 := by
  have length := (LeavesOnly.perm leaves).length_eq
  rw [List.length_cons] at length
  have some : (1 : UInt64) ≤ nums := by
    rw [UInt64.le_iff_toNat_le, UInt64.toNat_one]
    omega
  refine ⟨?_, ?_⟩
  · rw [UInt64.toNat_sub_of_le _ _ some, UInt64.toNat_one]
    omega
  · rintro rfl
    rw [UInt64.toNat_zero] at counted
    omega

theorem Balanced.adds (balanced : Balanced ledger) (task : Task) (isMatchOrdered : Bool) :
    Balanced (ledger.call (.add task isMatchOrdered)) := by
  unfold Ledger.call
  rcases addTask_cases ledger.queue task isMatchOrdered with ⟨-, full⟩ | ⟨next, room, added, nums, waits⟩
  · simp only [full]
    exact balanced
  · simp only [added]
    refine ⟨?_, ?_, idle_only_empty next⟩
    · have waiting := (List.perm_append_singleton task (pending ledger.queue)).trans waits.symm
      have both := balanced.conserved.append_right [task]
      rw [List.append_assoc _ (pending ledger.queue)] at both
      exact both.trans (waiting.append_left (ledger.returned ++ ledger.deleted))
    · have bound := UInt64.lt_iff_toNat_lt.mp room
      have most : maxQueueSize.toNat = 18446744073709551605 := rfl
      simp only
      rw [nums, waits.length_eq, List.length_cons, ← balanced.counted, UInt64.toNat_add, UInt64.toNat_one]
      omega

theorem Balanced.gets (balanced : Balanced ledger) : Balanced (ledger.call .get) := by
  unfold Ledger.call
  rcases getTask_cases ledger.queue with ⟨none, -⟩ | ⟨task, rest, gets, leaves, nums⟩
  · simp only [none]
    exact balanced
  · simp only [gets]
    obtain ⟨counted, some⟩ := counted_one_off balanced.counted leaves
    refine ⟨?_, ?_, idle_only_empty rest⟩
    · have moved := List.Perm.append_left ledger.returned
        ((List.Perm.append_left ledger.deleted (LeavesOnly.perm leaves)).trans List.perm_middle)
      have all := balanced.conserved.trans (by simpa only [List.append_assoc] using moved)
      simpa only [List.append_assoc, List.cons_append, List.nil_append] using all
    · simp only
      rw [nums, if_neg some]
      exact counted

theorem Balanced.deletes (balanced : Balanced ledger) (key : Int) (clOrdId : String) :
    Balanced (ledger.call (.delete key clOrdId)) := by
  have found := deleteIfHaveTask_spec ledger.queue key clOrdId
  simp only [Ledger.call]
  cases taken : ledger.queue.deleteIfHaveTask key clOrdId with
  | none => exact balanced
  | some both =>
    obtain ⟨task, rest⟩ := both
    rw [taken] at found
    obtain ⟨counted, -⟩ := counted_one_off balanced.counted found.2
    refine ⟨?_, ?_, idle_only_empty rest⟩
    · have moved := List.Perm.append_left (ledger.returned ++ ledger.deleted) (LeavesOnly.perm found.2)
      have all := balanced.conserved.trans moved
      simpa only [List.append_assoc, List.singleton_append] using all
    · simp only
      rw [deleteIfHaveTask_counts taken]
      exact counted

end Calls

/-- Whatever is called, in whatever order, the ledger of a queue balances. -/
theorem calls_balanced (calls : List Call) : Balanced (calls.foldl Ledger.call {}) := by
  suffices later : ∀ ledger, Balanced ledger → Balanced (calls.foldl Ledger.call ledger) by
    refine later {} ⟨.refl _, rfl, fun _ => rfl⟩
  induction calls with
  | nil =>
    intro ledger balanced
    exact balanced
  | cons call calls ih =>
    intro ledger balanced
    rw [List.foldl_cons]
    apply ih
    cases call with
    | add task isMatchOrdered => exact balanced.adds task isMatchOrdered
    | get => exact balanced.gets
    | delete key clOrdId => exact balanced.deletes key clOrdId

end Simutgw.Proofs.TaskConservation
