import Simutgw.TaskPriorityBase

/-! A worker's queue: five containers by priority, with the ordered tasks kept by
key in price and time order, and the pool that hands tasks to the workers. -/

namespace Simutgw

structure TaskPriorityQueue where
  taskNums : UInt64 := 0
  p1Que : List Task := []
  p2Que : List Task := []
  p3OrderQue : List (Int × List Task) := []
  p3UnorderQue : List Task := []
  p4Que : List Task := []
  deriving DecidableEq, Repr

namespace TaskPriorityQueue

/-- 2^64 - 1, less ten. -/
def maxQueueSize : UInt64 := 18446744073709551605

/-- The halving search, which ends on the last position it looked at. -/
def binaryMid (passes : Task → Bool) (container : List Task) : Nat → Int → Int → Int → Nat
  | 0, _, _, mid => mid.toNat
  | fuel + 1, low, high, mid =>
    if low ≤ high then
      let mid := (low + high) / 2
      match container[mid.toNat]? with
      | none => mid.toNat
      | some task =>
        if passes task then binaryMid passes container fuel (mid + 1) high mid
        else binaryMid passes container fuel low (mid - 1) mid
    else mid.toNat

/-- The walk from the position found: past the same price's earlier times, and to
the right side of another price. -/
def placeFrom (ascending : Bool) (task : Task) : List Task → List Task
  | [] => [task]
  | other :: rest =>
    if task.price = other.price then
      if task.orderTime ≤ other.orderTime then task :: other :: rest
      else other :: placeFrom ascending task rest
    else if other.price < task.price then
      if ascending then other :: task :: rest else task :: other :: rest
    else if ascending then task :: other :: rest
    else other :: task :: rest

/-- The body of the two insertions. -/
def dequePriceTimeBinaryInsert (ascending : Bool) (container : List Task) (task : Task) : List Task :=
  let passes (other : Task) : Bool :=
    if ascending then other.price ≤ task.price else task.price ≤ other.price
  let mid := binaryMid passes container (container.length + 1) 0 (container.length - 1) 0
  container.take mid ++ placeFrom ascending task (container.drop mid)

def dequePriceTimeBinaryInsertInc := dequePriceTimeBinaryInsert true
def dequePriceTimeBinaryInsertDesc := dequePriceTimeBinaryInsert false

/-- Sells go up in price, everything else goes down. -/
def dequeInsert (container : List Task) (task : Task) : List Task :=
  if task.side = Step.sideSellS ∨ task.side = Step.sideSell2 then dequePriceTimeBinaryInsertInc container task
  else dequePriceTimeBinaryInsertDesc container task

/-- The map of ordered containers, kept by key as the source's map is. -/
def insertOrdered (task : Task) : List (Int × List Task) → List (Int × List Task)
  | [] => [(task.key, [task])]
  | (key, container) :: rest =>
    if task.key = key then (key, dequeInsert container task) :: rest
    else if task.key < key then (task.key, [task]) :: (key, container) :: rest
    else (key, container) :: insertOrdered task rest

/-- Zero when the task is in, two when the queue is full. -/
def addTask (queue : TaskPriorityQueue) (task : Task) (isMatchOrdered : Bool) : Int × TaskPriorityQueue :=
  if maxQueueSize ≤ queue.taskNums then (2, queue)
  else
    let queue := { queue with taskNums := queue.taskNums + 1 }
    match task.priority with
    | .standbyOrder =>
      if isMatchOrdered then (0, { queue with p3OrderQue := insertOrdered task queue.p3OrderQue })
      else (0, { queue with p1Que := queue.p1Que ++ [task] })
    | .checkOrder => (0, { queue with p2Que := queue.p2Que ++ [task] })
    | .matchOrder =>
      if isMatchOrdered then (0, { queue with p3OrderQue := insertOrdered task queue.p3OrderQue })
      else (0, { queue with p3UnorderQue := queue.p3UnorderQue ++ [task] })
    | .cancelOrder => (0, { queue with p4Que := queue.p4Que ++ [task] })

/-- The front of the first ordered container that has one. -/
def popOrdered : List (Int × List Task) → Option (Task × List (Int × List Task))
  | [] => none
  | (key, []) :: rest => (popOrdered rest).map fun (task, rest) => (task, (key, []) :: rest)
  | (key, task :: container) :: rest => some (task, (key, container) :: rest)

/-- The next task by priority. No key is ever marked as hanging. -/
def getTask (queue : TaskPriorityQueue) : Option (Task × TaskPriorityQueue) :=
  let taken (queue : TaskPriorityQueue) :=
    if queue.taskNums = 0 then queue else { queue with taskNums := queue.taskNums - 1 }
  match queue.p4Que with
  | task :: rest => some (task, taken { queue with p4Que := rest })
  | [] =>
    match queue.p3UnorderQue with
    | task :: rest => some (task, taken { queue with p3UnorderQue := rest })
    | [] =>
      match popOrdered queue.p3OrderQue with
      | some (task, rest) => some (task, taken { queue with p3OrderQue := rest })
      | none =>
        match queue.p2Que with
        | task :: rest => some (task, taken { queue with p2Que := rest })
        | [] =>
          match queue.p1Que with
          | task :: rest => some (task, taken { queue with p1Que := rest })
          | [] => none

/-- The first task of a container under an id, taken out of it. -/
def deleteOrderByClordId (clOrdId : String) : List Task → Option (Task × List Task)
  | [] => none
  | task :: rest =>
    if task.clOrdId = clOrdId then some (task, rest)
    else (deleteOrderByClordId clOrdId rest).map fun (found, rest) => (found, task :: rest)

/-- The same within the container of one key. -/
def deleteOrdered (key : Int) (clOrdId : String) : List (Int × List Task) → Option (Task × List (Int × List Task))
  | [] => none
  | (other, container) :: rest =>
    if other = key then
      (deleteOrderByClordId clOrdId container).map fun (found, container) => (found, (other, container) :: rest)
    else (deleteOrdered key clOrdId rest).map fun (found, rest) => (found, (other, container) :: rest)

/-- What a cancel takes out of the queue; `none` is the source's 1, and the queue
is as it was. -/
def deleteIfHaveTask (queue : TaskPriorityQueue) (key : Int) (clOrdId : String) : Option (Task × TaskPriorityQueue) :=
  let taken (queue : TaskPriorityQueue) := { queue with taskNums := queue.taskNums - 1 }
  match deleteOrdered key clOrdId queue.p3OrderQue with
  | some (task, rest) => some (task, taken { queue with p3OrderQue := rest })
  | none =>
    match deleteOrderByClordId clOrdId queue.p3UnorderQue with
    | some (task, rest) => some (task, taken { queue with p3UnorderQue := rest })
    | none =>
      match deleteOrderByClordId clOrdId queue.p2Que with
      | some (task, rest) => some (task, taken { queue with p2Que := rest })
      | none =>
        match deleteOrderByClordId clOrdId queue.p1Que with
        | some (task, rest) => some (task, taken { queue with p1Que := rest })
        | none => none

end TaskPriorityQueue

/-- The workers' queues. -/
abbrev PriorityThreadPool := List TaskPriorityQueue

namespace PriorityThreadPool

/-- The worker a key is sent to: the key, as an unsigned word, by the number of workers. -/
def workerOf (pool : PriorityThreadPool) (key : Int) : Nat := (key % 2 ^ 32).toNat % pool.length

/-- Zero when the worker took the task. -/
def assignTaskWithKey (pool : PriorityThreadPool) (task : Task) : Int × PriorityThreadPool :=
  match pool[workerOf pool task.key]? with
  | none => (-1, pool)
  | some queue =>
    match queue.addTask task task.isMatchOrdered with
    | (0, queue) => (0, pool.set (workerOf pool task.key) queue)
    | _ => (-1, pool)

/-- The first worker with the fewest tasks, among those with fewer than the bound. -/
def fewerTask : List TaskPriorityQueue → Nat → UInt64 → Option Nat → Option Nat
  | [], _, _, best => best
  | queue :: rest, index, fewest, best =>
    if queue.taskNums = 0 then some index
    else if queue.taskNums < fewest then fewerTask rest (index + 1) queue.taskNums (some index)
    else fewerTask rest (index + 1) fewest best

/-- Where every worker has a full unsigned int of tasks the source follows no
iterator; nothing is assigned. -/
def assignTaskInMini (pool : PriorityThreadPool) (task : Task) : Int × PriorityThreadPool :=
  match fewerTask pool 0 4294967295 none with
  | none => (-1, pool)
  | some worker =>
    match pool[worker]? with
    | none => (-1, pool)
    | some queue =>
      match queue.addTask task task.isMatchOrdered with
      | (0, queue) => (0, pool.set worker queue)
      | _ => (-1, pool)

end PriorityThreadPool
end Simutgw
