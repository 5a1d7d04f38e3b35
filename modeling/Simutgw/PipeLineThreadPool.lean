import Std.Data.TreeMap.Lemmas
import Simutgw.Logic.Loops

/-! The pool behind the database writer. Each worker has a queue of its own, which keeps
count of the tasks it holds of each id; a new task joins the queue that holds tasks of its
id, and the shortest one where none does. Every queue is behind its own lock, so that the
passes of a call may have anything else between them. -/

namespace Simutgw
open Logic

structure TaskBase (Work : Type*) where
  m_uiTaskId : UInt64
  work : Work
deriving DecidableEq

structure TaskQueue (Work : Type*) where
  m_taskQueue : List (TaskBase Work) := []
  m_mapTaskNumTrack : Std.TreeMap UInt64 Int := {}
  m_uiTaskNums : UInt64 := 0

namespace TaskQueue

variable {Work : Type*}

/-- 2^64 - 1, less ten. -/
def maxQueueSize : UInt64 := 18446744073709551605

/-- What a queue counts for a task it takes in. -/
def counted (queue : TaskQueue Work) (task : TaskBase Work) (num : Int) : TaskQueue Work :=
  { m_taskQueue := queue.m_taskQueue ++ [task]
    m_mapTaskNumTrack := queue.m_mapTaskNumTrack.insert task.m_uiTaskId num
    m_uiTaskNums := queue.m_uiTaskNums + 1 }

/-- The code, the number of tasks there are then, and the queue. -/
def addTask (queue : TaskQueue Work) (task : TaskBase Work) : Int × UInt64 × TaskQueue Work :=
  if maxQueueSize ≤ queue.m_uiTaskNums then (2, queue.m_uiTaskNums, queue)
  else
    let added :=
      match queue.m_mapTaskNumTrack[task.m_uiTaskId]? with
      | some num => queue.counted task (num + 1)
      | none => queue.counted task 1
    (0, added.m_uiTaskNums, added)

/-- The same, where tasks of the id are there already. -/
def addIfHaveTask (queue : TaskQueue Work) (task : TaskBase Work) : Int × UInt64 × TaskQueue Work :=
  if maxQueueSize ≤ queue.m_uiTaskNums then (2, queue.m_uiTaskNums, queue)
  else
    match queue.m_mapTaskNumTrack[task.m_uiTaskId]? with
    | some num =>
      let added := queue.counted task (num + 1)
      (0, added.m_uiTaskNums, added)
    | none => (1, queue.m_uiTaskNums, queue)

/-- A task whose counts are missing is popped, but not handed out. -/
def getTask (queue : TaskQueue Work) : Int × Option (TaskBase Work) × TaskQueue Work :=
  match queue.m_taskQueue with
  | [] => (1, none, queue)
  | task :: rest =>
    let popped := { queue with m_taskQueue := rest }
    if popped.m_mapTaskNumTrack.isEmpty ∨ popped.m_uiTaskNums = 0 then (1, some task, popped)
    else
      let track :=
        match popped.m_mapTaskNumTrack[task.m_uiTaskId]? with
        | some num =>
          if num - 1 = 0 then popped.m_mapTaskNumTrack.erase task.m_uiTaskId
          else popped.m_mapTaskNumTrack.insert task.m_uiTaskId (num - 1)
        | none => popped.m_mapTaskNumTrack
      (0, some task, { popped with m_mapTaskNumTrack := track, m_uiTaskNums := popped.m_uiTaskNums - 1 })

end TaskQueue

namespace PipeLineThreadPool

variable {Work : Type*}

/-- How far a call has asked the threads, and the shortest queue it has found. -/
structure Scan where
  i : Nat := 0
  itFewerTask : Option Nat := none
  uiFewerTaskNum : UInt64 := 0
deriving DecidableEq

/-- A full queue counts as the shortest one only where it is asked first. -/
def Scan.next (scan : Scan) (iRes : Int) (uiTaskNum : UInt64) : Scan :=
  if scan.i = 0 ∨ (iRes = 1 ∧ uiTaskNum < scan.uiFewerTaskNum) then ⟨scan.i + 1, some scan.i, uiTaskNum⟩
  else { scan with i := scan.i + 1 }

/-- One pass of a call, with the locks it takes: a thread is asked, or the task is added
to the queue found. -/
def assignTask (task : TaskBase Work) : Loop (List (TaskQueue Work) × Scan) (Int × List (TaskQueue Work))
  | (hdThreads, scan) =>
    match hdThreads[scan.i]? with
    | some queue =>
      let (iRes, uiTaskNum, added) := queue.addIfHaveTask task
      if iRes = 0 then .leave (0, hdThreads.set scan.i added)
      else if iRes = 2 ∨ iRes = 1 then .again (hdThreads, scan.next iRes uiTaskNum)
      else .leave (-1, hdThreads)
    | none =>
      match scan.itFewerTask with
      -- A pool without threads has no queue to point to.
      | none => .undefined
      | some it =>
        match hdThreads[it]? with
        | none => .undefined
        | some queue =>
          let (iRes, _, added) := queue.addTask task
          .leave (if iRes = 0 then 0 else -1, hdThreads.set it added)

/-- The threads of a pool that has just been made. -/
def initPool (uiNum : Nat) : List (TaskQueue Work) := List.replicate uiNum {}

end PipeLineThreadPool

namespace AsyncDbWriter

/-- The pool has one thread. -/
def pipelinePool {Work : Type*} : List (TaskQueue Work) := PipeLineThreadPool.initPool 1

end AsyncDbWriter
end Simutgw
