import Simutgw.Logic.Lines
import Simutgw.Proofs.OrderRepeat

/-! Whether orders keep their order through the validation. Every received order is
numbered and stands in the line of the thread it was given to, first the one in work,
until it is queued for matching or turned away. The threads share nothing that would
keep two of them in step, so the order is kept where conflicting orders share a thread. -/

namespace Simutgw.Proofs.OrderPrecedence
open Logic TaskValidOrder OrderRepeat

/-- The gateway and the lines of its validation threads. -/
structure Watch where
  gateway : Gateway
  lines : Lines OrderMessage := {}

/-- The thread a received order is given to. -/
def placed (setting : Setting) (gateway : Gateway) (order : OrderMessage) : Option Nat :=
  if (GenTaskHelper.genTaskValid setting.hash gateway.validPool order).1 = 0 then
    PriorityThreadPool.fewerTask gateway.validPool 0 4294967295 none
  else none

/-- A thread without work after its step has done with its order, which was queued if
one more is accepted. -/
def Watch.worked (watch : Watch) (after : Gateway) (thread : Nat) : Watch where
  gateway := after
  lines := if (after.working thread).isSome then watch.lines
    else watch.lines.leave thread (watch.gateway.accepted.length < after.accepted.length)

def Watch.moved (setting : Setting) (watch : Watch) (after : Gateway) : Event → Watch
  | .receive order =>
    { gateway := after
      lines := match placed setting watch.gateway order with
        | some thread => watch.lines.arrive thread order
        | none => watch.lines.refuse order }
  | .take thread | .check thread | .valide thread | .record thread | .queue thread => watch.worked after thread
  | .matching _ _ => { watch with gateway := after }

def Watch.step (setting : Setting) (watch : Watch) (event : Event) : Option Watch :=
  (TaskValidOrder.step setting watch.gateway event).map fun after => watch.moved setting after event

/-- What was queued for matching, under the numbers it was received under. -/
def Watch.queued (watch : Watch) : List (Nat × OrderMessage) :=
  List.zipWith (fun one order => (one.1, order)) watch.lines.served watch.gateway.accepted

def Names (cancel order : OrderMessage) : Prop :=
  cancel.msgType = Step.msgTypeOrderCancel ∧ order.msgType = Step.msgTypeNewOrder ∧
    cancel.origClOrdId = order.clOrdId

/-- Orders, not cancels, of one security and side. -/
def SameBook (one two : OrderMessage) : Prop :=
  one.msgType = Step.msgTypeNewOrder ∧ two.msgType = Step.msgTypeNewOrder ∧ one.stockID = two.stockID ∧
    one.side = two.side

/-- The later one must not overtake the earlier. -/
def Conflicts (later earlier : OrderMessage) : Prop := Names later earlier ∨ SameBook later earlier

/-- An order joins the line that still has the earlier ones it must not overtake. -/
def Joins (setting : Setting) (watch : Watch) : Event → Prop
  | .receive order => ∀ thread, placed setting watch.gateway order = some thread →
      ∀ other, ∀ one ∈ watch.lines.line other, Conflicts order one.2 → other = thread
  | _ => True

def Plain (queue : TaskPriorityQueue) : Prop :=
  queue.p4Que = [] ∧ queue.p3UnorderQue = [] ∧ queue.p3OrderQue = [] ∧ queue.p1Que = []

/-- The threads idle with empty queues, and nothing received. -/
structure Opens (watch : Watch) : Prop where
  working : ∀ thread, watch.gateway.working thread = none
  queues : ∀ queue ∈ watch.gateway.validPool, Plain queue ∧ queue.p2Que = []
  accepted : watch.gateway.accepted = []
  lines : watch.lines = {}

/-- What a message keeps from its receipt to the match queue. -/
def tag (order : OrderMessage) : String × String × String × String × String :=
  (order.clOrdId, order.origClOrdId, order.msgType, order.stockID, order.side)

theorem tag_eq_iff {one two : OrderMessage} : tag one = tag two ↔ Named two one := by
  simp only [tag, Prod.mk.injEq]
  exact ⟨fun ⟨id, orig, type, stock, side⟩ => ⟨id, orig, type, stock, side⟩,
    fun ⟨id, orig, type, stock, side⟩ => ⟨id, orig, type, stock, side⟩⟩

/-- The lines are those of the gateway: a thread's work and its queue are its line, and
the served ones are those accepted for matching. -/
structure Tracks (watch : Watch) : Prop where
  idle : ∀ thread, watch.gateway.validPool[thread]? = none →
    watch.gateway.working thread = none ∧ watch.lines.line thread = []
  line : ∀ thread queue, watch.gateway.validPool[thread]? = some queue → Plain queue ∧
    (watch.lines.line thread).map (fun one => tag one.2) =
      (watch.gateway.working thread).toList.map (fun work => tag work.2) ++
        queue.p2Que.map fun task => tag task.order
  accepted : watch.gateway.accepted.map tag = watch.lines.served.map fun one => tag one.2

theorem Opens.tracks {watch : Watch} (opens : Opens watch) : Tracks watch := by
  obtain ⟨working, queues, accepted, lines⟩ := opens
  refine ⟨fun thread _ => ⟨working thread, by rw [lines]⟩, fun thread queue found => ?_, ?_⟩
  · obtain ⟨plain, empty⟩ := queues queue (List.mem_of_getElem? found)
    refine ⟨plain, ?_⟩
    rw [lines, working, empty]
    rfl
  · rw [accepted, lines]
    rfl

section Moves

variable {setting : Setting} {watch : Watch} {after : Gateway} {thread : Nat}

theorem Tracks.goes (tracks : Tracks watch) (pool : after.validPool = watch.gateway.validPool)
    (accepted : after.accepted = watch.gateway.accepted)
    (others : ∀ other, other ≠ thread → after.working other = watch.gateway.working other)
    {stage next : Stage} {order later : OrderMessage} (working : watch.gateway.working thread = some (stage, order))
    (works : after.working thread = some (next, later)) (same : tag later = tag order) :
    Tracks (watch.worked after thread) := by
  have lines : (watch.worked after thread).lines = watch.lines := by simp [Watch.worked, works]
  have pending (other : Nat) : (after.working other).toList.map (fun work => tag work.2) =
      (watch.gateway.working other).toList.map fun work => tag work.2 := by
    by_cases here : other = thread
    · subst here
      rw [works, working]
      simp [same]
    · rw [others other here]
  refine ⟨fun other none => ?_, fun other queue found => ?_, ?_⟩
  · obtain ⟨idle, empty⟩ := tracks.idle other (pool ▸ none)
    rw [lines]
    refine ⟨?_, empty⟩
    have nothing := pending other
    rw [idle] at nothing
    have gone : after.working other = .none := by simpa using nothing
    exact gone
  · obtain ⟨plain, line⟩ := tracks.line other queue (pool ▸ found)
    rw [lines]
    exact ⟨plain, line.trans (by rw [← pending other]; rfl)⟩
  · rw [lines]
    exact (congrArg _ accepted).trans tracks.accepted

theorem Tracks.finishes (tracks : Tracks watch) (pool : after.validPool = watch.gateway.validPool)
    (others : ∀ other, other ≠ thread → after.working other = watch.gateway.working other)
    {stage : Stage} {order : OrderMessage} (working : watch.gateway.working thread = some (stage, order))
    (done : after.working thread = none) {queued : List OrderMessage}
    (accepted : after.accepted = watch.gateway.accepted ++ queued)
    (same : queued = [] ∨ ∃ accepted, queued = [accepted] ∧ tag accepted = tag order) :
    Tracks (watch.worked after thread) := by
  obtain ⟨own, here⟩ : ∃ queue, watch.gateway.validPool[thread]? = some queue := by
    refine Option.ne_none_iff_exists'.mp fun none => ?_
    rw [(tracks.idle thread none).1] at working
    cases working
  obtain ⟨_, line⟩ := tracks.line thread own here
  rw [working] at line
  obtain ⟨front, rest, waiting, first, behind⟩ := List.map_eq_cons_iff.mp line
  have lines (serves : Bool) : (watch.lines.leave thread serves).line = Function.update watch.lines.line thread rest := by
    simp only [Lines.leave, waiting]
  have left : (watch.worked after thread).lines =
      watch.lines.leave thread (watch.gateway.accepted.length < after.accepted.length) := by
    simp [Watch.worked, done]
  refine ⟨fun other none => ?_, fun other queue found => ?_, ?_⟩
  · obtain ⟨idle, empty⟩ := tracks.idle other (pool ▸ none)
    have different : other ≠ thread := by
      rintro rfl
      rw [idle] at working
      cases working
    rw [left, lines, Function.update_of_ne different]
    exact ⟨(others other different).trans idle, empty⟩
  · obtain ⟨plain, line⟩ := tracks.line other queue (pool ▸ found)
    refine ⟨plain, ?_⟩
    rw [left, lines]
    by_cases same : other = thread
    · subst same
      cases here.symm.trans (pool ▸ found)
      have idle : (watch.worked after other).gateway.working other = .none := done
      rw [Function.update_self, idle]
      exact behind
    · rw [Function.update_of_ne same]
      exact line.trans (by rw [← others other same]; rfl)
  · rw [left]
    have before := tracks.accepted
    have now : (watch.worked after thread).gateway.accepted = watch.gateway.accepted ++ queued := accepted
    rw [now, accepted]
    rcases same with rfl | ⟨accepted, rfl, id⟩
    · simpa [Lines.leave, waiting] using before
    · simp [Lines.leave, waiting, before, id, first]

theorem placed_cases (setting : Setting) (gateway : Gateway) (order : OrderMessage) :
    (∃ thread queue more, placed setting gateway order = some thread ∧ gateway.validPool[thread]? = some queue ∧
        (GenTaskHelper.genTaskValid setting.hash gateway.validPool order).2 = gateway.validPool.set thread
          { queue with taskNums := more, p2Que := queue.p2Que ++ [Task.setOrderMsg setting.hash .validOrder order] }) ∨
      placed setting gateway order = none ∧
        (GenTaskHelper.genTaskValid setting.hash gateway.validPool order).2 = gateway.validPool := by
  unfold placed GenTaskHelper.genTaskValid PriorityThreadPool.assignTaskInMini
  cases fewer : PriorityThreadPool.fewerTask gateway.validPool 0 4294967295 none with
  | none => exact .inr ⟨rfl, rfl⟩
  | some thread =>
    cases found : gateway.validPool[thread]? with
    | none =>
      simp only [found]
      exact .inr ⟨rfl, trivial⟩
    | some queue =>
      simp only [found]
      obtain ⟨task, made⟩ : ∃ task, Task.setOrderMsg setting.hash .validOrder order = task := ⟨_, rfl⟩
      have priority : task.priority = .checkOrder := by rw [← made]; rfl
      rw [made]
      unfold TaskPriorityQueue.addTask
      rw [priority]
      by_cases full : TaskPriorityQueue.maxQueueSize ≤ queue.taskNums
      · simp only [if_pos full]
        exact .inr ⟨rfl, trivial⟩
      · simp only [if_neg full]
        exact .inl ⟨thread, queue, _, rfl, found, rfl⟩

theorem Tracks.receives (tracks : Tracks watch) (order : OrderMessage) :
    Tracks (watch.moved setting
      { watch.gateway with validPool := (GenTaskHelper.genTaskValid setting.hash watch.gateway.validPool order).2 }
      (.receive order)) := by
  unfold Watch.moved
  rcases placed_cases setting watch.gateway order with ⟨thread, queue, more, given, found, grown⟩ | ⟨refused, same⟩
  · simp only [given, grown]
    obtain ⟨inside, _⟩ := List.getElem?_eq_some_iff.mp found
    refine ⟨fun other none => ?_, fun other busier found => ?_, tracks.accepted⟩
    · simp only [List.getElem?_eq_none_iff, List.length_set] at none
      obtain ⟨idle, empty⟩ := tracks.idle other (List.getElem?_eq_none none)
      have different : other ≠ thread := by omega
      refine ⟨idle, ?_⟩
      simp only [Lines.arrive, Function.update_of_ne different, empty]
    · by_cases here : other = thread
      · subst here
        obtain ⟨plain, line⟩ := tracks.line other queue (by assumption)
        simp only [List.getElem?_set_self inside, Option.some.injEq] at found
        subst found
        refine ⟨plain, ?_⟩
        simp only [Lines.arrive, Function.update_self, List.map_append, line, List.append_assoc]
        rfl
      · simp only [List.getElem?_set_ne (Ne.symm here)] at found
        obtain ⟨plain, line⟩ := tracks.line other busier found
        refine ⟨plain, ?_⟩
        simp only [Lines.arrive, Function.update_of_ne here]
        exact line
  · simp only [refused, same]
    exact ⟨tracks.idle, tracks.line, tracks.accepted⟩

theorem getTask_plain {queue rest : TaskPriorityQueue} {task : Task} (plain : Plain queue)
    (taken : queue.getTask = some (task, rest)) :
    queue.p2Que = task :: rest.p2Que ∧ Plain rest := by
  obtain ⟨p4, p3Unorder, p3Order, p1⟩ := plain
  unfold TaskPriorityQueue.getTask at taken
  simp only [p4, p3Unorder, p3Order, TaskPriorityQueue.popOrdered, p1] at taken
  cases front : queue.p2Que with
  | nil =>
    rw [front] at taken
    cases taken
  | cons head tail =>
    simp only [front, Option.some.injEq, Prod.mk.injEq] at taken
    obtain ⟨rfl, rfl⟩ := taken
    split
    next => exact ⟨rfl, rfl, rfl, rfl, rfl⟩
    next => exact ⟨rfl, rfl, rfl, rfl, rfl⟩

theorem take_cases {gateway : Gateway} (done : take gateway thread = some after) : ∃ queue task rest,
    gateway.working thread = none ∧ gateway.validPool[thread]? = some queue ∧ queue.getTask = some (task, rest) ∧
      after.validPool = gateway.validPool.set thread rest ∧ after.accepted = gateway.accepted ∧
      (∀ other, other ≠ thread → after.working other = gateway.working other) ∧
      (after.working thread = none ∨ after.working thread = some (.taken, task.order)) := by
  unfold take at done
  split at done
  next queue idle found =>
    split at done
    next task rest taken =>
      refine ⟨queue, task, rest, idle, found, taken, ?_⟩
      split at done
      next =>
        cases done
        exact ⟨rfl, rfl, fun _ different => works_other different, .inr works_self⟩
      next =>
        cases done
        exact ⟨rfl, rfl, fun _ _ => rfl, .inl idle⟩
    next => cases done
  next => cases done

/-- A known market's order is in work then and still the first of its line; another's
has left the line. -/
theorem Tracks.takes (tracks : Tracks watch) (done : take watch.gateway thread = some after) :
    Tracks (watch.worked after thread) := by
  obtain ⟨queue, task, rest, idle, found, taken, pool, accepted, others, works⟩ := take_cases done
  obtain ⟨plain, line⟩ := tracks.line thread queue found
  obtain ⟨front, plain⟩ := getTask_plain plain taken
  rw [idle, front] at line
  obtain ⟨inside, _⟩ := List.getElem?_eq_some_iff.mp found
  have outside {other : Nat} (none : after.validPool[other]? = none) :
      other ≠ thread ∧ watch.gateway.validPool[other]? = .none := by
    rw [pool] at none
    have different : other ≠ thread := by
      rintro rfl
      rw [List.getElem?_set_self inside] at none
      cases none
    exact ⟨different, by rwa [List.getElem?_set_ne different.symm] at none⟩
  have elsewhere {other : Nat} {busier : TaskPriorityQueue} (different : other ≠ thread)
      (there : after.validPool[other]? = some busier) : watch.gateway.validPool[other]? = some busier := by
    rwa [pool, List.getElem?_set_ne different.symm] at there
  rcases works with ends | works
  · obtain ⟨first, behind, waiting, _, follows⟩ := List.map_eq_cons_iff.mp line
    have left : (watch.worked after thread).lines = watch.lines.leave thread false := by
      simp [Watch.worked, ends, accepted]
    have lines : (watch.lines.leave thread false).line = Function.update watch.lines.line thread behind := by
      simp only [Lines.leave, waiting]
    refine ⟨fun other none => ?_, fun other busier there => ?_, ?_⟩
    · obtain ⟨different, none⟩ := outside none
      rw [left, lines, Function.update_of_ne different]
      exact ⟨(others other different).trans (tracks.idle other none).1, (tracks.idle other none).2⟩
    · rw [left, lines]
      by_cases here : other = thread
      · subst here
        have same : rest = busier := by
          simpa [Watch.worked, pool, List.getElem?_set_self inside] using there
        subst same
        have idle : (watch.worked after other).gateway.working other = .none := ends
        rw [Function.update_self, idle]
        exact ⟨plain, follows⟩
      · obtain ⟨plain, line⟩ := tracks.line other busier (elsewhere here there)
        rw [Function.update_of_ne here]
        exact ⟨plain, line.trans (by rw [← others other here]; rfl)⟩
    · rw [left]
      simp only [Lines.leave, waiting]
      exact (congrArg _ accepted).trans tracks.accepted
  · have lines : (watch.worked after thread).lines = watch.lines := by simp [Watch.worked, works]
    refine ⟨fun other none => ?_, fun other busier there => ?_, ?_⟩
    · obtain ⟨different, none⟩ := outside none
      rw [lines]
      exact ⟨(others other different).trans (tracks.idle other none).1, (tracks.idle other none).2⟩
    · rw [lines]
      by_cases here : other = thread
      · subst here
        have same : rest = busier := by
          simpa [Watch.worked, pool, List.getElem?_set_self inside] using there
        subst same
        have takes : (watch.worked after other).gateway.working other = some (.taken, task.order) := works
        rw [takes]
        exact ⟨plain, line⟩
      · obtain ⟨plain, line⟩ := tracks.line other busier (elsewhere here there)
        exact ⟨plain, line.trans (by rw [← others other here]; rfl)⟩
    · rw [lines]
      exact (congrArg _ accepted).trans tracks.accepted

theorem Tracks.checks (tracks : Tracks watch) (done : check watch.gateway thread = some after) :
    Tracks (watch.worked after thread) := by
  unfold check at done
  split at done
  next order working =>
    split at done
    · cases done
      exact tracks.finishes rfl (fun _ different => works_other different) working works_self
        (List.append_nil _).symm (.inl rfl)
    · cases done
      exact tracks.goes rfl rfl (fun _ different => works_other different) working works_self rfl
  next => cases done

theorem Tracks.valides (tracks : Tracks watch) (done : valide setting watch.gateway thread = some after) :
    Tracks (watch.worked after thread) := by
  unfold valide at done
  split at done
  next order working =>
    obtain ⟨valided, validates, rfl⟩ := Option.map_eq_some_iff.mp done
    have same := tag_eq_iff.mpr (valide_named validates)
    by_cases proceeds : valided.proceeds
    · exact tracks.goes rfl rfl (fun _ different => works_other different) working
        (works_self.trans (if_pos proceeds)) same
    · exact tracks.finishes rfl (fun _ different => works_other different) working
        (works_self.trans (if_neg proceeds)) (List.append_nil _).symm (.inl rfl)
  next => cases done

theorem Tracks.records (tracks : Tracks watch) (done : record watch.gateway thread = some after) :
    Tracks (watch.worked after thread) := by
  unfold record at done
  split at done
  next order working =>
    cases done
    exact tracks.goes rfl rfl (fun _ different => works_other different) working works_self rfl
  next => cases done

theorem Tracks.queues (tracks : Tracks watch) (done : queue setting watch.gateway thread = some after) :
    Tracks (watch.worked after thread) := by
  unfold queue at done
  split at done
  next order working =>
    split at done
    · cases done
      exact tracks.finishes rfl (fun _ different => works_other different) working works_self rfl
        (.inr ⟨order, rfl, rfl⟩)
    · cases done
      exact tracks.finishes rfl (fun _ different => works_other different) working works_self
        (List.append_nil _).symm (.inl rfl)
  next => cases done

theorem Tracks.moves (tracks : Tracks watch) {event : Event} (done : step setting watch.gateway event = some after) :
    Tracks (watch.moved setting after event) := by
  cases event with
  | receive order =>
    cases done
    exact tracks.receives order
  | take thread => exact tracks.takes done
  | check thread => exact tracks.checks done
  | valide thread => exact tracks.valides done
  | record thread => exact tracks.records done
  | queue thread => exact tracks.queues done
  | matching matchPool cache =>
    cases done
    exact ⟨tracks.idle, tracks.line, tracks.accepted⟩

end Moves

/-- The lines are the gateway's, and conflicting orders stand in one of them. -/
structure Sound (watch : Watch) : Prop where
  tracks : Tracks watch
  kept : watch.lines.Kept Conflicts

theorem Opens.sound {watch : Watch} (opens : Opens watch) : Sound watch where
  tracks := opens.tracks
  kept := by
    rw [opens.lines]
    exact Lines.kept_empty Conflicts

section Sound

variable {setting : Setting} {watch after : Watch} {event : Event}

theorem kept_worked {gateway : Gateway} (kept : watch.lines.Kept Conflicts) (thread : Nat) :
    (watch.worked gateway thread).lines.Kept Conflicts := by
  unfold Watch.worked
  split
  · exact kept
  · exact kept.leaves thread _

theorem Sound.step (sound : Sound watch) (joins : Joins setting watch event)
    (done : watch.step setting event = some after) : Sound after := by
  obtain ⟨gateway, moves, rfl⟩ := Option.map_eq_some_iff.mp done
  refine ⟨sound.tracks.moves moves, ?_⟩
  cases event with
  | receive order =>
    unfold Watch.moved
    cases given : placed setting watch.gateway order with
    | none =>
      simp only [given]
      exact sound.kept.refuses order
    | some thread =>
      simp only [given]
      exact sound.kept.arrives (joins thread given)
  | take thread | check thread | valide thread | record thread | queue thread => exact kept_worked sound.kept thread
  | matching matchPool cache => exact sound.kept

/-- With one thread every order joins the line of those before it. -/
theorem Tracks.joins (tracks : Tracks watch) (single : watch.gateway.validPool.length = 1) (event : Event) :
    Joins setting watch event := by
  cases event with
  | receive order =>
    intro thread given other one waiting conflict
    have only {thread : Nat} {queue : TaskPriorityQueue} (found : watch.gateway.validPool[thread]? = some queue) :
        thread = 0 := by
      obtain ⟨inside, _⟩ := List.getElem?_eq_some_iff.mp found
      omega
    rcases placed_cases setting watch.gateway order with ⟨thread', queue, _, given', found, _⟩ | ⟨refused, _⟩
    · cases given.symm.trans given'
      cases busy : watch.gateway.validPool[other]? with
      | none =>
        rw [(tracks.idle other busy).2] at waiting
        cases waiting
      | some queue => exact (only busy).trans (only found).symm
    · cases given.symm.trans refused
  | take | check | valide | record | queue | matching => trivial

theorem step_threads {before after : Gateway} (done : TaskValidOrder.step setting before event = some after) :
    after.validPool.length = before.validPool.length := by
  cases event with
  | receive order =>
    cases done
    rcases placed_cases setting before order with ⟨_, _, _, _, _, grown⟩ | ⟨_, same⟩
    · simp only [grown, List.length_set]
    · simp only [same]
  | take thread =>
    obtain ⟨_, _, _, _, _, _, pool, _⟩ := take_cases done
    rw [pool, List.length_set]
  | check thread =>
    simp only [TaskValidOrder.step, check] at done
    split at done
    · split at done <;> cases done <;> rfl
    · cases done
  | valide thread =>
    simp only [TaskValidOrder.step, valide] at done
    split at done
    · obtain ⟨valided, _, rfl⟩ := Option.map_eq_some_iff.mp done
      rfl
    · cases done
  | record thread =>
    simp only [TaskValidOrder.step, record] at done
    split at done
    · cases done
      rfl
    · cases done
  | queue thread =>
    simp only [TaskValidOrder.step, queue] at done
    split at done
    · split at done <;> cases done <;> rfl
    · cases done
  | matching matchPool cache =>
    cases done
    rfl

end Sound

section Queued

variable {watch : Watch} {number : Nat} {order : OrderMessage}

theorem Tracks.accepted_at (tracks : Tracks watch) {place : Nat} {one : Nat × OrderMessage} {accepted : OrderMessage}
    (served : watch.lines.served[place]? = some one) (found : watch.gateway.accepted[place]? = some accepted) :
    Named one.2 accepted := by
  have tags := congrArg (·[place]?) tracks.accepted
  simp only [List.getElem?_map, served, found, Option.map_some, Option.some.injEq] at tags
  exact tag_eq_iff.mp tags

theorem Tracks.queued_served (tracks : Tracks watch) (queued : (number, order) ∈ watch.queued) :
    ∃ received, (number, received) ∈ watch.lines.served ∧ Named received order := by
  obtain ⟨place, found⟩ := List.mem_iff_getElem?.mp queued
  obtain ⟨one, accepted, served, found, same⟩ := List.getElem?_zipWith_eq_some.mp found
  cases same
  exact ⟨one.2, List.mem_of_getElem? served, tracks.accepted_at served found⟩

theorem Tracks.served_queued (tracks : Tracks watch) (served : (number, order) ∈ watch.lines.served) :
    ∃ accepted, (number, accepted) ∈ watch.queued ∧ Named order accepted := by
  obtain ⟨place, found⟩ := List.mem_iff_getElem?.mp served
  have lengths := congrArg List.length tracks.accepted
  simp only [List.length_map] at lengths
  obtain ⟨inside, _⟩ := List.getElem?_eq_some_iff.mp found
  have there := List.getElem?_eq_getElem (lengths ▸ inside : place < watch.gateway.accepted.length)
  exact ⟨_, List.mem_of_getElem? (List.getElem?_zipWith_eq_some.mpr ⟨_, _, found, there, rfl⟩),
    tracks.accepted_at found there⟩

theorem queued_accepted (queued : (number, order) ∈ watch.queued) : order ∈ watch.gateway.accepted := by
  obtain ⟨place, found⟩ := List.mem_iff_getElem?.mp queued
  obtain ⟨one, accepted, _, found, same⟩ := List.getElem?_zipWith_eq_some.mp found
  cases same
  exact List.mem_of_getElem? found

theorem Sound.queued_in_turn (sound : Sound watch) :
    watch.queued.Pairwise fun one two => SameBook one.2 two.2 → one.1 < two.1 := by
  rw [List.pairwise_iff_getElem]
  intro earlier later insideOne insideTwo before same
  have inOrder := List.pairwise_iff_getElem.mp sound.kept.served
  simp only [Watch.queued, List.length_zipWith, Nat.lt_min] at insideOne insideTwo
  simp only [Watch.queued, List.getElem_zipWith] at same ⊢
  have one := sound.tracks.accepted_at (List.getElem?_eq_getElem insideOne.1) (List.getElem?_eq_getElem insideOne.2)
  have two := sound.tracks.accepted_at (List.getElem?_eq_getElem insideTwo.1) (List.getElem?_eq_getElem insideTwo.2)
  obtain ⟨typeOne, typeTwo, stockID, side⟩ := same
  refine inOrder earlier later insideOne.1 insideTwo.1 before (.inr ⟨?_, ?_, ?_, ?_⟩)
  · exact one.msgType.symm.trans typeOne
  · exact two.msgType.symm.trans typeTwo
  · exact one.stockID.symm.trans (stockID.trans two.stockID)
  · exact one.side.symm.trans (side.trans two.side)

/-- What is queued now was received after any cancel that names it and is queued already. -/
theorem Sound.queued_after (sound : Sound watch) {cancel order : OrderMessage} {thread : Nat}
    {front : Nat × OrderMessage} (queued : (number, cancel) ∈ watch.queued) (waiting : front ∈ watch.lines.line thread)
    (same : Named front.2 order) (names : Names cancel order) : number < front.1 := by
  obtain ⟨received, served, keeps⟩ := sound.tracks.queued_served queued
  refine sound.kept.waiting _ served thread front waiting (.inl ?_)
  obtain ⟨cancels, orders, id⟩ := names
  exact ⟨keeps.msgType.symm.trans cancels, same.msgType.symm.trans orders,
    keeps.origClOrdId.symm.trans (id.trans same.clOrdId)⟩

/-- What a cancel that is queued names was turned away or queued before. -/
theorem Sound.named_settled (sound : Sound watch) {cancel : OrderMessage} {named : Nat}
    (queued : (number, cancel) ∈ watch.queued) (arrived : watch.lines.arrivals[named]? = some order)
    (earlier : named < number) (names : Names cancel order) : (named, order) ∈ watch.lines.dropped ∨
      ∃ accepted, (named, accepted) ∈ watch.queued ∧ Named order accepted := by
  obtain ⟨received, served, keeps⟩ := sound.tracks.queued_served queued
  obtain ⟨cancels, orders, id⟩ := names
  rcases sound.kept.inOrder.settled _ served named order arrived earlier
    (.inl ⟨keeps.msgType.symm.trans cancels, orders, keeps.origClOrdId.symm.trans id⟩) with settled | dropped
  · exact .inr (sound.tracks.served_queued settled)
  · exact .inl dropped

theorem step_accepted {setting : Setting} {before after : Gateway} {event : Event}
    (done : TaskValidOrder.step setting before event = some after) (own : ∀ pool cache, event ≠ .matching pool cache) :
    (after.matchPool = before.matchPool ∧ after.accepted = before.accepted) ∨
      ∃ thread order, event = .queue thread ∧ before.working thread = some (.recorded, order) ∧
        after.working thread = none ∧ after.accepted = before.accepted ++ [order] ∧
        GenTaskHelper.assignMatch setting.hash before.matchPool order = (0, after.matchPool) := by
  cases event with
  | receive order =>
    cases done
    exact .inl ⟨rfl, rfl⟩
  | take thread =>
    simp only [TaskValidOrder.step, take] at done
    split at done
    · split at done
      · split at done <;> cases done <;> exact .inl ⟨rfl, rfl⟩
      · cases done
    · cases done
  | check thread =>
    simp only [TaskValidOrder.step, check] at done
    split at done
    · split at done <;> cases done <;> exact .inl ⟨rfl, rfl⟩
    · cases done
  | valide thread =>
    simp only [TaskValidOrder.step, valide] at done
    split at done
    · obtain ⟨valided, _, rfl⟩ := Option.map_eq_some_iff.mp done
      exact .inl ⟨rfl, rfl⟩
    · cases done
  | record thread =>
    simp only [TaskValidOrder.step, record] at done
    split at done
    · cases done
      exact .inl ⟨rfl, rfl⟩
    · cases done
  | queue thread =>
    simp only [TaskValidOrder.step, queue] at done
    split at done
    next order working =>
      split at done
      next pool assigned =>
        cases done
        exact .inr ⟨thread, order, rfl, working, works_self, rfl, assigned⟩
      next =>
        cases done
        exact .inl ⟨rfl, rfl⟩
    next => cases done
  | matching pool cache => exact absurd rfl (own pool cache)

theorem Tracks.queues_front (tracks : Tracks watch) {setting : Setting} {event : Event} {after : Watch}
    (done : watch.step setting event = some after) (own : ∀ pool cache, event ≠ .matching pool cache) :
    (after.gateway.matchPool = watch.gateway.matchPool ∧ after.gateway.accepted = watch.gateway.accepted ∧
        after.queued = watch.queued) ∨
      ∃ thread front order, front ∈ watch.lines.line thread ∧ Named front.2 order ∧
        after.gateway.accepted = watch.gateway.accepted ++ [order] ∧
        after.queued = watch.queued ++ [(front.1, order)] ∧
        GenTaskHelper.assignMatch setting.hash watch.gateway.matchPool order = (0, after.gateway.matchPool) := by
  obtain ⟨gateway, moves, rfl⟩ := Option.map_eq_some_iff.mp done
  rcases step_accepted moves own with ⟨pool, same⟩ | ⟨thread, order, rfl, working, ends, accepted, assigned⟩
  · have unserved (thread : Nat) : (watch.worked gateway thread).lines.served = watch.lines.served := by
      unfold Watch.worked
      rw [same]
      simp only [Nat.lt_irrefl, decide_false, Lines.leave]
      split
      · rfl
      · split <;> rfl
    have served : (watch.moved setting gateway event).lines.served = watch.lines.served := by
      cases event with
      | receive order =>
        unfold Watch.moved
        cases given : placed setting watch.gateway order <;> simp only [given] <;> rfl
      | take thread | check thread | valide thread | record thread | queue thread => exact unserved thread
      | matching matchPool cache => rfl
    have becomes : (watch.moved setting gateway event).gateway = gateway := by cases event <;> rfl
    exact .inl (by simp only [Watch.queued, becomes, served, pool, same, and_self])
  · obtain ⟨own, here⟩ : ∃ queue, watch.gateway.validPool[thread]? = some queue := by
      refine Option.ne_none_iff_exists'.mp fun none => ?_
      rw [(tracks.idle thread none).1] at working
      cases working
    obtain ⟨_, line⟩ := tracks.line thread own here
    rw [working] at line
    obtain ⟨front, rest, waiting, first, _⟩ := List.map_eq_cons_iff.mp line
    have lengths := congrArg List.length tracks.accepted
    simp only [List.length_map] at lengths
    refine .inr ⟨thread, front, order, ?_, tag_eq_iff.mp first.symm, accepted, ?_, assigned⟩
    · rw [waiting]
      exact List.mem_cons_self
    · have served : (watch.worked gateway thread).lines.served = watch.lines.served ++ [front] := by
        simp [Watch.worked, ends, Lines.leave, waiting, accepted]
      show List.zipWith _ (watch.worked gateway thread).lines.served gateway.accepted = _
      rw [served, accepted, List.zipWith_append lengths.symm]
      rfl

end Queued

end Simutgw.Proofs.OrderPrecedence
