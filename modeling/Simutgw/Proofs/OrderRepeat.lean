import Simutgw.Logic.Runs
import Simutgw.Proofs.Preparation
import Simutgw.ValidOrder

/-! The repeat check over all interleavings of the validation threads. The check and
the record of an id are two commands with the validation in between; they keep the
ids apart as long as no check falls between another's check and the queueing of
its order. -/

namespace Simutgw.Proofs.OrderRepeat
open Logic TaskValidOrder OrderRepeatChecker Preparation

/-- The client and the market an order came from. -/
def SameClient (one two : OrderMessage) : Prop :=
  one.sessionId = two.sessionId ∧ one.senderCompID = two.senderCompID ∧ one.tradeMarket = two.tradeMarket

/-- At most one order of an id and a client is accepted, and a repeat has one. -/
structure Law (gateway : Gateway) : Prop where
  once : gateway.accepted.Pairwise fun one two => ¬ (one.clOrdId = two.clOrdId ∧ SameClient one two)
  earned : ∀ order ∈ gateway.repeated, ∃ other ∈ gateway.accepted,
    other.clOrdId = order.clOrdId ∧ SameClient other order

/-- The day's start: nothing recorded, nothing in work. -/
structure Fresh (gateway : Gateway) : Prop where
  orderIds : gateway.orderIds = fun _ => none
  working : ∀ thread, gateway.working thread = none
  accepted : gateway.accepted = []
  repeated : gateway.repeated = []

def Step (setting : Setting) : Steps Gateway Event := fun before event after => step setting before event = some after

/-- The order can be queued: there is a kind of task for it, and room at its worker. -/
def CanQueue (setting : Setting) (gateway : Gateway) (order : OrderMessage) : Prop :=
  ∃ kind queue, GenTaskHelper.genTaskMatch order = some kind ∧
    gateway.matchPool[gateway.matchPool.workerOf (Task.setOrderMsg setting.hash kind order).key]? = some queue ∧
    queue.taskNums < TaskPriorityQueue.maxQueueSize

/-- What keeps the law. A check of an order of the pressure mode, one that falls
between another thread's check of the id and the queueing of its order, and one of
an id another client's order was accepted under break it, and so does an order that
cannot be queued after its id was recorded. -/
def Meets (setting : Setting) (gateway : Gateway) : Event → Prop
  | .check thread => ∀ order, gateway.working thread = some (.taken, order) →
      order.tradePolicy.runMode ≠ .pressureMode ∧
      (∀ other stage work, gateway.working other = some (stage, work) → stage ≠ .taken →
        work.clOrdId ≠ order.clOrdId) ∧
      ∀ other ∈ gateway.accepted, other.clOrdId = order.clOrdId → SameClient other order
  | .queue thread => ∀ order, gateway.working thread = some (.recorded, order) → CanQueue setting gateway order
  | _ => True

/-- The fields of an order no step of its validation writes. -/
structure Named (before after : OrderMessage) : Prop where
  clOrdId : after.clOrdId = before.clOrdId
  origClOrdId : after.origClOrdId = before.origClOrdId
  msgType : after.msgType = before.msgType
  stockID : after.stockID = before.stockID
  side : after.side = before.side

theorem Named.refl (order : OrderMessage) : Named order order := ⟨rfl, rfl, rfl, rfl, rfl⟩

theorem Named.trans {first second third : OrderMessage} (one : Named first second) (two : Named second third) :
    Named first third :=
  ⟨two.clOrdId.trans one.clOrdId, two.origClOrdId.trans one.origClOrdId, two.msgType.trans one.msgType,
    two.stockID.trans one.stockID, two.side.trans one.side⟩

theorem named_kept {before after : OrderMessage} (kept : Kept before after) : Named before after :=
  ⟨kept.clOrdId, kept.origClOrdId, kept.msgType, kept.stockID, kept.side⟩

section Validation

variable {env : PreTrade.Env} {order : OrderMessage} {cache : StockCache} {valided : Valided}

theorem checkOrderTradeType_named (order : OrderMessage) :
    Named order (StockOrderHelper.checkOrderTradeType order).2 := by
  unfold StockOrderHelper.checkOrderTradeType
  repeat' split
  all_goals exact ⟨rfl, rfl, rfl, rfl, rfl⟩

theorem getOrderDelType_named (order : OrderMessage) :
    Named order (AppId010OrderValide.getOrderDelType order).2 := by
  unfold AppId010OrderValide.getOrderDelType
  repeat' split
  all_goals exact ⟨rfl, rfl, rfl, rfl, rfl⟩

theorem basicValidate_named (order : OrderMessage) :
    Named order (AppId010OrderValide.basicValidate order).2 := by
  unfold AppId010OrderValide.basicValidate
  simp only
  repeat' split
  all_goals exact ⟨rfl, rfl, rfl, rfl, rfl⟩

theorem validateOrder_named (order : OrderMessage) : Named order (AppId010OrderValide.validateOrder order).2 := by
  have basic := basicValidate_named order
  unfold AppId010OrderValide.validateOrder
  split
  next checked found =>
    rw [found] at basic
    have typed := checkOrderTradeType_named checked
    split
    · exact basic
    · split
      next typedOrder found =>
        rw [found] at typed
        have declared := getOrderDelType_named typedOrder
        split
        next found =>
          rw [found] at declared
          have named := (basic.trans typed).trans declared
          split <;> exact ⟨named.clOrdId, named.origClOrdId, named.msgType, named.stockID, named.side⟩
        next => exact (basic.trans typed).trans declared
      next => exact basic.trans typed
  next => exact basic

theorem validateEtf_named (order : OrderMessage) : Named order (AppId120OrderValide.validateOrder order).2 := by
  unfold AppId120OrderValide.validateOrder
  simp only
  repeat' split
  all_goals first
    | exact ⟨rfl, rfl, rfl, rfl, rfl⟩
    | exact ⟨(checkOrderTradeType_named _).clOrdId, (checkOrderTradeType_named _).origClOrdId,
        (checkOrderTradeType_named _).msgType, (checkOrderTradeType_named _).stockID,
        (checkOrderTradeType_named _).side⟩

theorem valideWith_named {ruled : Bool} {validate : OrderMessage → Int × OrderMessage}
    {priceCode shareCode : String} (keeps : ∀ order, Named order (validate order).2)
    (done : valideWith env ruled validate priceCode shareCode order cache = some valided) :
    Named order valided.order := by
  have kept := keeps order
  unfold valideWith at done
  split at done
  · cases done
    exact .refl order
  · split at done
    next checked found =>
      rw [found] at kept
      obtain ⟨prepared, prep, rfl⟩ := Option.map_eq_some_iff.mp done
      obtain ⟨_, typed, _⟩ := getTradeType_eq checked
      have same := named_kept (tradePrep_kept prep)
      rw [typed] at same
      have prepares : Named order prepared.order :=
        kept.trans ⟨same.clOrdId, same.origClOrdId, same.msgType, same.stockID, same.side⟩
      split
      · exact prepares.trans ⟨rfl, rfl, rfl, rfl, rfl⟩
      · exact prepares
    next refused found =>
      rw [found] at kept
      cases done
      exact kept

theorem valide_named {conns : String → Option Bool} (done : (if order.isSz then
      SzConnStepOrder.valide env conns order cache else ShConnDbfOrder.valide env order cache) = some valided) :
    Named order valided.order := by
  split at done
  · unfold SzConnStepOrder.valide at done
    split at done
    · cases done
      exact .refl order
    · split at done
      · cases done
        exact ⟨rfl, rfl, rfl, rfl, rfl⟩
      · refine valideWith_named (fun order => ?_) done
        split
        · exact validateOrder_named order
        · exact validateEtf_named order
  · exact valideWith_named validateOrder_named done

end Validation

/-- The thread is past the check of the order. -/
def Past (gateway : Gateway) (thread : Nat) (order : OrderMessage) : Prop :=
  ∃ stage, gateway.working thread = some (stage, order) ∧ stage ≠ .taken

/-- Every recorded id belongs to an accepted order or to one about to be queued,
and the ids of the accepted orders and of the threads past the check are apart. -/
structure Apart (gateway : Gateway) : Prop where
  known : ∀ id, (gateway.orderIds id).isSome → (∃ order ∈ gateway.accepted, order.clOrdId = id) ∨
    ∃ thread order, gateway.working thread = some (.recorded, order) ∧ order.clOrdId = id
  noted : ∀ order ∈ gateway.accepted, (gateway.orderIds order.clOrdId).isSome
  recorded : ∀ thread order, gateway.working thread = some (.recorded, order) →
    (gateway.orderIds order.clOrdId).isSome
  alone : ∀ {one two orderOne orderTwo}, Past gateway one orderOne → Past gateway two orderTwo →
    orderOne.clOrdId = orderTwo.clOrdId → one = two
  ahead : ∀ {thread order}, Past gateway thread order → ∀ other ∈ gateway.accepted, other.clOrdId ≠ order.clOrdId
  once : gateway.accepted.Pairwise fun one two => one.clOrdId ≠ two.clOrdId
  earned : ∀ order ∈ gateway.repeated, ∃ other ∈ gateway.accepted,
    other.clOrdId = order.clOrdId ∧ SameClient other order

theorem Fresh.apart {gateway : Gateway} (fresh : Fresh gateway) : Apart gateway := by
  have idle {thread : Nat} {order : OrderMessage} : ¬ Past gateway thread order := by
    rintro ⟨stage, working, _⟩
    rw [fresh.working] at working
    cases working
  refine ⟨fun id known => ?_, ?_, fun thread order working => ?_, fun past => absurd past idle,
    fun past => absurd past idle, ?_, ?_⟩
  · rw [fresh.orderIds] at known
    cases known
  · rw [fresh.accepted]
    exact fun order member => absurd member List.not_mem_nil
  · rw [fresh.working] at working
    cases working
  · rw [fresh.accepted]
    exact List.Pairwise.nil
  · rw [fresh.repeated]
    exact fun order member => absurd member List.not_mem_nil

theorem Apart.law {gateway : Gateway} (apart : Apart gateway) : Law gateway :=
  ⟨apart.once.imp fun different both => different both.1, apart.earned⟩

section Works

variable {gateway : Gateway} {thread other : Nat} {work : Option (Stage × OrderMessage)} {order : OrderMessage}

theorem works_self : (gateway.works thread work).working thread = work := if_pos rfl

theorem works_other (different : other ≠ thread) :
    (gateway.works thread work).working other = gateway.working other := if_neg different

/-- A thread past the check after one thread's work has changed is that thread, or
was past it before. -/
theorem past_works (past : Past (gateway.works thread work) other order) :
    (other = thread ∧ ∃ stage, work = some (stage, order) ∧ stage ≠ .taken) ∨
      (other ≠ thread ∧ Past gateway other order) := by
  obtain ⟨stage, working, crossed⟩ := past
  by_cases same : other = thread
  · subst same
    rw [works_self] at working
    exact Or.inl ⟨rfl, stage, working, crossed⟩
  · rw [works_other same] at working
    exact Or.inr ⟨same, stage, working, crossed⟩

end Works

section Moves

variable {gateway after : Gateway} {thread : Nat} {order : OrderMessage}

/-- Only the ids, the work and the two lists count. -/
theorem Apart.view (apart : Apart gateway) (orderIds : after.orderIds = gateway.orderIds)
    (working : after.working = gateway.working) (accepted : after.accepted = gateway.accepted)
    (repeated : after.repeated = gateway.repeated) : Apart after := by
  cases gateway
  cases after
  cases orderIds
  cases working
  cases accepted
  cases repeated
  exact ⟨apart.known, apart.noted, apart.recorded, apart.alone, apart.ahead, apart.once, apart.earned⟩

theorem Apart.leaves (apart : Apart gateway) {work : Option (Stage × OrderMessage)}
    (unrecorded : ∀ order, gateway.working thread ≠ some (.recorded, order))
    (taken : ∀ stage order, work = some (stage, order) → stage = .taken) : Apart (gateway.works thread work) := by
  have before {other : Nat} {order : OrderMessage} (past : Past (gateway.works thread work) other order) :
      Past gateway other order := by
    rcases past_works past with ⟨_, stage, same, crossed⟩ | ⟨_, past⟩
    · exact absurd (taken _ _ same) crossed
    · exact past
  refine ⟨fun id known => ?_, apart.noted, fun other order working => ?_,
    fun one two same => apart.alone (before one) (before two) same, fun past => apart.ahead (before past), apart.once,
    apart.earned⟩
  · rcases apart.known id known with accepted | ⟨other, order, working, same⟩
    · exact Or.inl accepted
    · have different : other ≠ thread := fun equal => unrecorded order (by rw [← equal, working])
      exact Or.inr ⟨other, order, by rw [works_other different, working], same⟩
  · by_cases equal : other = thread
    · subst equal
      rw [works_self] at working
      cases taken _ _ working
    · rw [works_other equal] at working
      exact apart.recorded other order working

theorem Apart.checks (apart : Apart gateway) (taken : gateway.working thread = some (.taken, order))
    (unknown : (gateway.orderIds order.clOrdId).isSome = false)
    (nobody : ∀ other stage work, gateway.working other = some (stage, work) → stage ≠ .taken →
      work.clOrdId ≠ order.clOrdId) : Apart (gateway.works thread (some (.checked, order))) := by
  have free (other : OrderMessage) (member : other ∈ gateway.accepted) : other.clOrdId ≠ order.clOrdId := by
    intro same
    have noted := apart.noted other member
    rw [same, unknown] at noted
    cases noted
  have others {other : Nat} {work : OrderMessage} (past : Past gateway other work) : work.clOrdId ≠ order.clOrdId := by
    obtain ⟨stage, working, crossed⟩ := past
    exact nobody other stage work working crossed
  refine ⟨fun id known => ?_, apart.noted, fun other work working => ?_, fun one two same => ?_, fun past => ?_,
    apart.once, apart.earned⟩
  · rcases apart.known id known with accepted | ⟨other, work, working, same⟩
    · exact Or.inl accepted
    · have different : other ≠ thread := by
        rintro rfl
        rw [taken] at working
        cases working
      exact Or.inr ⟨other, work, by rw [works_other different, working], same⟩
  · by_cases equal : other = thread
    · subst equal
      rw [works_self] at working
      cases working
    · rw [works_other equal] at working
      exact apart.recorded other work working
  · rcases past_works one with ⟨rfl, _, work, _⟩ | ⟨_, pastOne⟩ <;>
      rcases past_works two with ⟨rfl, _, workTwo, _⟩ | ⟨_, pastTwo⟩
    · rfl
    · cases work
      exact absurd same.symm (others pastTwo)
    · cases workTwo
      exact absurd same (others pastOne)
    · exact apart.alone pastOne pastTwo same
  · rcases past_works past with ⟨_, _, work, _⟩ | ⟨_, past⟩
    · cases work
      exact free
    · exact apart.ahead past

theorem Apart.goes (apart : Apart gateway) {before next : Stage} {later : OrderMessage}
    (working : gateway.working thread = some (before, order)) (crossed : before ≠ .taken)
    (unrecorded : before ≠ .recorded) (still : next ≠ .recorded) (id : later.clOrdId = order.clOrdId) :
    Apart (gateway.works thread (some (next, later))) := by
  have here : Past gateway thread order := ⟨before, working, crossed⟩
  have moved {other : Nat} {work : OrderMessage} (past : Past (gateway.works thread (some (next, later))) other work) :
      ∃ earlier, Past gateway other earlier ∧ earlier.clOrdId = work.clOrdId := by
    rcases past_works past with ⟨rfl, _, same, _⟩ | ⟨_, past⟩
    · cases same
      exact ⟨order, here, id.symm⟩
    · exact ⟨work, past, rfl⟩
  refine ⟨fun id known => ?_, apart.noted, fun other work recorded => ?_, fun one two same => ?_,
    fun past other member => ?_, apart.once, apart.earned⟩
  · rcases apart.known id known with accepted | ⟨other, work, recorded, same⟩
    · exact Or.inl accepted
    · have different : other ≠ thread := by
        rintro rfl
        rw [working] at recorded
        cases recorded
        exact unrecorded rfl
      exact Or.inr ⟨other, work, by rw [works_other different, recorded], same⟩
  · by_cases equal : other = thread
    · subst equal
      rw [works_self] at recorded
      cases recorded
      exact absurd rfl still
    · rw [works_other equal] at recorded
      exact apart.recorded other work recorded
  · obtain ⟨_, pastOne, idOne⟩ := moved one
    obtain ⟨_, pastTwo, idTwo⟩ := moved two
    exact apart.alone pastOne pastTwo (idOne.trans (same.trans idTwo.symm))
  · obtain ⟨_, earlier, same⟩ := moved past
    rw [← same]
    exact apart.ahead earlier other member

theorem Apart.records (apart : Apart gateway) (working : gateway.working thread = some (.valided, order)) :
    Apart { gateway.works thread (some (.recorded, order)) with
      orderIds := recordOrderInRedis gateway.orderIds order } := by
  have here : Past gateway thread order := ⟨.valided, working, by decide⟩
  have noted (id : String) (known : (gateway.orderIds id).isSome) :
      (recordOrderInRedis gateway.orderIds order id).isSome := by
    unfold recordOrderInRedis
    split
    · rfl
    · exact known
  have before {other : Nat} {work : OrderMessage}
      (past : Past (gateway.works thread (some (.recorded, order))) other work) : Past gateway other work := by
    rcases past_works past with ⟨rfl, _, same, _⟩ | ⟨_, past⟩
    · cases same
      exact here
    · exact past
  refine ⟨fun id known => ?_, fun other member => noted _ (apart.noted other member), fun other work recorded => ?_,
    fun one two same => apart.alone (before one) (before two) same, fun past => apart.ahead (before past), apart.once,
    apart.earned⟩
  · by_cases own : id = order.clOrdId
    · exact Or.inr ⟨thread, order, works_self, own.symm⟩
    · have earlier : (gateway.orderIds id).isSome := by
        simpa only [recordOrderInRedis, if_neg own] using known
      rcases apart.known id earlier with accepted | ⟨other, work, recorded, same⟩
      · exact Or.inl accepted
      · have different : other ≠ thread := by
          rintro rfl
          rw [working] at recorded
          cases recorded
        exact Or.inr ⟨other, work, (works_other different).trans recorded, same⟩
  · have recorded : (gateway.works thread (some (.recorded, order))).working other = some (.recorded, work) := recorded
    by_cases equal : other = thread
    · subst equal
      rw [works_self] at recorded
      cases recorded
      simp [recordOrderInRedis]
    · rw [works_other equal] at recorded
      exact noted _ (apart.recorded other work recorded)

theorem Apart.queues (apart : Apart gateway) (working : gateway.working thread = some (.recorded, order)) :
    Apart { gateway.works thread none with accepted := gateway.accepted ++ [order] } := by
  have here : Past gateway thread order := ⟨.recorded, working, by decide⟩
  have before {other : Nat} {work : OrderMessage} (past : Past (gateway.works thread none) other work) :
      other ≠ thread ∧ Past gateway other work := by
    rcases past_works past with ⟨_, _, same, _⟩ | both
    · cases same
    · exact both
  refine ⟨fun id known => ?_, fun other member => ?_, fun other work recorded => ?_,
    fun one two same => apart.alone (before one).2 (before two).2 same, fun past other member => ?_, ?_,
    fun work member => ?_⟩
  · rcases apart.known id known with ⟨other, member, same⟩ | ⟨other, work, recorded, same⟩
    · exact Or.inl ⟨other, List.mem_append_left _ member, same⟩
    · by_cases equal : other = thread
      · subst equal
        rw [working] at recorded
        cases recorded
        exact Or.inl ⟨order, by simp, same⟩
      · exact Or.inr ⟨other, work, (works_other equal).trans recorded, same⟩
  · rcases List.mem_append.mp member with member | last
    · exact apart.noted other member
    · rw [List.mem_singleton.mp last]
      exact apart.recorded thread order working
  · have recorded : (gateway.works thread none).working other = some (.recorded, work) := recorded
    by_cases equal : other = thread
    · subst equal
      rw [works_self] at recorded
      cases recorded
    · rw [works_other equal] at recorded
      exact apart.recorded other work recorded
  · obtain ⟨different, past⟩ := before past
    rcases List.mem_append.mp member with member | last
    · exact apart.ahead past other member
    · rw [List.mem_singleton.mp last]
      exact fun same => different (apart.alone here past same).symm
  · rw [List.pairwise_append]
    refine ⟨apart.once, List.pairwise_singleton .., fun one member two last => ?_⟩
    rw [List.mem_singleton.mp last]
    exact apart.ahead here one member
  · obtain ⟨other, accepted, same⟩ := apart.earned work member
    exact ⟨other, List.mem_append_left _ accepted, same⟩

end Moves

section Steps

variable {setting : Setting} {before after : Gateway} {thread : Nat}

theorem take_apart (apart : Apart before) (done : take before thread = some after) : Apart after := by
  unfold take at done
  split at done
  next queue idle found =>
    split at done
    next task rest _ =>
      have unrecorded (order : OrderMessage) : before.working thread ≠ some (.recorded, order) := by
        rw [idle]
        intro same
        cases same
      have popped : Apart { before with validPool := before.validPool.set thread rest } :=
        apart.view rfl rfl rfl rfl
      simp only at done
      split at done
      · cases done
        refine popped.leaves unrecorded fun stage order same => ?_
        cases same
        rfl
      · cases done
        exact popped
    next => cases done
  next => cases done

theorem check_apart (apart : Apart before) (meets : Meets setting before (.check thread))
    (done : check before thread = some after) : Apart after := by
  unfold check at done
  split at done
  next order taken =>
    obtain ⟨normal, nobody, own⟩ := meets order taken
    have unrecorded (order : OrderMessage) : before.working thread ≠ some (.recorded, order) := by
      rw [taken]
      intro same
      cases same
    split at done
    next repeats =>
      cases done
      have left : Apart (before.works thread none) := apart.leaves unrecorded fun _ _ none => by cases none
      refine ⟨left.known, left.noted, left.recorded, fun one two same => left.alone one two same,
        fun past => left.ahead past, left.once, fun work member => ?_⟩
      rcases List.mem_append.mp member with member | last
      · exact apart.earned work member
      · rw [List.mem_singleton.mp last]
        rcases apart.known order.clOrdId repeats.2 with ⟨other, accepted, same⟩ | ⟨other, work, recorded, same⟩
        · exact ⟨other, accepted, same, own other accepted same⟩
        · exact absurd same (nobody other .recorded work recorded (by decide))
    next passes =>
      cases done
      refine apart.checks taken ?_ nobody
      rw [← Bool.not_eq_true]
      exact fun known => passes ⟨normal, known⟩
  next => cases done

theorem valide_apart (apart : Apart before) (done : valide setting before thread = some after) : Apart after := by
  unfold valide at done
  split at done
  next order checked =>
    obtain ⟨valided, found, rfl⟩ := Option.map_eq_some_iff.mp done
    have id := (valide_named found).clOrdId
    have unrecorded (order : OrderMessage) : before.working thread ≠ some (.recorded, order) := by
      rw [checked]
      intro same
      cases same
    have moved : Apart (before.works thread (if valided.proceeds then some (.valided, valided.order) else none)) := by
      split
      · exact apart.goes checked (by decide) (by decide) (by decide) id
      · exact apart.leaves unrecorded fun _ _ none => by cases none
    exact moved.view rfl rfl rfl rfl
  next => cases done

theorem record_apart (apart : Apart before) (done : record before thread = some after) : Apart after := by
  unfold record at done
  split at done
  next order valided =>
    cases done
    exact (apart.records valided).view rfl rfl rfl rfl
  next => cases done

theorem addTask_room {queue : TaskPriorityQueue} (task : Task) (isMatchOrdered : Bool)
    (room : queue.taskNums < TaskPriorityQueue.maxQueueSize) : (queue.addTask task isMatchOrdered).1 = 0 := by
  unfold TaskPriorityQueue.addTask
  rw [if_neg (UInt64.not_le.mpr room)]
  cases task.priority <;> cases isMatchOrdered <;> rfl

theorem CanQueue.assigned {gateway : Gateway} {order : OrderMessage} (can : CanQueue setting gateway order) :
    ∃ matchPool, GenTaskHelper.assignMatch setting.hash gateway.matchPool order = (0, matchPool) := by
  obtain ⟨kind, queue, made, worker, room⟩ := can
  have added := addTask_room (Task.setOrderMsg setting.hash kind order)
    (Task.setOrderMsg setting.hash kind order).isMatchOrdered room
  simp only [GenTaskHelper.assignMatch, made, PriorityThreadPool.assignTaskWithKey, worker]
  split
  next queue answer => exact ⟨_, rfl⟩
  next answer => exact (answer _ (Prod.ext added rfl)).elim

theorem queue_apart (apart : Apart before) (meets : Meets setting before (.queue thread))
    (done : queue setting before thread = some after) : Apart after := by
  unfold queue at done
  split at done
  next order recorded =>
    obtain ⟨matchPool, assigned⟩ := (meets order recorded).assigned
    rw [assigned] at done
    cases done
    exact (apart.queues recorded).view rfl rfl rfl rfl
  next => cases done

theorem step_apart {event : Event} (apart : Apart before) (meets : Meets setting before event)
    (done : step setting before event = some after) : Apart after := by
  cases event with
  | receive order =>
    cases done
    exact apart.view rfl rfl rfl rfl
  | take thread => exact take_apart apart done
  | check thread => exact check_apart apart meets done
  | valide thread => exact valide_apart apart done
  | record thread => exact record_apart apart done
  | queue thread => exact queue_apart apart meets done
  | matching matchPool cache =>
    cases done
    exact apart.view rfl rfl rfl rfl

end Steps

/-- In every interleaving whose steps keep the condition, an id of a client is
accepted at most once, and whatever is turned away as a repeat repeats an order of
the same client. -/
theorem ids_accepted_once (setting : Setting) {start gateway : Gateway} {events : List Event} (fresh : Fresh start)
    (run : Run (Steps.guarded (Step setting) (Meets setting)) start events gateway) : Law gateway := by
  have apart : Apart gateway := run.invariant
    (fun _ _ _ apart taken => step_apart apart taken.2 taken.1) fresh.apart
  exact apart.law

/-- A buy of a logged-on connection, matched without a quote. -/
def sampleBuy (sessionId : String) : OrderMessage where
  clOrdId := "7"
  sessionId := sessionId
  senderCompID := "C1"
  tradeMarket := tradeMarketSz
  applID := "010"
  msgType := Step.msgTypeNewOrder
  stockID := "000001"
  side := "1"
  ordType := "2"
  timeInForce := "0"
  maxPriceLevels := "0"
  strOrderqtyOrigin := "100"
  strLeavesQty := "100"
  tradePolicy := { runMode := .miniMode, matchMode := .simulMatchAll }

def sampleSetting : Setting where
  env := {
    db := fun _ _ => none
    quot := fun _ _ => none
    etfs := fun _ => none
    staticQuot := fun _ => none }
  conns := fun _ => some true
  hash := fun _ => 0

def sampleStart : Gateway where
  orderIds := fun _ => none
  validPool := [{}, {}]
  matchPool := [{}]
  working := fun _ => none
  cache := fun _ _ => none
  outMsg := []
  accepted := []
  repeated := []

/-- One thread takes an order through, and turns the same order away afterwards. -/
def sampleEvents : List Event :=
  [.receive (sampleBuy "S1"), .take 0, .check 0, .valide 0, .record 0, .queue 0, .receive (sampleBuy "S1"), .take 0,
    .check 0]

theorem sampleEvents_guarded : ∃ gateway, gateway.repeated = [sampleBuy "S1"] ∧
    Run (Steps.guarded (Step sampleSetting) (Meets sampleSetting)) sampleStart sampleEvents gateway := by
  have alone {gateway : Gateway} {order : OrderMessage}
      (working : ∀ other, other ≠ 0 → gateway.working other = none)
      (first : gateway.working 0 = some (.taken, order)) (mode : order.tradePolicy.runMode ≠ .pressureMode)
      (own : ∀ other ∈ gateway.accepted, SameClient other order) : Meets sampleSetting gateway (.check 0) := by
    intro same taken
    rw [first] at taken
    cases taken
    refine ⟨mode, fun other stage work busy crossed => ?_, fun other member _ => own other member⟩
    by_cases zero : other = 0
    · subst zero
      rw [first] at busy
      cases busy
      exact absurd rfl crossed
    · rw [working other zero] at busy
      cases busy
  refine ⟨_, ?_, .cons ⟨rfl, trivial⟩ <| .cons ⟨rfl, trivial⟩ <| .cons ⟨rfl, ?_⟩ <| .cons ⟨rfl, trivial⟩ <|
    .cons ⟨rfl, trivial⟩ <| .cons ⟨rfl, ?_⟩ <| .cons ⟨rfl, trivial⟩ <| .cons ⟨rfl, trivial⟩ <| .cons ⟨rfl, ?_⟩ (.nil _)⟩
  · rfl
  · exact alone (fun other zero => if_neg zero) rfl (by decide) (fun other member => absurd member List.not_mem_nil)
  · intro order working
    cases working
    exact ⟨.aBStockMatch, {}, rfl, rfl, by decide⟩
  · refine alone (fun other zero => by simp [Gateway.works, zero, sampleStart]) rfl (by decide) (fun other member => ?_)
    rw [List.mem_singleton.mp member]
    exact ⟨rfl, rfl, rfl⟩

theorem sampleEvents_law : ∃ gateway, gateway.repeated = [sampleBuy "S1"] ∧ Law gateway := by
  obtain ⟨gateway, repeated, run⟩ := sampleEvents_guarded
  exact ⟨gateway, repeated, ids_accepted_once sampleSetting ⟨rfl, fun _ => rfl, rfl, rfl⟩ run⟩

/-- Two threads check one id before either records it, and both orders are accepted. -/
theorem repeated_id_accepted_twice :
    ¬ ∀ (setting : Setting) (start gateway : Gateway) (events : List Event), Fresh start →
      Run (Step setting) start events gateway → Law gateway := by
  intro always
  let events : List Event := [.receive (sampleBuy "S1"), .receive (sampleBuy "S1"), .take 0, .take 1, .check 0, .check 1,
    .valide 0, .valide 1, .record 0, .record 1, .queue 0, .queue 1]
  obtain ⟨gateway, done⟩ : ∃ gateway, events.foldlM (step sampleSetting) sampleStart = some gateway := ⟨_, rfl⟩
  have law := always sampleSetting sampleStart gateway events ⟨rfl, fun _ => rfl, rfl, rfl⟩ (Run.of_foldlM done)
  cases done
  have apart := (List.pairwise_cons.mp law.once).1 _ (List.mem_cons_self ..)
  exact apart ⟨rfl, rfl, rfl, rfl⟩

end Simutgw.Proofs.OrderRepeat
