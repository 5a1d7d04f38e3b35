import Simutgw.Logic.Runs
import Simutgw.Proofs.ReportIndex
import Simutgw.Proofs.ReportOutlet

/-! The order in which Shenzhen's connections are served. A call walks the connections by
their names and is over with the first one whose report is built, so a connection waits as
long as any in front of it has a report to send. -/

namespace Simutgw.Proofs.SendPriority
open Logic SzReport SzGateway

/-- Whether a connection is logged on and synchronised, if it exists. -/
def flag (conns : Conns) (name : String) : Option (Bool × Bool) :=
  (conns name).map fun conn => (conn.logOn, conn.reportSyn)

/-- A connection whose turn ends the call: its next report is built, or there is nothing
to build, or it has no name. -/
def Busy (setting : SzSetting) (gateway : SzGateway) (name transId : String) : Prop :=
  flag gateway.conns name = some (true, true) ∧
    (name = "" ∨ ∃ report rest, gateway.queues name = report :: rest ∧
      ((build setting gateway.conns report (report.building transId)).code = 0 ∨
        (build setting gateway.conns report (report.building transId)).code = 1))

/-- A connection's queue after a turn of its own. -/
def served (gateway : SzGateway) (name : String) : List SzReport :=
  if flag gateway.conns name = some (true, true) ∧ name ≠ "" then (gateway.queues name).tail
  else gateway.queues name

section Building

variable {setting : SzSetting} {conns other : Conns} {report : SzReport}

theorem takeIndex_flag (conns : Conns) (name : String) : flag (takeIndex conns name).2 = flag conns := by
  funext other
  unfold takeIndex
  split
  next => rfl
  next conn found =>
    by_cases same : other = name
    · subst same
      simp only [flag, Function.update_self, found]
      rfl
    · simp only [flag, Function.update_of_ne same]

theorem build_flag (building : Building) : flag (build setting conns report building).conns = flag conns := by
  cases building with
  | coded code => rfl
  | type8 order =>
    simp only [build, procMsgType8Report]
    split
    next => rfl
    next =>
      split
      next => exact takeIndex_flag ..
      next => exact takeIndex_flag ..
  | type9 order =>
    simp only [build, procMsgType9Report]
    split
    next => exact takeIndex_flag ..
    next => exact takeIndex_flag ..
  | rule doc =>
    simp only [build, resolveRule]
    split
    next => rfl
    next =>
      split
      next =>
        split
        next => exact takeIndex_flag ..
        next =>
          split
          next => exact takeIndex_flag ..
          next => exact takeIndex_flag ..
      next => rfl

/-- Whether a report can be built does not depend on the indices. -/
theorem build_code (building : Building) :
    (build setting conns report building).code = (build setting other report building).code := by
  cases building with
  | coded code => rfl
  | type8 order =>
    simp only [build, procMsgType8Report]
    cases headed order <;> cases placed order <;> rfl
  | type9 order =>
    simp only [build, procMsgType9Report]
    cases order.securitySeat.isEmpty <;> rfl
  | rule doc =>
    simp only [build, resolveRule]
    repeat' split
    all_goals rfl

end Building

section Turns

variable {setting : SzSetting} {gateway other : SzGateway} {name transId : String}

theorem lookUp_flag (conn : SzConnection) (queued : Nat) :
    (conn.lookUp queued).logOn = conn.logOn ∧ (conn.lookUp queued).reportSyn = conn.reportSyn := by
  unfold SzConnection.lookUp
  simp only
  split
  next => exact ⟨rfl, rfl⟩
  next => split <;> exact ⟨rfl, rfl⟩

theorem sendMsg_conns (gateway : SzGateway) (message : FixMessage) :
    (gateway.sendMsg message).conns = gateway.conns ∧ (gateway.sendMsg message).names = gateway.names := by
  unfold sendMsg
  split <;> exact ⟨rfl, rfl⟩

theorem turn_flag : flag (turn setting gateway name transId).2.conns = flag gateway.conns ∧
    (turn setting gateway name transId).2.names = gateway.names := by
  unfold turn
  split
  next => exact ⟨rfl, rfl⟩
  next conn found =>
    split
    next =>
      split
      next => exact ⟨rfl, rfl⟩
      next =>
        split
        next => exact ⟨rfl, rfl⟩
        next report rest front =>
          simp only
          split
          next =>
            rw [(sendMsg_conns _ _).1, (sendMsg_conns _ _).2]
            exact ⟨build_flag _, rfl⟩
          next => split <;> exact ⟨build_flag _, rfl⟩
    next =>
      split
      next =>
        refine ⟨?_, rfl⟩
        funext other
        by_cases same : other = name
        · subst same
          simp only [flag, Function.update_self, found, Option.map_some, (lookUp_flag _ _).1, (lookUp_flag _ _).2]
        · simp only [flag, Function.update_of_ne same]
      next => exact ⟨rfl, rfl⟩

theorem turn_other {another : String} (differs : another ≠ name) :
    (turn setting gateway name transId).2.queues another = gateway.queues another := by
  cases found : ReportOutlet.popped setting gateway name transId with
  | none => rw [ReportOutlet.turn_idle found]
  | some pair =>
    obtain ⟨rest, -, left⟩ := ReportOutlet.turn_popped found
    rw [left, Function.update_of_ne differs]

theorem turn_own : (turn setting gateway name transId).2.queues name = served gateway name := by
  cases found : ReportOutlet.popped setting gateway name transId with
  | none =>
    rw [ReportOutlet.turn_idle found]
    unfold ReportOutlet.popped at found
    unfold served flag
    cases known : gateway.conns name with
    | none => rfl
    | some conn =>
      cases front : gateway.queues name with
      | nil => split <;> rfl
      | cons report rest =>
        simp only [known, front] at found
        split at found
        next => cases found
        next idle =>
          rw [if_neg]
          rintro ⟨ready, named⟩
          simp only [Option.map_some, Option.some.injEq, Prod.mk.injEq] at ready
          simp [ready.1, ready.2, named] at idle
  | some pair =>
    obtain ⟨rest, front, left⟩ := ReportOutlet.turn_popped found
    unfold ReportOutlet.popped at found
    unfold served flag
    cases known : gateway.conns name with
    | none => simp only [known, reduceCtorEq] at found
    | some conn =>
      simp only [known, front] at found
      split at found
      next ready =>
        simp only [Bool.and_eq_true, Bool.not_eq_true'] at ready
        rw [left, Function.update_self, front, if_pos]
        · rfl
        · simp only [Option.map_some, ready.1.1, ready.1.2, true_and]
          intro empty
          rw [empty] at ready
          simp at ready
      next => cases found

theorem turn_ends : (turn setting gateway name transId).1 = none ↔ ¬ Busy setting gateway name transId := by
  unfold turn Busy flag
  cases known : gateway.conns name with
  | none => simp
  | some conn =>
    simp only [Option.map_some, Option.some.injEq, Prod.mk.injEq]
    split
    next ready =>
      rw [Bool.and_eq_true] at ready
      split
      next empty => simp [ready.1, ready.2, String.isEmpty_iff.mp empty]
      next named =>
        have filled : name ≠ "" := fun empty => named (by rw [empty]; rfl)
        split
        next front => simp [filled, front]
        next report rest front =>
          simp only [ready.1, ready.2, filled, front, true_and, false_or, and_self]
          split
          next zero => simp [zero]
          next other =>
            split
            next one => simp [one]
            next neither => simp [other, neither]
    next unready =>
      have idle : ¬ (conn.logOn = true ∧ conn.reportSyn = true) := by
        rwa [Bool.and_eq_true] at unready
      split
      next => simp only [idle, false_and, not_false_eq_true]
      next => simp only [idle, false_and, not_false_eq_true]

theorem busy_congr (flags : flag gateway.conns name = flag other.conns name)
    (queues : gateway.queues name = other.queues name) :
    Busy setting gateway name transId ↔ Busy setting other name transId := by
  unfold Busy
  rw [flags, queues]
  apply and_congr_right
  intro _
  apply or_congr_right
  apply exists_congr
  intro report
  apply exists_congr
  intro rest
  rw [build_code]

theorem served_congr (flags : flag gateway.conns name = flag other.conns name)
    (queues : gateway.queues name = other.queues name) : served gateway name = served other name := by
  unfold served
  rw [flags, queues]

theorem turns_flag {transIds : String → String} (names : List String) :
    flag (turns setting gateway transIds names).2.conns = flag gateway.conns ∧
      (turns setting gateway transIds names).2.names = gateway.names := by
  induction names generalizing gateway with
  | nil => exact ⟨rfl, rfl⟩
  | cons name names ih =>
    obtain ⟨flags, same⟩ := @turn_flag setting gateway name (transIds name)
    rw [turns]
    split
    next code left ends =>
      rw [ends] at flags same
      exact ⟨flags, same⟩
    next left goes =>
      rw [goes] at flags same
      rw [(@ih left).1, (@ih left).2]
      exact ⟨flags, same⟩

theorem turns_absent {transIds : String → String} {names : List String} (absent : name ∉ names) :
    (turns setting gateway transIds names).2.queues name = gateway.queues name := by
  induction names generalizing gateway with
  | nil => rfl
  | cons head names ih =>
    rw [List.mem_cons, not_or] at absent
    have stays := @turn_other setting gateway head (transIds head) name absent.1
    rw [turns]
    split
    next code left ends =>
      rw [ends] at stays
      exact stays
    next left goes =>
      rw [goes] at stays
      rw [ih absent.2]
      exact stays

/-- The walk over the names in their order: behind a busy connection nothing moves, and
before it every connection has its turn. -/
theorem turns_queues {transIds : String → String} {names : List String} (sorted : names.Pairwise (· < ·)) :
    ((∃ other ∈ names, other < name ∧ Busy setting gateway other (transIds other)) →
        (turns setting gateway transIds names).2.queues name = gateway.queues name) ∧
      ((∀ other ∈ names, other < name → ¬ Busy setting gateway other (transIds other)) → name ∈ names →
        (turns setting gateway transIds names).2.queues name = served gateway name) := by
  induction names generalizing gateway with
  | nil =>
    refine ⟨?_, fun _ member => absurd member List.not_mem_nil⟩
    rintro ⟨other, member, -⟩
    exact absurd member List.not_mem_nil
  | cons head names ih =>
    obtain ⟨front, sorted⟩ := List.pairwise_cons.mp sorted
    have stays := fun another => @turn_other setting gateway head (transIds head) another
    have own := @turn_own setting gateway head (transIds head)
    have flags := (@turn_flag setting gateway head (transIds head)).1
    have ended := @turn_ends setting gateway head (transIds head)
    rw [turns]
    split
    next code left ends =>
      rw [ends] at stays own ended
      have busy : Busy setting gateway head (transIds head) := by
        by_contra idle
        cases ended.mpr idle
      refine ⟨?_, ?_⟩
      · rintro ⟨other, member, before, -⟩
        apply stays name
        rcases List.mem_cons.mp member with rfl | later
        · exact (ne_of_lt before).symm
        · exact (ne_of_lt (lt_trans (front other later) before)).symm
      · intro idle member
        rcases List.mem_cons.mp member with rfl | later
        · exact own
        · exact absurd busy (idle head List.mem_cons_self (front name later))
    next left goes =>
      rw [goes] at stays own ended flags
      have idle : ¬ Busy setting gateway head (transIds head) := ended.mp rfl
      have alike (other : String) (differs : other ≠ head) : Busy setting left other (transIds other) ↔
          Busy setting gateway other (transIds other) := busy_congr (congrFun flags other) (stays other differs)
      refine ⟨?_, ?_⟩
      · rintro ⟨other, member, before, busy⟩
        rcases List.mem_cons.mp member with rfl | later
        · exact absurd busy idle
        · have behind := front other later
          rw [(@ih left sorted).1 ⟨other, later, before, (alike other (ne_of_gt behind)).mpr busy⟩]
          exact stays name (ne_of_gt (lt_trans behind before))
      · intro quiet member
        rcases List.mem_cons.mp member with rfl | later
        · rw [turns_absent fun again => absurd (front name again) (lt_irrefl name)]
          exact own
        · have behind := front name later
          rw [(@ih left sorted).2 ?_ later]
          · exact served_congr (congrFun flags name) (stays name (ne_of_gt behind))
          · intro other inside before busy
            exact quiet other (List.mem_cons_of_mem _ inside) before
              ((alike other (ne_of_gt (front other inside))).mp busy)

end Turns

section Names

/-- The names are in their order, and every connection is among them. -/
structure Ordered (gateway : SzGateway) : Prop where
  sorted : gateway.names.Pairwise (· < ·)
  listed : ∀ name, flag gateway.conns name ≠ none → name ∈ gateway.names

theorem mem_insertName {name other : String} {names : List String} :
    other ∈ insertName name names ↔ other = name ∨ other ∈ names := by
  induction names with
  | nil => simp [insertName]
  | cons head names ih =>
    unfold insertName
    split
    next same =>
      rw [same, List.mem_cons]
      tauto
    next =>
      split
      next => rw [List.mem_cons]
      next =>
        rw [List.mem_cons, List.mem_cons, ih]
        tauto

theorem insertName_sorted {name : String} {names : List String} (sorted : names.Pairwise (· < ·)) :
    (insertName name names).Pairwise (· < ·) := by
  induction names with
  | nil => exact List.pairwise_singleton _ _
  | cons head names ih =>
    obtain ⟨front, rest⟩ := List.pairwise_cons.mp sorted
    unfold insertName
    split
    next => exact sorted
    next differs =>
      split
      next before =>
        refine List.pairwise_cons.mpr ⟨?_, sorted⟩
        intro other member
        rcases List.mem_cons.mp member with rfl | later
        · exact before
        · exact lt_trans before (front other later)
      next behind =>
        refine List.pairwise_cons.mpr ⟨?_, ih rest⟩
        intro other member
        rcases mem_insertName.mp member with rfl | later
        · exact lt_of_le_of_ne (not_lt.mp behind) (Ne.symm differs)
        · exact front other later

theorem Ordered.written {gateway : SzGateway} (ordered : Ordered gateway) {name : String} {conn : SzConnection}
    (found : gateway.conns name = some conn) (changed : SzConnection) :
    Ordered { gateway with conns := Function.update gateway.conns name (some changed) } := by
  refine ⟨ordered.sorted, ?_⟩
  intro other there
  apply ordered.listed
  by_cases same : other = name
  · subst same
    simp [flag, found]
  · simpa only [flag, Function.update_of_ne same] using there

theorem Ordered.step {setting : SzSetting} {before : SzGateway} (ordered : Ordered before) (event : SzEvent) :
    Ordered (before.step setting event) := by
  cases event with
  | logOn name =>
    refine ⟨insertName_sorted ordered.sorted, ?_⟩
    intro other there
    apply mem_insertName.mpr
    by_cases same : other = name
    · exact .inl same
    · refine .inr (ordered.listed other ?_)
      simpa only [SzGateway.step, procLogOn, flag, Function.update_of_ne same] using there
  | logOut name =>
    simp only [SzGateway.step, procLogOut]
    split
    next => exact ordered
    next conn found => exact ordered.written found _
  | reportSynchronization message =>
    simp only [SzGateway.step, reportSynchronization]
    split
    next =>
      split
      next => exact ordered
      next conn found => exact ⟨ordered.sorted, (ordered.written found _).listed⟩
    next => exact ordered
  | pushBack report =>
    simp only [SzGateway.step, SzGateway.pushBack]
    split
    next => exact ordered
    next => exact ⟨ordered.sorted, ordered.listed⟩
  | send transIds =>
    obtain ⟨flags, names⟩ := @turns_flag setting before transIds before.names
    refine ⟨?_, ?_⟩
    · simp only [SzGateway.step, SzGateway.sendSZReport, names]
      exact ordered.sorted
    · simp only [SzGateway.step, SzGateway.sendSZReport, names, flags]
      exact ordered.listed

end Names

/-- The gateway's events as steps. -/
def Moves (setting : SzSetting) : Steps SzGateway SzEvent := fun before event after => before.step setting event = after

theorem ordered_of_run {setting : SzSetting} {events : List SzEvent} {gateway : SzGateway}
    (run : Run (Moves setting) {} events gateway) : Ordered gateway := by
  have initial : Ordered {} := ⟨List.Pairwise.nil, fun _ there => absurd rfl there⟩
  refine run.invariant ?_ initial
  rintro before event after ordered rfl
  exact ordered.step event

theorem sendSZReport_queues {gateway : SzGateway} (ordered : Ordered gateway) (setting : SzSetting)
    (transIds : String → String) (name : String) :
    ((∃ other, other < name ∧ Busy setting gateway other (transIds other)) →
        (gateway.sendSZReport setting transIds).2.queues name = gateway.queues name) ∧
      ((∀ other, other < name → ¬ Busy setting gateway other (transIds other)) →
        (gateway.sendSZReport setting transIds).2.queues name = served gateway name) := by
  obtain ⟨behind, first⟩ := @turns_queues setting gateway name transIds gateway.names ordered.sorted
  refine ⟨?_, ?_⟩
  · rintro ⟨other, before, busy⟩
    have there : flag gateway.conns other ≠ none := by
      rw [busy.1]
      exact Option.some_ne_none _
    exact behind ⟨other, ordered.listed other there, before, busy⟩
  · intro quiet
    by_cases member : name ∈ gateway.names
    · exact first (fun other _ before => quiet other before) member
    · have unknown : flag gateway.conns name = none := by
        by_contra there
        exact member (ordered.listed name there)
      rw [SzGateway.sendSZReport, turns_absent member, served, unknown, if_neg]
      rintro ⟨ready, -⟩
      cases ready

/-- Whatever happened before, a call of the Shenzhen loop moves a connection's queue
exactly if no connection with a smaller name is busy: then the next report is taken off,
if the connection is ready and has one. -/
theorem smallest_first (setting : SzSetting) (events : List SzEvent) (gateway : SzGateway)
    (run : Run (Moves setting) {} events gateway) (transIds : String → String) (name : String) :
    ((∃ other, other < name ∧ Busy setting gateway other (transIds other)) →
        (gateway.sendSZReport setting transIds).2.queues name = gateway.queues name) ∧
      ((∀ other, other < name → ¬ Busy setting gateway other (transIds other)) →
        (gateway.sendSZReport setting transIds).2.queues name = served gateway name) :=
  sendSZReport_queues (ordered_of_run run) setting transIds name

/-- A synchronisation of the counter U2, and its report. -/
def syncSecond : FixMessage := fun name => if name = "SenderCompID" then some "U2" else syncAtOne name

def secondReport : SzReport where
  order := { (rejectedReport "20001").order with senderCompID := "U2" }
  szfixMsg := fun _ => none
  genuine := by simp

/-- Both counters are there, and each has a report. -/
def bothReady : List SzEvent :=
  [.logOn "U1", .logOn "U2", .reportSynchronization syncAtOne, .reportSynchronization syncSecond,
    .pushBack secondReport, .pushBack (rejectedReport "20001")]

def afterBoth : SzGateway := bothReady.foldl (SzGateway.step plainSetting) {}

theorem bothReady_run : Run (Moves plainSetting) {} bothReady afterBoth :=
  Run.of_foldl (SzGateway.step plainSetting) {} _

theorem first_busy : Busy plainSetting afterBoth "U1" "" :=
  ⟨rfl, .inr ⟨rejectedReport "20001", [], rfl, .inl rfl⟩⟩

theorem first_before : "U1" < "U2" := by decide

theorem afterBoth_ordered : Ordered afterBoth := ordered_of_run bothReady_run

theorem none_before_first (other : String) (before : other < "U1") : flag afterBoth.conns other ≠ some (true, true) := by
  intro ready
  have there : flag afterBoth.conns other ≠ none := by
    rw [ready]
    exact Option.some_ne_none _
  have names : afterBoth.names = ["U1", "U2"] := rfl
  have member := afterBoth_ordered.listed other there
  rw [names] at member
  simp only [List.mem_cons, List.not_mem_nil, or_false] at member
  rcases member with rfl | rfl
  · exact lt_irrefl _ before
  · exact lt_asymm before first_before

/-- The second counter's report stays, and the first one's is taken off. -/
theorem smallest_first_both :
    (afterBoth.sendSZReport plainSetting fun _ => "").2.queues "U2" = [secondReport] ∧
      (afterBoth.sendSZReport plainSetting fun _ => "").2.queues "U1" = [] := by
  have second := smallest_first plainSetting bothReady afterBoth bothReady_run (fun _ => "") "U2"
  have first := smallest_first plainSetting bothReady afterBoth bothReady_run (fun _ => "") "U1"
  refine ⟨second.1 ⟨"U1", first_before, first_busy⟩, ?_⟩
  exact first.2 fun other before busy => none_before_first other before busy.1

/-- A connection with a smaller name is busy at every call. -/
def Behind (setting : SzSetting) (name : String) (gateway : SzGateway) : SzEvent → Prop
  | .send transIds => ∃ other, other < name ∧ Busy setting gateway other (transIds other)
  | .logOn _ | .logOut _ | .reportSynchronization _ | .pushBack _ => True

/-- The reports the events queue for a connection. -/
def queuedFor (name : String) : List SzEvent → List SzReport
  | [] => []
  | .pushBack report :: events =>
    if report.order.isSz ∧ ¬ report.order.senderCompID.isEmpty ∧ report.order.senderCompID = name then
      report :: queuedFor name events
    else queuedFor name events
  | _ :: events => queuedFor name events

theorem pushBack_queues (gateway : SzGateway) (report : SzReport) (name : String) :
    (gateway.pushBack report).queues name = gateway.queues name ++ queuedFor name [.pushBack report] := by
  simp only [SzGateway.pushBack, queuedFor]
  cases shenzhen : report.order.isSz with
  | false => simp
  | true =>
    cases empty : report.order.senderCompID.isEmpty with
    | true => simp
    | false =>
      by_cases own : report.order.senderCompID = name
      · simp [own]
      · simp [own, Function.update_of_ne (Ne.symm own)]

theorem pushBack_conns (gateway : SzGateway) (report : SzReport) : (gateway.pushBack report).conns = gateway.conns := by
  unfold SzGateway.pushBack
  split <;> rfl

theorem behind_step {setting : SzSetting} {name : String} {before : SzGateway} (ordered : Ordered before)
    {event : SzEvent} (behind : Behind setting name before event) :
    (before.step setting event).queues name = before.queues name ++ queuedFor name [event] := by
  cases event with
  | logOn other => exact (List.append_nil _).symm
  | logOut other =>
    simp only [SzGateway.step, procLogOut, queuedFor, List.append_nil]
    split <;> rfl
  | reportSynchronization message =>
    simp only [SzGateway.step, reportSynchronization, queuedFor, List.append_nil]
    split
    next => split <;> rfl
    next => rfl
  | pushBack report => exact pushBack_queues before report name
  | send transIds =>
    have nothing : queuedFor name [.send transIds] = [] := rfl
    rw [nothing, List.append_nil]
    exact (sendSZReport_queues ordered setting transIds name).1 behind

theorem queuedFor_cons (name : String) (event : SzEvent) (events : List SzEvent) :
    queuedFor name (event :: events) = queuedFor name [event] ++ queuedFor name events := by
  cases event with
  | pushBack report =>
    simp only [queuedFor]
    split <;> rfl
  | logOn other => rfl
  | logOut other => rfl
  | reportSynchronization message => rfl
  | send transIds => rfl

/-- As long as every call finds a busy connection with a smaller name, none of a
connection's reports is sent: they all stay queued, and what is pushed joins them. -/
theorem starved (setting : SzSetting) (name : String) (events later : List SzEvent) (gateway last : SzGateway)
    (run : Run (Moves setting) {} events gateway)
    (waits : Run ((Moves setting).guarded (Behind setting name)) gateway later last) :
    last.queues name = gateway.queues name ++ queuedFor name later := by
  have ordered := ordered_of_run run
  clear run
  induction waits with
  | nil => exact (List.append_nil _).symm
  | @cons before after last event later taken _ ih =>
    obtain ⟨moved, behind⟩ := taken
    cases moved
    rw [ih (ordered.step event), behind_step ordered behind, queuedFor_cons name event later, List.append_assoc]

section Rounds

variable {setting : SzSetting} {name behind : String} {report waiting : SzReport}

/-- A call, and then a report more for the connection served and for one that waits. -/
def roundOf (report waiting : SzReport) : List SzEvent := [.send fun _ => "", .pushBack report, .pushBack waiting]

/-- The first of the connections has one report, which can be built. -/
structure Fed (setting : SzSetting) (name : String) (report : SzReport) (gateway : SzGateway) : Prop where
  ordered : Ordered gateway
  first : ∀ other, other < name → flag gateway.conns other ≠ some (true, true)
  ready : flag gateway.conns name = some (true, true)
  queue : gateway.queues name = [report]
  builds : (build setting gateway.conns report (report.building "")).code = 0

theorem Fed.busy {gateway : SzGateway} (fed : Fed setting name report gateway) : Busy setting gateway name "" :=
  ⟨fed.ready, .inr ⟨report, [], fed.queue, .inl fed.builds⟩⟩

/-- The report is sent, and the one pushed behind it takes its place. -/
theorem Fed.round {gateway : SzGateway} (fed : Fed setting name report gateway) (named : name ≠ "")
    (own : queuedFor name [.pushBack report] = [report]) (other : queuedFor name [.pushBack waiting] = []) :
    Fed setting name report ((roundOf report waiting).foldl (SzGateway.step setting) gateway) := by
  have calm : ∀ other, other < name → ¬ Busy setting gateway other "" :=
    fun other before busy => fed.first other before busy.1
  have sent : (gateway.sendSZReport setting fun _ => "").2.queues name = [] := by
    rw [(sendSZReport_queues fed.ordered setting (fun _ => "") name).2 calm, served, if_pos ⟨fed.ready, named⟩, fed.queue]
    rfl
  have flags : flag ((roundOf report waiting).foldl (SzGateway.step setting) gateway).conns = flag gateway.conns := by
    show flag (((gateway.sendSZReport setting fun _ => "").2.pushBack report).pushBack waiting).conns = _
    rw [pushBack_conns, pushBack_conns]
    exact (@turns_flag setting gateway (fun _ => "") gateway.names).1
  refine ⟨?_, ?_, ?_, ?_, ?_⟩
  · refine (Run.of_foldl (SzGateway.step setting) gateway (roundOf report waiting)).invariant ?_ fed.ordered
    rintro before event after ordered rfl
    exact ordered.step event
  · rw [flags]
    exact fed.first
  · rw [flags]
    exact fed.ready
  · show (((gateway.sendSZReport setting fun _ => "").2.pushBack report).pushBack waiting).queues name = _
    rw [pushBack_queues, pushBack_queues, sent, own, other]
    rfl
  · rw [build_code]
    exact fed.builds

/-- A connection can be passed by for any number of calls. -/
theorem starves_any_length {gateway : SzGateway} (fed : Fed setting name report gateway) (before : name < behind)
    (named : name ≠ "") (own : queuedFor name [.pushBack report] = [report])
    (other : queuedFor name [.pushBack waiting] = []) (count : Nat) :
    ∃ last, Run ((Moves setting).guarded (Behind setting behind)) gateway
      (List.replicate count (roundOf report waiting)).flatten last := by
  induction count generalizing gateway with
  | zero => exact ⟨gateway, .nil _⟩
  | succ count ih =>
    obtain ⟨last, run⟩ := ih (fed.round named own other)
    exact ⟨last, .cons ⟨rfl, ⟨name, before, fed.busy⟩⟩ (.cons ⟨rfl, trivial⟩ (.cons ⟨rfl, trivial⟩ run))⟩

end Rounds

theorem afterBoth_fed : Fed plainSetting "U1" (rejectedReport "20001") afterBoth :=
  ⟨afterBoth_ordered, none_before_first, rfl, rfl, rfl⟩

/-- Three calls send a report of the first counter each, and the four of the second wait. -/
theorem starved_both : ∃ last, Run ((Moves plainSetting).guarded (Behind plainSetting "U2")) afterBoth
      (List.replicate 3 (roundOf (rejectedReport "20001") secondReport)).flatten last ∧
    last.queues "U2" = List.replicate 4 secondReport := by
  obtain ⟨last, waits⟩ := @starves_any_length plainSetting "U1" "U2" (rejectedReport "20001") secondReport afterBoth
    afterBoth_fed first_before (by decide) rfl rfl 3
  exact ⟨last, waits, starved plainSetting "U2" bothReady _ afterBoth last bothReady_run waits⟩

end Simutgw.Proofs.SendPriority
