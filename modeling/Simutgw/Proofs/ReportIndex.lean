import Simutgw.Logic.Runs
import Simutgw.Proofs.DecimalText
import Simutgw.SzConnection

/-! The indices on a connection of Shenzhen's. A report takes its index before all of
it is checked, so the numbers stay without a gap as long as what takes one is complete. -/

namespace Simutgw.SzGateway
open Logic SofString TgwStringUtil SzReport Proofs.DecimalText

/-- What was sent since the last synchronisation carries its index and the following
ones, and the next to be taken is the first that was not sent. -/
structure Numbered (gateway : SzGateway) : Prop where
  sent : ∀ name n texts, gateway.since name = some (n, texts) →
    n.toNat + texts.length < 2 ^ 64 ∧
      texts = (List.range texts.length).map fun k => some (itostr (UInt64.ofNat (n.toNat + k)))
  next : ∀ name n texts conn, gateway.since name = some (n, texts) → gateway.conns name = some conn →
    conn.reportSyn = true → conn.reportIndex.toNat = n.toNat + texts.length

/-- The fields of the order's own message a report by rule cannot do without. -/
def ruleHeaded (report : SzReport) : Prop :=
  report.order.senderCompID.isEmpty = false ∧ report.order.targetCompID.isEmpty = false ∧
    (report.szfixMsg "BeginString").isSome ∧ (report.szfixMsg "SenderCompID").isSome ∧
    (report.szfixMsg "TargetCompID").isSome

/-- A report that takes no index, or is complete. -/
def Sound (setting : SzSetting) (report : SzReport) : Building → Prop
  | .coded _ => True
  | .type8 order => headed order = true → placed order = true
  | .type9 order => order.securitySeat.isEmpty = false
  | .rule doc => ruleHeaded report → ((report.szfixMsg "ApplID").getD "").isEmpty = false ∧
      ∃ resolved, setting.resolveElement doc report = some resolved ∧
        "TargetCompID" ∉ resolved.map Prod.fst ∧ "ReportIndex" ∉ resolved.map Prod.fst

/-- What a turn must meet: the report in front of the connection's queue is sound, and
the connection's index is not the last word. -/
def TurnMeets (setting : SzSetting) (gateway : SzGateway) (name transId : String) : Prop :=
  ∀ conn report rest, gateway.conns name = some conn → conn.logOn = true → conn.reportSyn = true →
    gateway.queues name = report :: rest →
    Sound setting report (report.building transId) ∧ conn.reportIndex.toNat + 1 < 2 ^ 64

/-- The turns a call takes, each in the state the one before leaves. -/
def TurnsMeet (setting : SzSetting) (gateway : SzGateway) (transIds : String → String) : List String → Prop
  | [] => True
  | name :: names =>
    TurnMeets setting gateway name (transIds name) ∧
      ((turn setting gateway name (transIds name)).1 = none →
        TurnsMeet setting (turn setting gateway name (transIds name)).2 transIds names)

def Meets (setting : SzSetting) (gateway : SzGateway) : SzEvent → Prop
  | .send transIds => TurnsMeet setting gateway transIds gateway.names
  | .logOn _ | .logOut _ | .reportSynchronization _ | .pushBack _ => True

/-- What every event that meets its condition preserves. -/
structure Kept (gateway : SzGateway) : Prop where
  numbered : Numbered gateway
  synced : ∀ name conn, gateway.conns name = some conn → conn.reportSyn = true → (gateway.since name).isSome
  queued : ∀ name, ∀ report ∈ gateway.queues name, report.order.senderCompID = name

/-- What a builder works on is the report's, as far as its sender goes. -/
def Building.sends (building : Building) (sender : String) : Prop :=
  match building with
  | .type8 order => order.senderCompID = sender
  | .type9 order => order.senderCompID = sender
  | .coded _ => True
  | .rule _ => True

theorem procRuled_sends (report : SzReport) {byRule : SzRule → Building}
    (rules : ∀ rule, Building.sends (byRule rule) report.order.senderCompID) (transId : String) :
    Building.sends (procRuled report byRule transId) report.order.senderCompID := by
  unfold procRuled
  split
  next => trivial
  next =>
    split
    next =>
      split
      next => trivial
      next rule _ => exact rules rule
    next => exact rfl

theorem building_sends (report : SzReport) (transId : String) :
    Building.sends (report.building transId) report.order.senderCompID := by
  have byMatch (rule : SzRule) : Building.sends (procMsgType8ReportJsonRule rule) report.order.senderCompID := by
    unfold procMsgType8ReportJsonRule
    split <;> trivial
  have byConfirm (rule : SzRule) : Building.sends (procMsgType8ConfirmJsonRule rule) report.order.senderCompID := by
    unfold procMsgType8ConfirmJsonRule
    split <;> trivial
  unfold building
  split
  next => exact procRuled_sends report byMatch transId
  next => exact procRuled_sends report byMatch transId
  next =>
    unfold procSZCancelOrder
    split
    next => exact rfl
    next => split <;> first | exact rfl | trivial
  next =>
    unfold procSZErrorOrder
    split
    next => exact rfl
    next => split <;> first | exact rfl | trivial
  next => exact procRuled_sends { report with order := StgwFixReport.confirmed report.order } byConfirm transId
  next => trivial
  next => trivial

/-- A message sent on a connection under its next index. -/
structure Numbers (conns : Conns) (name : String) (conn : SzConnection) (sending : Sending) : Prop where
  code : sending.code = 0
  conns : sending.conns = Function.update conns name (some conn.getRptIdex.2)
  target : sending.message "TargetCompID" = some name
  index : sending.message "ReportIndex" = some (itostr conn.reportIndex)

/-- Nothing goes out on a connection, and no index is taken. -/
structure Silent (conns : Conns) (sending : Sending) : Prop where
  conns : sending.conns = conns
  message : sending.code = 0 → sending.message "TargetCompID" = none

theorem takeIndex_of_some {conns : Conns} {name : String} {conn : SzConnection} (found : conns name = some conn) :
    takeIndex conns name = (conn.reportIndex, Function.update conns name (some conn.getRptIdex.2)) := by
  simp [takeIndex, found, SzConnection.getRptIdex]

theorem message_numbers (setting : SzSetting) {conns : Conns} {name : String} {conn : SzConnection}
    (front back : List (String × String)) (found : conns name = some conn)
    (targets : ∃ before after, front = before ++ ("TargetCompID", name) :: after ∧ "TargetCompID" ∉ after.map Prod.fst)
    (target : "TargetCompID" ∉ back.map Prod.fst) (index : "ReportIndex" ∉ back.map Prod.fst) :
    Hash.set (fun _ => none) (front ++ indexFields setting conns name ++ back) "TargetCompID" = some name ∧
      Hash.set (fun _ => none) (front ++ indexFields setting conns name ++ back) "ReportIndex" =
        some (itostr conn.reportIndex) := by
  obtain ⟨before, after, rfl, last⟩ := targets
  have tail : ∃ tail, indexFields setting conns name = ("ReportIndex", itostr conn.reportIndex) :: tail ∧
      "TargetCompID" ∉ tail.map Prod.fst ∧ "ReportIndex" ∉ tail.map Prod.fst := by
    simp only [indexFields, takeIndex_of_some found]
    refine ⟨_, rfl, ?_, ?_⟩
    · split <;> simp
    · split <;> simp
  obtain ⟨tail, fields, noTarget, noIndex⟩ := tail
  rw [fields]
  constructor
  · rw [List.append_assoc, List.append_assoc, List.cons_append]
    apply Hash.set_last
    simp only [List.map_append, List.map_cons, List.mem_append, List.mem_cons, not_or]
    exact ⟨last, ⟨by decide, noTarget⟩, target⟩
  · rw [List.append_assoc, List.cons_append]
    apply Hash.set_last
    simp only [List.map_append, List.mem_append, not_or]
    exact ⟨noIndex, index⟩

theorem header_targets (order : OrderMessage) :
    ∃ before after, header order = before ++ ("TargetCompID", order.senderCompID) :: after ∧
      "TargetCompID" ∉ after.map Prod.fst :=
  ⟨[("BeginString", order.beginString)], [("SenderCompID", order.targetCompID), ("MsgType", order.msgType)], rfl,
    by simp⟩

theorem procMsgType8Report_spec {setting : SzSetting} {conns : Conns} {conn : SzConnection} {order : OrderMessage}
    (found : conns order.senderCompID = some conn) (sound : headed order = true → placed order = true) :
    Numbers conns order.senderCompID conn (procMsgType8Report setting conns order) ∨
      Silent conns (procMsgType8Report setting conns order) := by
  unfold procMsgType8Report
  cases head : headed order with
  | false => exact .inr ⟨rfl, by simp⟩
  | true =>
    have placed := sound head
    simp only [placed, Bool.not_true, Bool.false_eq_true, if_false]
    obtain ⟨target, index⟩ := message_numbers setting (header order)
      [("ApplID", order.applID), ("OwnerType", order.ownerType)] found (header_targets order) (by simp) (by simp)
    exact .inl ⟨rfl, by rw [takeIndex_of_some found], target, index⟩

theorem procMsgType9Report_spec {setting : SzSetting} {conns : Conns} {conn : SzConnection} {order : OrderMessage}
    (found : conns order.senderCompID = some conn) (sound : order.securitySeat.isEmpty = false) :
    Numbers conns order.senderCompID conn (procMsgType9Report setting conns order) := by
  unfold procMsgType9Report
  simp only [sound, Bool.false_eq_true, if_false]
  obtain ⟨target, index⟩ := message_numbers setting (header order)
    [("ApplID", order.applID), ("OwnerType", order.ownerType), ("OrderID", order.orderID)] found (header_targets order)
    (by simp) (by simp)
  exact ⟨rfl, by rw [takeIndex_of_some found], target, index⟩

theorem resolveRule_spec {setting : SzSetting} {conns : Conns} {conn : SzConnection} {report : SzReport} {doc : String}
    (found : conns report.order.senderCompID = some conn) (sound : Sound setting report (.rule doc)) :
    Numbers conns report.order.senderCompID conn (resolveRule setting conns report doc) ∨
      Silent conns (resolveRule setting conns report doc) := by
  unfold resolveRule
  split
  next => exact .inr ⟨rfl, by simp⟩
  next sided =>
    simp only [Bool.or_eq_true, not_or, Bool.not_eq_true] at sided
    split
    next beginString sender target begins sends targets =>
      obtain ⟨applID, resolved, resolves, noTarget, noIndex⟩ :=
        sound ⟨sided.1, sided.2, by simp [begins], by simp [sends], by simp [targets]⟩
      obtain rfl := report.genuine sender sends
      simp only [applID, Bool.false_eq_true, if_false, resolves]
      obtain ⟨goes, index⟩ := message_numbers setting
        [("BeginString", beginString), ("MsgType", "8"), ("TargetCompID", report.order.senderCompID),
          ("SenderCompID", target)]
        ([("ApplID", (report.szfixMsg "ApplID").getD "")] ++ resolved) found
        ⟨[("BeginString", beginString), ("MsgType", "8")], [("SenderCompID", target)], rfl, by simp⟩
        (by simpa using noTarget) (by simpa using noIndex)
      rw [← List.append_assoc] at goes index
      exact .inl ⟨rfl, by rw [takeIndex_of_some found], goes, index⟩
    next => exact .inr ⟨rfl, by simp⟩

/-- A sound report goes out under the next index, or leaves the indices alone. -/
theorem build_spec {setting : SzSetting} {conns : Conns} {name : String} {conn : SzConnection} {report : SzReport}
    {transId : String} (found : conns name = some conn) (queued : report.order.senderCompID = name)
    (sound : Sound setting report (report.building transId)) :
    Numbers conns name conn (build setting conns report (report.building transId)) ∨
      Silent conns (build setting conns report (report.building transId)) := by
  have sends := building_sends report transId
  rw [queued] at sends
  cases building : report.building transId with
  | coded code => exact .inr ⟨rfl, fun _ => rfl⟩
  | type8 order =>
    rw [building] at sends sound
    obtain rfl : order.senderCompID = name := sends
    exact procMsgType8Report_spec found sound
  | type9 order =>
    rw [building] at sends sound
    obtain rfl : order.senderCompID = name := sends
    exact .inl (procMsgType9Report_spec found sound)
  | rule doc =>
    rw [building] at sound
    subst queued
    exact resolveRule_spec found sound

/-- The law only looks at a connection's index while it is synchronised. -/
theorem Kept.conn_changes {gateway : SzGateway} {name : String} {changed : SzConnection} (kept : Kept gateway)
    (same : changed.reportSyn = true → ∃ conn, gateway.conns name = some conn ∧ conn.reportSyn = true ∧
      changed.reportIndex = conn.reportIndex) :
    Kept { gateway with conns := Function.update gateway.conns name (some changed) } := by
  refine ⟨⟨kept.numbered.sent, ?_⟩, ?_, kept.queued⟩
  · intro other n texts held since there syn
    simp only [Function.update_apply] at there
    split at there
    next here =>
      cases there
      rw [here] at since
      obtain ⟨conn, found, synced, index⟩ := same syn
      rw [index]
      exact kept.numbered.next _ _ _ _ since found synced
    next => exact kept.numbered.next _ _ _ _ since there syn
  · intro other held there syn
    simp only [Function.update_apply] at there
    split at there
    next here =>
      cases there
      rw [here]
      obtain ⟨conn, found, synced, -⟩ := same syn
      exact kept.synced _ _ found synced
    next => exact kept.synced _ _ there syn

theorem Kept.pops {gateway : SzGateway} {name : String} {report : SzReport} {rest : List SzReport}
    (kept : Kept gateway) (front : gateway.queues name = report :: rest) :
    Kept { gateway with queues := Function.update gateway.queues name rest } := by
  refine ⟨⟨kept.numbered.sent, kept.numbered.next⟩, kept.synced, ?_⟩
  intro other waiting found
  simp only [Function.update_apply] at found
  split at found
  next here =>
    rw [here]
    exact kept.queued name waiting (by rw [front]; exact List.mem_cons_of_mem _ found)
  next => exact kept.queued other waiting found

/-- A message under the connection's next index continues its numbers. -/
theorem Kept.sends {gateway : SzGateway} {name : String} {conn : SzConnection} {message : FixMessage}
    (kept : Kept gateway) (found : gateway.conns name = some conn) (syn : conn.reportSyn = true)
    (room : conn.reportIndex.toNat + 1 < 2 ^ 64) (target : message "TargetCompID" = some name)
    (index : message "ReportIndex" = some (itostr conn.reportIndex)) :
    Kept (sendMsg { gateway with conns := Function.update gateway.conns name (some conn.getRptIdex.2) } message) := by
  obtain ⟨⟨n, texts⟩, since⟩ := Option.isSome_iff_exists.mp (kept.synced name conn found syn)
  obtain ⟨small, numbers⟩ := kept.numbered.sent name n texts since
  have next := kept.numbered.next name n texts conn since found syn
  have became : sendMsg { gateway with conns := Function.update gateway.conns name (some conn.getRptIdex.2) } message =
      { gateway with
        conns := Function.update gateway.conns name (some conn.getRptIdex.2)
        since := Function.update gateway.since name (some (n, texts ++ [some (itostr conn.reportIndex)])) } := by
    simp only [sendMsg, target, since, index, Option.map_some]
  rw [became]
  refine ⟨⟨?_, ?_⟩, ?_, kept.queued⟩
  · intro other m marks there
    simp only [Function.update_apply] at there
    split at there
    next =>
      cases there
      rw [List.length_append, List.length_singleton]
      refine ⟨by omega, ?_⟩
      rw [List.range_succ, List.map_append, ← numbers, List.map_singleton, ← next, UInt64.ofNat_toNat]
    next => exact kept.numbered.sent other m marks there
  · intro other m marks held there connected synced
    simp only [Function.update_apply] at there connected
    split at there
    next here =>
      rw [if_pos here] at connected
      cases there
      cases connected
      simp only [SzConnection.getRptIdex, List.length_append, List.length_singleton]
      rw [UInt64.toNat_add, UInt64.toNat_one]
      omega
    next here =>
      rw [if_neg here] at connected
      exact kept.numbered.next other m marks held there connected synced
  · intro other held connected synced
    simp only [Function.update_apply] at connected ⊢
    split at connected
    next here => rw [if_pos here]; rfl
    next here =>
      rw [if_neg here]
      exact kept.synced other held connected synced

theorem lookUp_reportSyn (conn : SzConnection) (queued : Nat) : (conn.lookUp queued).reportSyn = conn.reportSyn := by
  simp only [SzConnection.lookUp]
  split
  next => rfl
  next => split <;> rfl

theorem turn_kept {setting : SzSetting} {gateway : SzGateway} {name transId : String} (kept : Kept gateway)
    (meets : TurnMeets setting gateway name transId) : Kept (turn setting gateway name transId).2 := by
  unfold turn
  split
  next => exact kept
  next conn found =>
    split
    next synced =>
      rw [Bool.and_eq_true] at synced
      split
      next => exact kept
      next =>
        split
        next => exact kept
        next report rest front =>
          obtain ⟨sound, room⟩ := meets conn report rest found synced.1 synced.2 front
          have queued := kept.queued name report (by rw [front]; exact List.mem_cons_self)
          have popped := kept.pops front
          cases build_spec found queued sound with
          | inl numbers =>
            simp only [numbers.code, if_true, numbers.conns]
            exact popped.sends found synced.2 room numbers.target numbers.index
          | inr silent =>
            simp only [silent.conns]
            split
            next zero =>
              simp only [sendMsg, silent.message zero]
              exact popped
            next =>
              split
              next => exact popped
              next => exact popped
    next unsynced =>
      split
      next logOn =>
        refine kept.conn_changes ?_
        intro syn
        rw [lookUp_reportSyn] at syn
        exact absurd (by simp [logOn, syn]) unsynced
      next => exact kept

theorem turns_kept {setting : SzSetting} {gateway : SzGateway} {transIds : String → String} {names : List String}
    (kept : Kept gateway) (meets : TurnsMeet setting gateway transIds names) :
    Kept (turns setting gateway transIds names).2 := by
  induction names generalizing gateway with
  | nil => exact kept
  | cons name names ih =>
    obtain ⟨first, rest⟩ := meets
    have after := turn_kept kept first
    rw [turns]
    split
    next code next ended =>
      rw [ended] at after
      exact after
    next next goes =>
      rw [goes] at after rest
      exact ih after (rest rfl)

theorem procLogOn_kept {gateway : SzGateway} (name : String) (kept : Kept gateway) : Kept (gateway.procLogOn name) := by
  have changed : Kept { gateway with
      conns := Function.update gateway.conns name (some ((gateway.conns name).getD {}).logsOn) } := by
    refine kept.conn_changes ?_
    intro syn
    cases found : gateway.conns name with
    | none =>
      rw [found] at syn
      cases syn
    | some conn =>
      rw [found] at syn
      exact ⟨conn, rfl, syn, rfl⟩
  exact ⟨⟨changed.numbered.sent, changed.numbered.next⟩, changed.synced, changed.queued⟩

theorem reportSynchronization_kept {gateway : SzGateway} (message : FixMessage) (kept : Kept gateway) :
    Kept (gateway.reportSynchronization message) := by
  unfold reportSynchronization
  split
  next index target sender _ _ _ =>
    split
    next => exact kept
    next conn found =>
      refine ⟨⟨?_, ?_⟩, ?_, kept.queued⟩
      · intro name n texts since
        simp only [Function.update_apply] at since
        split at since
        next =>
          cases since
          exact ⟨(string2UInt64 index).toNat_lt, rfl⟩
        next => exact kept.numbered.sent name n texts since
      · intro name n texts held since there syn
        simp only [Function.update_apply] at since there
        split at since
        next here =>
          rw [if_pos here] at there
          cases since
          cases there
          rfl
        next here =>
          rw [if_neg here] at there
          exact kept.numbered.next name n texts held since there syn
      · intro name held there syn
        simp only [Function.update_apply] at there ⊢
        split at there
        next here => rw [if_pos here]; rfl
        next here =>
          rw [if_neg here]
          exact kept.synced name held there syn
  next => exact kept

theorem pushBack_kept {gateway : SzGateway} (report : SzReport) (kept : Kept gateway) :
    Kept (gateway.pushBack report) := by
  unfold pushBack
  split
  next => exact kept
  next =>
    refine ⟨⟨kept.numbered.sent, kept.numbered.next⟩, kept.synced, ?_⟩
    intro name waiting found
    simp only [Function.update_apply] at found
    split at found
    next here =>
      rw [here]
      rw [List.mem_append, List.mem_singleton] at found
      cases found with
      | inl before => exact kept.queued _ _ before
      | inr last => rw [last]
    next => exact kept.queued name waiting found

theorem step_kept {setting : SzSetting} {before after : SzGateway} {event : SzEvent} (kept : Kept before)
    (taken : step setting before event = after) (meets : Meets setting before event) : Kept after := by
  subst taken
  cases event with
  | logOn name => exact procLogOn_kept name kept
  | logOut name =>
    simp only [step, procLogOut]
    split
    next => exact kept
    next conn found => exact kept.conn_changes (fun syn => by cases syn)
  | reportSynchronization message => exact reportSynchronization_kept message kept
  | pushBack report => exact pushBack_kept report kept
  | send transIds => exact turns_kept kept meets

/-- In every run whose events meet their conditions, what is sent on a connection since
a synchronisation carries its index and the following ones, and no index is lost. -/
theorem reports_numbered (setting : SzSetting) {events : List SzEvent} {last : SzGateway}
    (run : Run (Steps.guarded (fun before event after => step setting before event = after) (Meets setting)) {}
      events last) : Numbered last := by
  have kept : Kept last := by
    refine run.invariant ?_ ?_
    · intro before event after kept taken
      exact step_kept kept taken.1 taken.2
    · refine ⟨⟨?_, ?_⟩, ?_, ?_⟩
      · intro name n texts since
        cases since
      · intro name n texts conn since
        cases since
      · intro name conn found
        cases found
      · intro name report found
        cases found
  exact kept.numbered

/-- The two models of the execution report agree on which orders get one. -/
theorem procMsgType8Report_built (setting : SzSetting) (conns : Conns) (order : OrderMessage) :
    (procMsgType8Report setting conns order).code = 0 ↔ (StgwFixReport.procMsgType8Report order).fields.isSome := by
  have reasoned : (StgwFixReport.withRejReason order).securitySeat = order.securitySeat ∧
      (StgwFixReport.withRejReason order).accountId = order.accountId ∧
      (StgwFixReport.withRejReason order).marketBranchid = order.marketBranchid := by
    unfold StgwFixReport.withRejReason
    split <;> exact ⟨rfl, rfl, rfl⟩
  have indexed : (procMsgType8Report setting conns order).code = 0 ↔ headed order = true ∧ placed order = true := by
    unfold procMsgType8Report
    cases headed order <;> cases placed order <;> simp
  rw [indexed, StgwFixReport.procMsgType8Report]
  simp only [reasoned, headed, placed]
  split
  next missing =>
    simp only [Bool.or_eq_true] at missing
    rcases missing with ((((empty | empty) | empty) | empty) | empty) | empty
    all_goals simp only [empty, Bool.true_or, Bool.or_true, Bool.not_true, Bool.false_eq_true, false_and, and_false,
      Option.isSome_none]
  next whole =>
    simp only [Bool.or_eq_true, not_or, Bool.not_eq_true] at whole
    obtain ⟨⟨⟨⟨⟨begins, sends⟩, targets⟩, typed⟩, applied⟩, owned⟩ := whole
    simp only [begins, sends, targets, typed, applied, owned, Bool.or_self, Bool.not_false, Bool.false_or, true_and]
    split
    next missing => simp only [missing, Bool.not_true, Bool.false_eq_true, Option.isSome_none]
    next given => simp only [given, Bool.not_false, Option.isSome_some]

/-- A report of the counter U1 on a rejected order, from this seat. -/
def rejectedReport (securitySeat : String) : SzReport where
  order := {
    matchType := .errorMatch
    msgType := Step.msgTypeNewOrder
    tradeMarket := tradeMarketSz
    beginString := "STEP.1.0.0"
    senderCompID := "U1"
    targetCompID := "SZ"
    applID := "010"
    ownerType := "1"
    securitySeat := securitySeat
    accountId := "0100000001"
    marketBranchid := "01" }
  szfixMsg := fun _ => none
  genuine := by simp

def plainSetting : SzSetting where
  ver110 := false
  resolveElement := fun _ _ => none

def syncAtOne : FixMessage := fun name =>
  if name = "ReportIndex" then some (itostr 1)
  else if name = "TargetCompID" then some "SZ"
  else if name = "SenderCompID" then some "U1"
  else none

/-- A log-on, a synchronisation at one, and the sends of these reports. -/
def morning (reports : List SzReport) : List SzEvent :=
  [.logOn "U1", .reportSynchronization syncAtOne] ++ reports.map .pushBack ++
    reports.map fun _ => .send fun _ => ""

/-- A rejected order that came without a seat takes index one and is not sent; the
first report on the connection carries two. -/
theorem seatless_skips :
    ∃ last, Run (fun before event after => step plainSetting before event = after) {}
        (morning [rejectedReport "", rejectedReport "20001"]) last ∧
      last.since "U1" = some (1, [some (itostr 2)]) ∧ ¬ Numbered last := by
  have one : string2UInt64 (itostr 1) = 1 := string2UInt64_itostr (by decide)
  have since : ((morning [rejectedReport "", rejectedReport "20001"]).foldl (step plainSetting) {}).since "U1" =
      some (string2UInt64 (itostr 1), [some (itostr (string2UInt64 (itostr 1) + 1))]) := rfl
  rw [one] at since
  refine ⟨_, Run.of_foldl (step plainSetting) {} _, since, ?_⟩
  intro numbered
  have first := (numbered.sent _ _ _ since).2
  exact absurd first (by decide)

/-- With its seat the same order is reported under index one. -/
theorem reports_numbered_morning :
    ∃ last, Run (Steps.guarded (fun before event after => step plainSetting before event = after)
        (Meets plainSetting)) {} (morning [rejectedReport "20001"]) last ∧
      last.since "U1" = some (1, [some (itostr 1)]) ∧ Numbered last := by
  have one : string2UInt64 (itostr 1) = 1 := string2UInt64_itostr (by decide)
  have since : ((morning [rejectedReport "20001"]).foldl (step plainSetting) {}).since "U1" =
      some (string2UInt64 (itostr 1), [some (itostr (string2UInt64 (itostr 1)))]) := rfl
  rw [one] at since
  have run : Run (Steps.guarded (fun before event after => step plainSetting before event = after)
      (Meets plainSetting)) {} (morning [rejectedReport "20001"])
        ((morning [rejectedReport "20001"]).foldl (step plainSetting) {}) := by
    refine .cons ⟨rfl, trivial⟩ <| .cons ⟨rfl, trivial⟩ <| .cons ⟨rfl, trivial⟩ <|
      .cons ⟨rfl, ?_, fun _ => trivial⟩ <| .nil _
    intro conn report rest found _ _ front
    have index : conn.reportIndex = string2UInt64 (itostr 1) := by
      cases found
      rfl
    have waiting : report = rejectedReport "20001" := by
      cases front
      rfl
    rw [index, one, waiting]
    exact ⟨fun _ => rfl, by decide⟩
  exact ⟨_, run, since, reports_numbered plainSetting run⟩

end Simutgw.SzGateway
