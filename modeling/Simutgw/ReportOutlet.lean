import Mathlib.Data.List.Sort
import Mathlib.Data.String.Basic
import Simutgw.SzConnection

/-! The outgoing buffer and the two loops that empty it. Shenzhen's takes one report
from each connection's queue at a time and sends it; Shanghai's pops up to twenty
thousand reports, builds the inserts of each, and then executes them connection by
connection. The reports are kept beside what becomes of them. -/

namespace Simutgw
open Logic

/-- A rule of a customer of Shanghai's, as its two documents turn out. -/
structure ShRule where
  docRuleConfirm : Option String
  docRuleMatch : Option (List (Option String))

structure ShReport where
  order : OrderMessage
  ptrRuleSh : Option ShRule := none

/-- An insert into one of the two tables, from the order or from a rule. -/
inductive ShSql where
  | ordwth2 (fields : ReportFields)
  | cjbh (fields : ReportFields)
  | byRule (doc : String)
  deriving DecidableEq

/-- The sessions there are, and whether a rule's document can be resolved for a report. -/
structure ShSetting where
  sessions : String → Bool
  resolveRule : String → ShReport → Bool

/-- A builder's code, and the statements it has pushed by then. -/
abbrev ShBuilding := Int × List ShSql

namespace ReportMsgSh

def pushed (insert : ReportFields → ShSql) (built : Built) : ShBuilding :=
  match built.fields with
  | none => (-1, [])
  | some fields => (0, [insert fields])

/-- The rows of the rule's list, up to the first that cannot be resolved. -/
def fixToSHReportJsonRule (setting : ShSetting) (report : ShReport) : List (Option String) → ShBuilding
  | [] => (0, [])
  | none :: _ => (-1, [])
  | some doc :: docs =>
    if setting.resolveRule doc report then
      let (code, rows) := fixToSHReportJsonRule setting report docs
      (code, .byRule doc :: rows)
    else (-1, [])

def fixToSHConfirmJsonRule (setting : ShSetting) (report : ShReport) : Option String → ShBuilding
  | none => (-1, [])
  | some doc => if setting.resolveRule doc report then (0, [.byRule doc]) else (-1, [])

/-- The trades of an order with a rule come from the rule. -/
def singleReport (setting : ShSetting) (report : ShReport) (cjbh : String) : ShBuilding :=
  if report.order.isSz then (0, [])
  else if report.order.isSh then
    if report.order.tradePolicy.ruleId ≠ 0 then
      match report.ptrRuleSh with
      | none => (-1, [])
      | some rule =>
        match rule.docRuleMatch with
        | none => (-1, [])
        | some docs => fixToSHReportJsonRule setting report docs
    else pushed .cjbh (procSingleReport setting.sessions report.order cjbh)
  else (-1, [])

def confirmOrder (setting : ShSetting) (report : ShReport) : ShBuilding :=
  if report.order.isSz then (-1, [])
  else if report.order.isSh then
    if report.order.tradePolicy.ruleId ≠ 0 then
      match report.ptrRuleSh with
      | none => (-1, [])
      | some rule => fixToSHConfirmJsonRule setting report rule.docRuleConfirm
    else pushed .ordwth2 (procSHConfirmOrder setting.sessions report.order)
  else (-1, [])

/-- The builder of a popped report, by its match type. Those of cancels and refusals
always report success. -/
def building (setting : ShSetting) (report : ShReport) (cjbh : String) : ShBuilding :=
  match report.order.matchType with
  | .matchAll | .matchPart => singleReport setting report cjbh
  | .cancelMatch => (0, (pushed .ordwth2 (procSHCancelOrder setting.sessions report.order)).2)
  | .errorMatch => (0, (pushed .ordwth2 (procSHErrorOrder setting.sessions report.order)).2)
  | .notMatch => confirmOrder setting report
  | .outOfRange | .stopTrans => (-1, [])

end ReportMsgSh

/-- One report's part of a connection's statements, and whether it is all of them. -/
structure Group where
  report : ShReport
  whole : Bool
  sqls : List ShSql

/-- `mapUpdate`: the connections with statements in the order of their names, and
the statements of each, by report. -/
structure MapUpdate where
  names : List String := []
  groups : String → List Group := fun _ => []

def MapUpdate.insert (update : MapUpdate) (group : Group) : MapUpdate :=
  let name := group.report.order.sessionId
  { names := if name ∈ update.names then update.names else update.names.orderedInsert (· ≤ ·) name
    groups := Function.update update.groups name (update.groups name ++ [group]) }

/-- What the databases answer in one sending: whether a connection can be made, the
result of each statement in its place, and of the commit. -/
structure ShAnswers where
  connects : String → Bool
  execs : String → Nat → Bool
  commits : String → Bool

/-- The gateway's queues, Shanghai's queue, and what the Shanghai loop holds of its
present pass; and for the record what was pushed for each counterparty and what has
reached it. -/
structure ReportOutlet where
  gateway : SzGateway := {}
  shBuffer : List ShReport := []
  rounds : Nat := 0
  mapUpdate : MapUpdate := {}
  szPushed : String → List SzReport := fun _ => []
  szSent : String → List SzReport := fun _ => []
  shPushed : String → List ShReport := fun _ => []
  shSent : String → List ShReport := fun _ => []

namespace ReportOutlet

/-- A report that cannot be queued is not in the buffer; the call's code says so. -/
def pushBackSz (outlet : ReportOutlet) (report : SzReport) : ReportOutlet :=
  { outlet with
    gateway := outlet.gateway.pushBack report
    szPushed :=
      if ! report.order.isSz || report.order.senderCompID.isEmpty then outlet.szPushed
      else Function.update outlet.szPushed report.order.senderCompID
        (outlet.szPushed report.order.senderCompID ++ [report]) }

def pushBackSh (outlet : ReportOutlet) (report : ShReport) : ReportOutlet :=
  if report.order.isSh then
    { outlet with
      shBuffer := outlet.shBuffer ++ [report]
      shPushed := Function.update outlet.shPushed report.order.sessionId
        (outlet.shPushed report.order.sessionId ++ [report]) }
  else outlet

/-- The report a connection's turn pops, and its message. -/
def popped (setting : SzSetting) (gateway : SzGateway) (name transId : String) : Option (SzReport × Sending) :=
  match gateway.conns name, gateway.queues name with
  | some conn, report :: _ =>
    if conn.logOn && conn.reportSyn && ! name.isEmpty then
      some (report, SzReport.build setting gateway.conns report (report.building transId))
    else none
  | _, _ => none

/-- One connection's turn of the Shenzhen loop. What the library makes of the
message is not looked at. -/
def sendSZReport (setting : SzSetting) (outlet : ReportOutlet) (name transId : String) (sends : Bool) : ReportOutlet :=
  { outlet with
    gateway := (outlet.gateway.turn setting name transId).2
    szSent :=
      match popped setting outlet.gateway name transId with
      | some (report, sending) =>
        if sending.code = 0 ∧ sends = true then Function.update outlet.szSent name (outlet.szSent name ++ [report])
        else outlet.szSent
      | none => outlet.szSent }

/-- One round of the Shanghai loop's popping. A builder's code is not looked at, only
whether it has pushed statements. -/
def getSHReport (setting : ShSetting) (outlet : ReportOutlet) (cjbh : String) : ReportOutlet :=
  match outlet.shBuffer with
  | [] => outlet
  | report :: rest =>
    if outlet.rounds < 20000 then
      let (code, sqls) := ReportMsgSh.building setting report cjbh
      let outlet := { outlet with shBuffer := rest, rounds := outlet.rounds + 1 }
      if sqls.isEmpty then outlet
      else { outlet with mapUpdate := outlet.mapUpdate.insert ⟨report, code == 0, sqls⟩ }
    else outlet

/-- The reports of a connection's statements that are all executed; a failed
statement is logged and the next one follows. -/
def executed (execs : Nat → Bool) : Nat → List Group → List ShReport
  | _, [] => []
  | place, group :: groups =>
    let rest := executed execs (place + group.sqls.length) groups
    if group.whole && (List.range group.sqls.length).all fun i => execs (place + i) then group.report :: rest else rest

/-- The connections in turn; without a connection the call is over. -/
def sendSections (answers : ShAnswers) (groups : String → List Group) (sent : String → List ShReport) :
    List String → String → List ShReport
  | [] => sent
  | name :: names =>
    if (groups name).isEmpty then sendSections answers groups sent names
    else if answers.connects name then
      let done := if answers.commits name then executed (answers.execs name) 0 (groups name) else []
      sendSections answers groups (Function.update sent name (sent name ++ done)) names
    else sent

/-- The end of a pass: the queue is empty or the rounds are used up. -/
def sendSHReportOrConfirm (outlet : ReportOutlet) (answers : ShAnswers) : ReportOutlet :=
  if outlet.shBuffer.isEmpty || outlet.rounds == 20000 then
    { outlet with
      rounds := 0
      mapUpdate := {}
      shSent := sendSections answers outlet.mapUpdate.groups outlet.shSent outlet.mapUpdate.names }
  else outlet

/-- What happens to the outlet: the connections' own events, producers, one turn of
the Shenzhen loop, and one round or the end of a pass of Shanghai's. -/
inductive Event where
  | logOn (name : String)
  | logOut (name : String)
  | reportSynchronization (message : FixMessage)
  | pushSz (report : SzReport)
  | pushSh (report : ShReport)
  | szTurn (name transId : String) (sends : Bool)
  | shRound (cjbh : String)
  | shEnd (answers : ShAnswers)

def step (sz : SzSetting) (sh : ShSetting) (outlet : ReportOutlet) : Event → ReportOutlet
  | .logOn name => { outlet with gateway := outlet.gateway.procLogOn name }
  | .logOut name => { outlet with gateway := outlet.gateway.procLogOut name }
  | .reportSynchronization message => { outlet with gateway := outlet.gateway.reportSynchronization message }
  | .pushSz report => outlet.pushBackSz report
  | .pushSh report => outlet.pushBackSh report
  | .szTurn name transId sends => outlet.sendSZReport sz name transId sends
  | .shRound cjbh => outlet.getSHReport sh cjbh
  | .shEnd answers => outlet.sendSHReportOrConfirm answers

end ReportOutlet
end Simutgw
