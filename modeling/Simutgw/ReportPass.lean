import Simutgw.ReportSql

/-! The pass of Shanghai's loop over the reports that are queued, with the statements
themselves: the builder that a report's match type asks for, and what a connection is to
execute by the end. -/

namespace Simutgw

/-- A rule of a customer of Shanghai's: nothing where a part is not of the kind it has
to be. -/
structure SqlRule where
  docRuleConfirm : Option ReportSql.RuleElement := none
  docRuleMatch : Option (List (Option ReportSql.RuleElement)) := none

structure QueuedReport where
  order : ReportedOrder
  ptrRuleSh : Option SqlRule := none

namespace ReportSql
open TimeStringUtil

/-- A builder's code, the statements it has pushed by then, and the counters. -/
abbrev Pushing := Int × List String × MapShConns

def pushed : Option String × MapShConns → Pushing
  | (none, conns) => (-1, [], conns)
  | (some sql, conns) => (0, [sql], conns)

def procSingleReport (clock : Nat → String → CalendarTime) (report : QueuedReport) (conns : MapShConns) : Pushing :=
  if report.order.isSz then (0, [], conns)
  else if report.order.isSh then
    if report.order.tradePolicy.ruleId ≠ 0 then
      match report.ptrRuleSh with
      | none => (-1, [], conns)
      | some rule => fixToSHReportJsonRule report.order clock rule.docRuleMatch conns
    else pushed (fixToSHReport report.order conns)
  else (-1, [], conns)

/-- Whatever becomes of its statement, a cancel's code is zero. -/
def procSHCancelOrder (report : QueuedReport) (conns : MapShConns) : Pushing :=
  if report.order.matchType = .cancelMatch ∧
      (report.order.msgType = Step.msgTypeExecReport ∨ report.order.msgType = Step.msgTypeCancelReject) then
    (0, (pushed (fixToSHConfirm report.order conns)).2)
  else (0, [], conns)

/-- A cancel that was refused before it was tried has no row. -/
def procSHErrorOrder (report : QueuedReport) (conns : MapShConns) : Pushing :=
  if report.order.msgType = Step.msgTypeNewOrder then (0, (pushed (fixToSHConfirm report.order conns)).2)
  else (0, [], conns)

def procSHConfirmOrder (clock : Nat → String → CalendarTime) (report : QueuedReport) (conns : MapShConns) : Pushing :=
  if report.order.isSz then (-1, [], conns)
  else if report.order.isSh then
    if report.order.tradePolicy.ruleId ≠ 0 then
      match report.ptrRuleSh with
      | none => (-1, [], conns)
      | some rule => pushed (fixToSHConfirmJsonRule report.order (clock 0) rule.docRuleConfirm conns)
    else pushed (fixToSHConfirm report.order conns)
  else (-1, [], conns)

/-- The builder of a popped report, by its match type. -/
def building (clock : Nat → String → CalendarTime) (report : QueuedReport) (conns : MapShConns) : Pushing :=
  match report.order.matchType with
  | .matchAll | .matchPart => procSingleReport clock report conns
  | .cancelMatch => procSHCancelOrder report conns
  | .errorMatch => procSHErrorOrder report conns
  | .notMatch => procSHConfirmOrder clock report conns
  | .outOfRange | .stopTrans => (-1, [], conns)

/-- The statements each connection is to execute. -/
abbrev OutMapUpdate := Logic.Hash String (List String)

def OutMapUpdate.insert (out_mapUpdate : OutMapUpdate) (name : String) (vectSqlStr : List String) : OutMapUpdate :=
  if vectSqlStr.isEmpty then out_mapUpdate
  else Function.update out_mapUpdate name (some ((out_mapUpdate name).getD [] ++ vectSqlStr))

/-- The rounds of a pass, until the queue is empty or the rounds are used up: the reports
that are left, the statements and the counters. -/
def getSHReport (clock : Nat → Nat → String → CalendarTime) :
    Nat → List QueuedReport → OutMapUpdate → MapShConns → List QueuedReport × OutMapUpdate × MapShConns
  | 0, reports, out_mapUpdate, conns => (reports, out_mapUpdate, conns)
  | _ + 1, [], out_mapUpdate, conns => ([], out_mapUpdate, conns)
  | rounds + 1, report :: reports, out_mapUpdate, conns =>
    let (_, vectSqlStr, conns) := building (clock rounds) report conns
    getSHReport clock rounds reports (out_mapUpdate.insert report.order.sessionId vectSqlStr) conns

def iMaxLoopcount : Nat := 20000

end ReportSql
end Simutgw
