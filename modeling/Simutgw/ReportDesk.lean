import Simutgw.MatchSteps
import Simutgw.ValidOrder
import Mathlib.Logic.Function.Basic

/-! One order between the two sides: the task that matches it, step by step, and the
thread that pops what was pushed and builds its reports. The orders live at addresses;
the queue, the running task and the outgoing buffer hold addresses only. -/

namespace Simutgw.ReportDesk
open ABStockMatch OutMemoryManage UserStockHelper

/-- A report as it is sent: the match type it was sent for, and what was built. -/
structure Report where
  matchType : MatchType
  fields : Option ReportFields
  deriving DecidableEq

/-- The queue's and the running task's address, the steps the run has left, the
buffer, what the report side has popped, and what was decided and reported so far. -/
structure Desk where
  heap : Nat → OrderMessage
  next : Nat
  queued : Option Nat
  target : Nat
  work : List Op
  cache : StockCache
  outgoing : List Nat
  held : Option (Nat × MatchType)
  outcomes : List Outcome
  reports : List Report

/-- The holdings' table, and the Shanghai sessions the report side knows. -/
structure Setting where
  db : StockDb
  sessions : String → Bool

/-- The library's random ids and the queue's room are the environment's. -/
inductive Event where
  | attempt (round : Round)
  | cancel (request : OrderMessage) (transId : String)
  | op (room : Bool)
  | pop
  | build (transId : String)

/-- The confirmation is a copy of its own, and so is what the queue holds. -/
def start (cache : StockCache) (order : OrderMessage) : Option Desk :=
  if GenTaskHelper.genTaskMatch order = some .aBStockMatch then
    let desk : Desk := {
      heap := fun _ => order
      next := 2
      queued := some 0
      target := 0
      work := []
      cache
      outgoing := []
      held := none
      outcomes := []
      reports := [] }
    match RecordNewOrderHelper.confirm order with
    | [] => some desk
    | confirm :: _ =>
      some { desk with
        heap := Function.update desk.heap 1 confirm
        outgoing := [1]
        outcomes := [.untraded confirm.matchType confirm] }
  else none

namespace Desk

def order (desk : Desk) : OrderMessage := desk.heap desk.target

def writes (desk : Desk) (address : Nat) (order : OrderMessage) : Desk :=
  { desk with heap := Function.update desk.heap address order }

end Desk

/-- One step of the running task. -/
def perform (setting : Setting) (desk : Desk) (room : Bool) : Op → Option Desk
  | .settle outcome => some { desk with outcomes := desk.outcomes ++ [outcome] }
  | .write change => some (desk.writes desk.target (change desk.order))
  | .book =>
    (updateAfterTrade setting.db desk.cache desk.order).map fun updated =>
      { desk.writes desk.target updated.order with cache := updated.cache }
  | .push =>
    some (if pushBack desk.order = 0 then { desk with outgoing := desk.outgoing ++ [desk.target] } else desk)
  | .release =>
    (TaskCancelOrder.released desk.cache desk.order).map fun updated =>
      { desk.writes desk.target updated.order with cache := updated.cache }
  | .requeue =>
    some (if room then
      { desk.writes desk.next desk.order with next := desk.next + 1, queued := some desk.next }
    else desk)

/-- A report on the order as it stands. -/
def buildReport (sessions : String → Bool) (matchType : MatchType) (order : OrderMessage) (transId : String) : Built :=
  if order.isSz then StgwFixReport.sendSZReport matchType order transId
  else ReportMsgSh.getSHReport sessions matchType order transId

/-- A run begins where nothing is left of the run before. -/
def begin (desk : Desk) (ops : OrderMessage → Option (List Op)) : Option Desk :=
  match desk.queued, desk.work with
  | some address, [] =>
    (ops (desk.heap address)).map fun work => { desk with queued := none, target := address, work }
  | _, _ => none

def step (setting : Setting) (desk : Desk) : Event → Option Desk
  | .attempt round => begin desk (matchOrderOps round)
  | .cancel request transId => begin desk fun order => some (cancelOps request order transId)
  | .op room =>
    match desk.work with
    | [] => none
    | op :: work => perform setting { desk with work } room op
  | .pop =>
    match desk.held, desk.outgoing with
    | none, address :: outgoing =>
      some { desk with held := some (address, (desk.heap address).matchType), outgoing }
    | _, _ => none
  | .build transId =>
    match desk.held with
    | some (address, matchType) =>
      let built := buildReport setting.sessions matchType (desk.heap address) transId
      some { desk.writes address built.order with
        held := none
        reports := desk.reports ++ [⟨matchType, built.fields⟩] }
    | none => none

end Simutgw.ReportDesk
