import Simutgw.ReportOutlet
import Simutgw.ValideRecordOrder

/-! The counters of the two markets, and the places that increment them: the end of a
validation, the builders of cancels and refusals with the loops around them, and the
sending of what was built. What was built is kept beside them for the record. -/

namespace Simutgw

/-- A market's inner counts, of which the received and the traded ones are left out. -/
structure WorkCounter where
  confirm : UInt64 := 0
  matchCancel : UInt64 := 0
  error : UInt64 := 0
  deriving DecidableEq

/-- A market's links by their names, with the reports sent back on each. -/
structure LinkCounters where
  counts : List (String × UInt64)
  unique : (counts.map Prod.fst).Nodup

namespace LinkCounters

def increment (name : String) (link : String × UInt64) : String × UInt64 :=
  if link.1 = name then (link.1, link.2 + 1) else link

/-- A name without a counter is logged and not counted. -/
def incLinkSendBack (links : LinkCounters) (name : String) : LinkCounters where
  counts := links.counts.map (increment name)
  unique := by
    have names : (links.counts.map (increment name)).map Prod.fst = links.counts.map Prod.fst := by
      rw [List.map_map]
      apply List.map_congr_left
      intro link _
      simp only [Function.comp, increment]
      split <;> rfl
    rw [names]
    exact links.unique

def sendback (links : LinkCounters) : UInt64 := (links.counts.map Prod.snd).sum

end LinkCounters

structure SystemCounter where
  innerSz : WorkCounter := {}
  innerSh : WorkCounter := {}
  linkSz : LinkCounters
  linkSh : LinkCounters

namespace SystemCounter

/-- The figures of one market as they are printed. -/
structure Figures where
  inner_confirm : UInt64
  inner_report : UInt64
  inner_matchcancel : UInt64
  inner_error : UInt64
  deriving DecidableEq

/-- What is neither a confirmation nor anything else counted is taken for a report. -/
def figures (inner : WorkCounter) (links : LinkCounters) : Figures where
  inner_confirm := inner.confirm
  inner_report := links.sendback - inner.confirm
  inner_matchcancel := inner.matchCancel
  inner_error := inner.error

def print (counter : SystemCounter) : Figures × Figures :=
  (figures counter.innerSz counter.linkSz, figures counter.innerSh counter.linkSh)

end SystemCounter

inductive Market where
  | sz
  | sh
  deriving DecidableEq, Repr

/-- The report side with its counters, the validation threads that have an order to count,
the connections of the statements Shanghai's loop has still to execute, and the orders whose
reports were built. -/
structure CountedGateway where
  outlet : ReportOutlet := {}
  shared : Shared
  counter : SystemCounter
  counting : Nat → Option Market := fun _ => none
  executing : List String := []
  szBuilt : List OrderMessage := []
  shBuilt : List OrderMessage := []

namespace CountedGateway
open ReportOutlet

/-- What the two sides run in. -/
structure Setting where
  valide : ValideSetting
  sz : SzSetting
  sh : ShSetting

/-- The counter of a market's cancels or refusals, by the popped report's match type. -/
def incMatched (matchType : MatchType) (inner : WorkCounter) : WorkCounter :=
  match matchType with
  | .cancelMatch => { inner with matchCancel := inner.matchCancel + 1 }
  | .errorMatch => { inner with error := inner.error + 1 }
  | .matchAll | .matchPart | .notMatch | .outOfRange | .stopTrans => inner

/-- The builders of Shanghai's cancels and refusals count for themselves: a cancel that
succeeded, and every refusal. -/
def incBuilder (order : OrderMessage) (inner : WorkCounter) : WorkCounter :=
  match order.matchType with
  | .cancelMatch =>
    if order.msgType = Step.msgTypeExecReport then { inner with matchCancel := inner.matchCancel + 1 } else inner
  | .errorMatch => { inner with error := inner.error + 1 }
  | .matchAll | .matchPart | .notMatch | .outOfRange | .stopTrans => inner

def validate (setting : Setting) (gateway : CountedGateway) (thread : Nat) (order : OrderMessage) :
    Option CountedGateway :=
  match gateway.counting thread with
  | some _ => none
  | none =>
    (TaskValidOrder.validateOrder setting.valide order gateway.shared).map fun ended =>
      let market : Option Market := if order.isSz then some .sz else if order.isSh then some .sh else none
      let counts : Option Market := if ended.code = 0 then market else none
      { gateway with
        shared := ended.shared
        counting := Function.update gateway.counting thread counts }

/-- The last step of a validation that did not fail. -/
def count (gateway : CountedGateway) (thread : Nat) : Option CountedGateway :=
  let counted (inner : WorkCounter) : WorkCounter := { inner with confirm := inner.confirm + 1 }
  let gateway' := { gateway with counting := Function.update gateway.counting thread none }
  match gateway.counting thread with
  | none => none
  | some .sz => some { gateway' with
      counter := { gateway.counter with innerSz := counted gateway.counter.innerSz } }
  | some .sh => some { gateway' with
      counter := { gateway.counter with innerSh := counted gateway.counter.innerSh } }

/-- A message was built where one of the builders was called and succeeded. A code alone
sends an empty one. -/
def isBuilt : Building → Bool
  | .coded _ => false
  | .type8 _ | .type9 _ | .rule _ => true

def sentSz (gateway : CountedGateway) (report : SzReport) (transId : String) (sending : Sending) : CountedGateway :=
  if sending.code = 0 then
    { gateway with
      counter := { gateway.counter with
        innerSz := incMatched report.order.matchType gateway.counter.innerSz
        linkSz := gateway.counter.linkSz.incLinkSendBack report.order.senderCompID }
      szBuilt := if isBuilt (report.building transId) then gateway.szBuilt ++ [report.order] else gateway.szBuilt }
  else gateway

/-- The builders of cancels and refusals return zero, and the loop counts once more. -/
def poppedSh (setting : Setting) (gateway : CountedGateway) (report : ShReport) (cjbh : String) : CountedGateway :=
  let (code, sqls) := ReportMsgSh.building setting.sh report cjbh
  let built := incBuilder report.order gateway.counter.innerSh
  { gateway with
    counter := { gateway.counter with
      innerSh := if code = 0 then incMatched report.order.matchType built else built }
    shBuilt := if sqls.isEmpty then gateway.shBuilt else gateway.shBuilt ++ [report.order] }

/-- The connection a statement goes to, for each that is executed. -/
def executedOn (answers : ShAnswers) (groups : String → List Group) : List String → List String
  | [] => []
  | name :: names =>
    if (groups name).isEmpty then executedOn answers groups names
    else if answers.connects name then
      List.replicate ((groups name).flatMap Group.sqls).length name ++ executedOn answers groups names
    else []

/-- A statement is executed and counted on its link, whatever has come of it. -/
def exec (gateway : CountedGateway) : Option CountedGateway :=
  match gateway.executing with
  | [] => none
  | name :: rest => some { gateway with
      executing := rest
      counter := { gateway.counter with linkSh := gateway.counter.linkSh.incLinkSendBack name } }

/-- What is counted in an event of the report side. The statements of a sending are counted
one after the other. -/
def counts (setting : Setting) (gateway : CountedGateway) : ReportOutlet.Event → CountedGateway
  | .szTurn name transId _ =>
    match popped setting.sz gateway.outlet.gateway name transId with
    | none => gateway
    | some (report, sending) => sentSz gateway report transId sending
  | .shRound cjbh =>
    match gateway.outlet.shBuffer with
    | [] => gateway
    | report :: _ => if gateway.outlet.rounds < 20000 then poppedSh setting gateway report cjbh else gateway
  | .shEnd answers =>
    if gateway.outlet.shBuffer.isEmpty || gateway.outlet.rounds == 20000 then
      { gateway with executing := executedOn answers gateway.outlet.mapUpdate.groups gateway.outlet.mapUpdate.names }
    else gateway
  | .logOn _ | .logOut _ | .reportSynchronization _ | .pushSz _ | .pushSh _ => gateway

/-- The events of Shanghai's loop. -/
def ofShLoop : ReportOutlet.Event → Bool
  | .shRound _ | .shEnd _ => true
  | .logOn _ | .logOut _ | .reportSynchronization _ | .pushSz _ | .pushSh _ | .szTurn .. => false

/-- What happens: a validation and then its count, whatever the other threads do to what they
share, a statement of a sending, and the report side's events, to which whoever pushes a
report adds. -/
inductive Event where
  | validate (thread : Nat) (order : OrderMessage)
  | count (thread : Nat)
  | others (shared : Shared)
  | exec
  | report (event : ReportOutlet.Event)

def step (setting : Setting) (gateway : CountedGateway) : Event → Option CountedGateway
  | .validate thread order => validate setting gateway thread order
  | .count thread => count gateway thread
  | .others shared => some { gateway with shared }
  | .exec => exec gateway
  | .report event =>
    -- The loop is one thread, which goes on when all statements of the sending are executed.
    if ofShLoop event && ! gateway.executing.isEmpty then none
    else some { counts setting gateway event with outlet := gateway.outlet.step setting.sz setting.sh event }

end CountedGateway
end Simutgw
