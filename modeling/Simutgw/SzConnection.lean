import Simutgw.Logic.Hash
import Simutgw.ReportMsg

/-! Shenzhen's connections and the indices of their reports. A report is popped from
its connection's queue, takes the connection's next index while it is built, and is
sent when it is complete. -/

namespace Simutgw
open SofString TgwStringUtil Logic

structure SzConnection where
  logOn : Bool := false
  reportSyn : Bool := false
  reportIndex : UInt64 := 0
  queLookUpTimes : UInt64 := 0
  partitions : List Int := []
  deriving DecidableEq

namespace SzConnection

/-- The partitions are those the log-on adds. -/
def logsOn (conn : SzConnection) : SzConnection := { conn with logOn := true, partitions := [1, 2] }

def logsOut (conn : SzConnection) : SzConnection :=
  { conn with logOn := false, reportSyn := false, queLookUpTimes := 0 }

def setRptIdx (conn : SzConnection) (num : UInt64) : SzConnection :=
  { conn with reportIndex := num, reportSyn := true }

/-- The next index, which is another's afterwards. -/
def getRptIdex (conn : SzConnection) : UInt64 × SzConnection :=
  (conn.reportIndex, { conn with reportIndex := conn.reportIndex + 1 })

/-- What a round of polling does to a connection that is not synchronised: the
test of its index is a getter too. Every tenth time the queue's depth is looked at. -/
def lookUp (conn : SzConnection) (queued : Nat) : SzConnection :=
  let (num, conn) := conn.getRptIdex
  if num ≠ 0 then conn
  else
    let conn := { conn with queLookUpTimes := conn.queLookUpTimes + 1 }
    if 10 ≤ conn.queLookUpTimes ∧ 10 ≤ queued then { conn with queLookUpTimes := 0 } else conn

end SzConnection

/-- The connections by the counter's name. -/
abbrev Conns := Hash String SzConnection

/-- A message by the names of its fields. -/
abbrev FixMessage := Hash String String

/-- A rule of the customer, as its two documents turn out: nothing where a part is
not of the kind it has to be. -/
structure SzRule where
  docRuleConfirm : Option String
  docRuleMatch : Option (List (Option String))

/-- A report on its way, with the message its order came in, whose sender is the order's own. -/
structure SzReport where
  order : OrderMessage
  szfixMsg : FixMessage
  ptrRuleSz : Option SzRule := none
  genuine : ∀ sender, szfixMsg "SenderCompID" = some sender → sender = order.senderCompID

/-- The step's version, and which fields a rule's document sets for an order. -/
structure SzSetting where
  ver110 : Bool
  resolveElement : String → SzReport → Option (List (String × String))

/-- A return code, the connections as they are then, and the message. -/
structure Sending where
  code : Int
  conns : Conns
  message : FixMessage := fun _ => none

/-- What is done with a popped report: one of the three builders, or a code at once. -/
inductive Building where
  | coded (code : Int)
  | type8 (order : OrderMessage)
  | type9 (order : OrderMessage)
  | rule (doc : String)

namespace SzReport

/-- The index of a connection that exists, and zero otherwise. -/
def takeIndex (conns : Conns) (name : String) : UInt64 × Conns :=
  match conns name with
  | none => (0, conns)
  | some conn => (conn.getRptIdex.1, Function.update conns name (some conn.getRptIdex.2))

/-- The fields both builders and the rule put in with the index. -/
def indexFields (setting : SzSetting) (conns : Conns) (name : String) : List (String × String) :=
  let num := (takeIndex conns name).1
  let partitionNo := ((conns name).bind fun conn => conn.partitions.head?).getD 0
  ("ReportIndex", itostr num) :: if setting.ver110 then [("PartitionNo", toString partitionNo)] else []

/-- The checks before the index is taken. -/
def headed (order : OrderMessage) : Bool :=
  ! (order.beginString.isEmpty || order.senderCompID.isEmpty || order.targetCompID.isEmpty || order.msgType.isEmpty)

/-- The checks behind it. -/
def placed (order : OrderMessage) : Bool :=
  ! (order.applID.isEmpty || order.ownerType.isEmpty || order.securitySeat.isEmpty || order.accountId.isEmpty ||
    order.marketBranchid.isEmpty)

def header (order : OrderMessage) : List (String × String) :=
  [("BeginString", order.beginString), ("TargetCompID", order.senderCompID), ("SenderCompID", order.targetCompID),
    ("MsgType", order.msgType)]

def procMsgType8Report (setting : SzSetting) (conns : Conns) (order : OrderMessage) : Sending :=
  if ! headed order then { code := -1, conns }
  else
    let fields := header order ++ indexFields setting conns order.senderCompID
    let conns := (takeIndex conns order.senderCompID).2
    if ! placed order then { code := -1, conns }
    else
      { code := 0
        conns
        message := Hash.set (fun _ => none)
          (fields ++ [("ApplID", order.applID), ("OwnerType", order.ownerType)]) }

/-- The refusal of a cancel. Its only check is behind the index. -/
def procMsgType9Report (setting : SzSetting) (conns : Conns) (order : OrderMessage) : Sending :=
  let fields := header order ++ indexFields setting conns order.senderCompID
  let conns := (takeIndex conns order.senderCompID).2
  if order.securitySeat.isEmpty then { code := -1, conns }
  else
    { code := 0
      conns
      message := Hash.set (fun _ => none)
        (fields ++ [("ApplID", order.applID), ("OwnerType", order.ownerType), ("OrderID", order.orderID)]) }

/-- A report by rule is written on the order's own message, whose missing fields throw. -/
def resolveRule (setting : SzSetting) (conns : Conns) (report : SzReport) (doc : String) : Sending :=
  if report.order.senderCompID.isEmpty || report.order.targetCompID.isEmpty then { code := -1, conns }
  else
    match report.szfixMsg "BeginString", report.szfixMsg "SenderCompID", report.szfixMsg "TargetCompID" with
    | some beginString, some sender, some target =>
      let fields := [("BeginString", beginString), ("MsgType", "8"), ("TargetCompID", sender),
        ("SenderCompID", target)] ++ indexFields setting conns sender
      let conns := (takeIndex conns sender).2
      let applID := (report.szfixMsg "ApplID").getD ""
      if applID.isEmpty then { code := -1, conns }
      else
        match setting.resolveElement doc report with
        | none => { code := -1, conns }
        | some resolved =>
          { code := 0, conns, message := Hash.set (fun _ => none) (fields ++ [("ApplID", applID)] ++ resolved) }
    | _, _, _ => { code := -1, conns }

/-- The rule's document for a trade is the first of a list; an empty list reports nothing. -/
def procMsgType8ReportJsonRule (rule : SzRule) : Building :=
  match rule.docRuleMatch with
  | none => .coded (-1)
  | some [] => .coded 1
  | some (none :: _) => .coded (-1)
  | some (some doc :: _) => .rule doc

def procMsgType8ConfirmJsonRule (rule : SzRule) : Building :=
  match rule.docRuleConfirm with
  | none => .coded (-1)
  | some doc => .rule doc

/-- Trades and confirmations differ in the rule's document only. -/
def procRuled (report : SzReport) (byRule : SzRule → Building) (transId : String) : Building :=
  if ! report.order.isSz then .coded (-1)
  else if report.order.tradePolicy.ruleId ≠ 0 then
    match report.ptrRuleSz with
    | none => .coded (-1)
    | some rule => byRule rule
  else .type8 (StgwFixReport.withIds report.order transId)

def procSingleReport (report : SzReport) (transId : String) : Building :=
  procRuled report procMsgType8ReportJsonRule transId

/-- A message of another type is sent empty. -/
def procSZCancelOrder (order : OrderMessage) : Building :=
  if order.msgType = Step.msgTypeExecReport then .type8 order
  else if order.msgType = Step.msgTypeCancelReject then .type9 order
  else .coded 0

def procSZErrorOrder (order : OrderMessage) : Building :=
  if order.msgType = Step.msgTypeNewOrder then .type8 (StgwFixReport.rejected order)
  else if order.msgType = Step.msgTypeOrderCancel then .type9 (StgwFixReport.cancelRejected order)
  else .coded 0

def procSZConfirmOrder (report : SzReport) (transId : String) : Building :=
  procRuled { report with order := StgwFixReport.confirmed report.order } procMsgType8ConfirmJsonRule transId

/-- The builder a popped report goes to, by its match type. -/
def building (report : SzReport) (transId : String) : Building :=
  match report.order.matchType with
  | .matchAll | .matchPart => procSingleReport report transId
  | .cancelMatch => procSZCancelOrder report.order
  | .errorMatch => procSZErrorOrder report.order
  | .notMatch => procSZConfirmOrder report transId
  | .outOfRange | .stopTrans => .coded (-1)

def build (setting : SzSetting) (conns : Conns) (report : SzReport) : Building → Sending
  | .coded code => { code, conns }
  | .type8 order => procMsgType8Report setting conns order
  | .type9 order => procMsgType9Report setting conns order
  | .rule doc => resolveRule setting conns report doc

end SzReport

/-- The connections in the order of their names, the queue of each, and for the
record: the index each was last synchronised at, and the index texts of what was
sent on it since. -/
structure SzGateway where
  names : List String := []
  conns : Conns := fun _ => none
  queues : String → List SzReport := fun _ => []
  since : String → Option (UInt64 × List (Option String)) := fun _ => none

inductive SzEvent where
  | logOn (name : String)
  | logOut (name : String)
  | reportSynchronization (message : FixMessage)
  | pushBack (report : SzReport)
  | send (transIds : String → String)

namespace SzGateway

def insertName (name : String) : List String → List String
  | [] => [name]
  | other :: names =>
    if name = other then other :: names
    else if name < other then name :: other :: names
    else other :: insertName name names

def procLogOn (gateway : SzGateway) (name : String) : SzGateway :=
  { gateway with
    names := insertName name gateway.names
    conns := Function.update gateway.conns name (some ((gateway.conns name).getD {}).logsOn) }

def procLogOut (gateway : SzGateway) (name : String) : SzGateway :=
  match gateway.conns name with
  | none => gateway
  | some conn => { gateway with conns := Function.update gateway.conns name (some conn.logsOut) }

/-- The index is the message's, or that of its last partition; the sender must be a connection. -/
def reportSynchronization (gateway : SzGateway) (message : FixMessage) : SzGateway :=
  match message "ReportIndex", message "TargetCompID", message "SenderCompID" with
  | some index, some _, some sender =>
    match gateway.conns sender with
    | none => gateway
    | some conn =>
      { gateway with
        conns := Function.update gateway.conns sender (some (conn.setRptIdx (string2UInt64 index)))
        since := Function.update gateway.since sender (some (string2UInt64 index, [])) }
  | _, _, _ => gateway

def pushBack (gateway : SzGateway) (report : SzReport) : SzGateway :=
  if ! report.order.isSz || report.order.senderCompID.isEmpty then gateway
  else
    { gateway with
      queues := Function.update gateway.queues report.order.senderCompID
        (gateway.queues report.order.senderCompID ++ [report]) }

/-- A message goes to the connection its header names. -/
def sendMsg (gateway : SzGateway) (message : FixMessage) : SzGateway :=
  match message "TargetCompID" with
  | none => gateway
  | some target =>
    { gateway with
      since := Function.update gateway.since target
        ((gateway.since target).map fun since => (since.1, since.2 ++ [message "ReportIndex"])) }

/-- One connection's turn: what the call returns after it, or nothing where it goes on. -/
def turn (setting : SzSetting) (gateway : SzGateway) (name transId : String) : Option Int × SzGateway :=
  match gateway.conns name with
  | none => (none, gateway)
  | some conn =>
    if conn.logOn && conn.reportSyn then
      if name.isEmpty then (some (-1), gateway)
      else
        match gateway.queues name with
        | [] => (none, gateway)
        | report :: rest =>
          let sending := SzReport.build setting gateway.conns report (report.building transId)
          let gateway := { gateway with
            queues := Function.update gateway.queues name rest
            conns := sending.conns }
          if sending.code = 0 then (some 0, gateway.sendMsg sending.message)
          else if sending.code = 1 then (some 0, gateway)
          else (none, gateway)
    else if conn.logOn then
      (none, { gateway with
        conns := Function.update gateway.conns name (some (conn.lookUp (gateway.queues name).length)) })
    else (none, gateway)

def turns (setting : SzSetting) (gateway : SzGateway) (transIds : String → String) : List String → Int × SzGateway
  | [] => (1, gateway)
  | name :: names =>
    match turn setting gateway name (transIds name) with
    | (some code, gateway) => (code, gateway)
    | (none, gateway) => turns setting gateway transIds names

def sendSZReport (setting : SzSetting) (gateway : SzGateway) (transIds : String → String) : Int × SzGateway :=
  turns setting gateway transIds gateway.names

def step (setting : SzSetting) (gateway : SzGateway) : SzEvent → SzGateway
  | .logOn name => gateway.procLogOn name
  | .logOut name => gateway.procLogOut name
  | .reportSynchronization message => gateway.reportSynchronization message
  | .pushBack report => gateway.pushBack report
  | .send transIds => (gateway.sendSZReport setting transIds).2

end SzGateway
end Simutgw
