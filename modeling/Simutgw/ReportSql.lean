import Simutgw.Logic.Replacement
import Simutgw.Logic.Hash
import Simutgw.RuleWordProc
import Simutgw.ShConnection
import Simutgw.TimeStringUtil

/-! The statements Shanghai's reports are sent with: the insert of a confirmation and of
a trade, from the order itself or from the customer's rule, put together piece by piece. -/

namespace Simutgw

/-- A connection's counters, the host's order number among them. -/
structure ShNumbers extends ShConnection where
  teordernum : UInt64 := 0

namespace ShNumbers

def incRecNum (conn : ShNumbers) : UInt64 × ShNumbers :=
  (conn.toShConnection.incRecNum.2, { conn with toShConnection := conn.toShConnection.incRecNum.1 })

def incCjbh (conn : ShNumbers) : UInt64 × ShNumbers :=
  (conn.toShConnection.incCjbh.2, { conn with toShConnection := conn.toShConnection.incCjbh.1 })

def getTeordNum (conn : ShNumbers) : UInt64 × ShNumbers :=
  (conn.teordernum, { conn with teordernum := conn.teordernum + 1 })

end ShNumbers

/-- The order with the two fields that only rows are made of. -/
structure ReportedOrder extends OrderMessage where
  confirmID : String := ""
  jsOrder : String → Option String := fun _ => none

/-- The sessions by their names. -/
abbrev MapShConns := Logic.Hash String ShNumbers

namespace ReportSql
open TgwStringUtil SofString RuleWordProc TimeStringUtil

def gStrSHOrdwth2TableName := "ashare_ordwth2"
def gStrSHCjhbTableName := "ashare_cjhb"

/-- The date in front of the first dash, and the time from there to the first point. A
point in front of the dash makes a count that wraps, and the time is all that is left. -/
def transTimes (order : OrderMessage) : Option (String × String) :=
  let strTransactTime := order.transactTime.toList
  match Logic.find ['-'] strTransactTime, Logic.find ['.'] strTransactTime with
  | some pos, some posTime =>
    let rest := strTransactTime.drop (pos + 1)
    some (String.ofList (strTransactTime.take pos),
      String.ofList (if pos < posTime then rest.take (posTime - pos - 1) else rest))
  | _, _ => none

/-- The number of the order the row is about: a cancel's row is about the order that was
to be cancelled. -/
def reff (order : OrderMessage) : Option String :=
  if order.msgType = Step.msgTypeNewOrder then some order.clOrdId
  else if order.msgType = Step.msgTypeOrderCancel ∨ order.msgType = Step.msgTypeCancelReject ∨
      order.ordStatus = Step.ordStatusCancel then
    some order.origClOrdId
  else none

def status (order : OrderMessage) : Option String :=
  if order.matchType = .errorMatch then some "F"
  else if order.ordStatus = Step.ordStatusCancel then some "W"
  else if order.msgType = Step.msgTypeNewOrder then some "O"
  else if order.msgType = Step.msgTypeOrderCancel then some "W"
  else if order.msgType = Step.msgTypeCancelReject then some "F"
  else none

/-- Orders and refused cancels have neither a cancelled quantity nor a cancelled order. -/
def uncancelled (order : OrderMessage) : Bool :=
  order.msgType == Step.msgTypeNewOrder || order.msgType == Step.msgTypeCancelReject

def remark (order : OrderMessage) : String :=
  if order.ordStatus = Step.ordStatusCancel then "0"
  else if order.errorCode.isEmpty then " "
  else order.errorCode

/-- The row of a cancelled order takes a number of its own for the host's. -/
def teordernum (order : OrderMessage) (conn : ShNumbers) : UInt64 × ShNumbers :=
  if order.ordStatus = Step.ordStatusCancel then conn.incRecNum else conn.getTeordNum

def owflag (order : OrderMessage) : String :=
  if order.ordStatus = Step.ordStatusCancel then "WTH" else order.ordType

def confirmHead : String :=
  "INSERT INTO " ++ gStrSHOrdwth2TableName ++ " (rec_num,date,time,reff,acc,stock," ++
    "bs,price,qty,status,qty2,remark,status1,teordernum,owflag,ordrec,firmid,branchid,checkord) VALUES("

/-- The pieces of the statement, in the order in which they are appended. -/
def confirmSql (order : ReportedOrder) (ui64Value ui64Teordernum : UInt64)
    (strTransDate strTransTime strReff strStatus : String) : String :=
  String.join [
    confirmHead, itostr ui64Value, ",'", strTransDate, "','", strTransTime, "','", strReff, "','", order.accountId, "','",
    order.stockID, "','", order.side, "','", iLiToStr order.orderPrice 3, "','", order.strOrderqtyOrigin, "','",
    strStatus, "',",
    if uncancelled order.toOrderMessage then "'','" else "'" ++ order.lastQty ++ "','",
    remark order.toOrderMessage, "','", "R", "','", itostr ui64Teordernum, "','", owflag order.toOrderMessage, "',",
    if uncancelled order.toOrderMessage then "0," else "'" ++ order.clOrdId ++ "',",
    if order.confirmID.isEmpty then "null,'" else "'" ++ order.confirmID ++ "','",
    order.marketBranchid, "',0x00000000000000000000000000000000);"]

/-- The statement, if there is one, and the counters afterwards. The row's number is gone
where a check behind it fails. -/
def fixToSHConfirm (order : ReportedOrder) (conns : MapShConns) : Option String × MapShConns :=
  match transTimes order.toOrderMessage, conns order.sessionId with
  | some (strTransDate, strTransTime), some conn =>
    let (ui64Value, conn) := conn.incRecNum
    let conns := Function.update conns order.sessionId (some conn)
    match reff order.toOrderMessage, status order.toOrderMessage with
    | some strReff, some strStatus =>
      let (ui64Teordernum, conn) := teordernum order.toOrderMessage conn
      (some (confirmSql order ui64Value ui64Teordernum strTransDate strTransTime strReff strStatus),
        Function.update conns order.sessionId (some conn))
    | _, _ => (none, conns)
  | _, _ => (none, conns)

def reportHead : String :=
  "INSERT INTO " ++ gStrSHCjhbTableName ++ "(gddm,gdxm,bcrq,cjbh,gsdm,cjsl,bcye,zqdm," ++
    "sbsj,cjsj,cjjg,cjje,sqbh,bs,mjbh) VALUES("

/-- An amount that is too long for its column is written as a minus one. -/
def cjje (order : OrderMessage) : String :=
  if order.cashorderqtyMatched > 999999999990 then "-1" else iLiToStr order.cashorderqtyMatched 2

def reportSql (order : ReportedOrder) (ui64Value : UInt64) (strTransDate strTransTime : String) : String :=
  String.join [
    reportHead, "'", order.accountId, "','", "1','", strTransDate, "','", itostr ui64Value, "','",
    order.securitySeat, "','", order.lastQty, "','", "0000000001','", order.stockID, "','", strTransTime, "','",
    strTransTime, "','",
    iLiToStr order.priceMatched 3, "','", cjje order.toOrderMessage, "','", order.clOrdId, "','", order.side, "','",
    "66666", "');"]

/-- The time is written without its colons. -/
def withoutColons (strTransTime : String) : String := String.ofList (strTransTime.toList.filter (· ≠ ':'))

def fixToSHReport (order : ReportedOrder) (conns : MapShConns) : Option String × MapShConns :=
  match transTimes order.toOrderMessage, conns order.sessionId with
  | some (strTransDate, strTransTime), some conn =>
    let (ui64Value, conn) := conn.incCjbh
    (some (reportSql order ui64Value strTransDate (withoutColons strTransTime)),
      Function.update conns order.sessionId (some conn))
  | _, _ => (none, conns)

/-- A rule's document. -/
abbrev RuleElement := String → Option RuleValue

/-- What the order offers to a word at a time of the clock. -/
def ruleWords (order : ReportedOrder) (clock : CalendarTime) (conns : MapShConns) : ShWords where
  jsOrder := order.jsOrder
  recNum := (conns order.sessionId).map fun conn => conn.incRecNum.1
  cjbh := (conns order.sessionId).map fun conn => conn.incCjbh.1
  date := getTimeInYYYYMMDD clock.tm
  timeC8 := getTimeInTimeC8 clock.tm
  timeC6 := getTimeInTimeC6 clock.tm

/-- The counters after a member has been resolved: its only word may have drawn a number. -/
def drawn (order : ReportedOrder) (conns : MapShConns) (elem : RuleElement) (ruleKey : String) : MapShConns :=
  match elem ruleKey, conns order.sessionId with
  | some (.text words), some conn =>
    if splitBlank words = ["$REC_NUM"] then Function.update conns order.sessionId (some conn.incRecNum.2)
    else if splitBlank words = ["$SH_CJBH"] then Function.update conns order.sessionId (some conn.incCjbh.2)
    else conns
  | _, _ => conns

/-- The values of the columns, one behind the other, in a statement; `strEmpty` stands for
nothing in the last of them. `strResolveValue` is what the column before left there, and
the next finds it there again. -/
def appendColumns (order : ReportedOrder) (clock : String → CalendarTime) (elem : RuleElement) (strEmpty : String) :
    List String → (sql strResolveValue : String) → MapShConns → Option (String × String) × MapShConns
  | [], sql, strResolveValue, conns => (some (sql, strResolveValue), conns)
  | ruleKey :: columns, sql, strResolveValue, conns =>
    let resolved := ShDb.resolveRule (ruleWords order (clock ruleKey) conns) elem ruleKey strResolveValue
    let conns := drawn order conns elem ruleKey
    match resolved with
    | none => (none, conns)
    | some (iResolveRes, strResolveValue) =>
      if iResolveRes = -1 then (none, conns)
      else
        let sql := sql ++
          if columns.isEmpty then if strResolveValue.isEmpty then strEmpty else "'" ++ strResolveValue ++ "'"
          else if strResolveValue.isEmpty then "NULL," else "'" ++ strResolveValue ++ "',"
        appendColumns order clock elem strEmpty columns sql strResolveValue conns

def confirmColumns : List String :=
  ["rec_num", "date", "time", "reff", "acc", "stock", "bs", "price", "qty", "status", "qty2", "remark", "status1",
    "teordernum", "owflag", "ordrec", "firmid", "branchid", "checkord"]

/-- A document that is no object is none. -/
def fixToSHConfirmJsonRule (order : ReportedOrder) (clock : String → CalendarTime) (docRuleConfirm : Option RuleElement)
    (conns : MapShConns) : Option String × MapShConns :=
  match docRuleConfirm with
  | none => (none, conns)
  | some elem =>
    let (appended, conns) := appendColumns order clock elem "0x00000000000000000000000000000000" confirmColumns
      confirmHead "" conns
    (appended.map fun appended => appended.1 ++ ");", conns)

def reportColumns : List String :=
  ["gddm", "gdxm", "bcrq", "cjbh", "gsdm", "cjsl", "bcye", "zqdm", "sbsj", "cjsj", "cjjg", "cjje", "sqbh", "bs", "mjbh"]

/-- The loop over the elements of the list, up to the first that is no object or cannot
be resolved; what was pushed before it stays. -/
def reportRows (order : ReportedOrder) (clock : Nat → String → CalendarTime) :
    List (Option RuleElement) → Nat → (strResolveValue : String) → MapShConns → Int × List String × MapShConns
  | [], _, _, conns => (0, [], conns)
  | none :: _, _, _, conns => (-1, [], conns)
  | some elem :: elems, i, strResolveValue, conns =>
    match appendColumns order (clock i) elem "NULL" reportColumns reportHead strResolveValue conns with
    | (none, conns) => (-1, [], conns)
    | (some (sql, strResolveValue), conns) =>
      let (code, sqls, conns) := reportRows order clock elems (i + 1) strResolveValue conns
      (code, (sql ++ ");") :: sqls, conns)

/-- A document that is no list has no rows. -/
def fixToSHReportJsonRule (order : ReportedOrder) (clock : Nat → String → CalendarTime)
    (docRuleMatch : Option (List (Option RuleElement))) (conns : MapShConns) : Int × List String × MapShConns :=
  match docRuleMatch with
  | none => (-1, [], conns)
  | some elems => reportRows order clock elems 0 "" conns

end ReportSql
end Simutgw
