import Simutgw.OrderValide

/-! Shanghai's orders, taken from a table of the exchange's own interface. A poll
selects the rows not yet taken, turns each fetched row into an order that goes to
validation or straight back as refused, and afterwards marks the rows as taken. -/

namespace Simutgw
open SofString TgwStringUtil

/-- A row by the names of its columns. -/
abbrev RowData := String → Option String

/-- A column that is not there reads as the empty text. -/
def RowData.value (data : RowData) (name : String) : String := (data name).getD ""

namespace OTLConn40240

/-- How a column is read: a number through a stream, anything else as text. -/
inductive ColumnType where
  | number
  | text
  deriving DecidableEq, Repr

/-- One column of a row; its reading may throw. -/
structure ColumnRead where
  name : String
  type : ColumnType
  value : Option String

/-- What the library does in one call, up to its first exception. -/
inductive Fetch where
  | eof
  | eofThrows
  | describeThrows
  | row (columns : List ColumnRead)

/-- `std::map::insert`: a name that is there keeps its value. -/
def insert (data : RowData) (name value : String) : RowData := fun other =>
  if other = name then some ((data name).getD value) else data other

/-- The columns from the left, with the text variable they share. A text that
cannot be read leaves that variable as the column before left it; a number that
cannot be read ends the call. -/
def readColumns (strValue : String) (data : RowData) : List ColumnRead → Bool × RowData
  | [] => (true, data)
  | column :: columns =>
    match column.value, column.type with
    | some value, _ => readColumns value (insert data column.name value) columns
    | none, .text => readColumns strValue (insert data column.name strValue) columns
    | none, .number => (false, data)

/-- Zero at the end, one with a row, and -1 after an exception, with the map as it was then. -/
def fetchNextRow (data : RowData) : Fetch → Int × RowData
  | .eof => (0, data)
  | .eofThrows => (-1, data)
  | .describeThrows => (-1, fun _ => none)
  | .row columns =>
    match readColumns "" (fun _ => none) columns with
    | (true, data) => (1, data)
    | (false, data) => (-1, data)

/-- The rows for which the body of `while (FetchNextRow(..))` runs: anything but
zero is a row. Without enough fuel the loop has not ended. -/
def fetchRows (fetches : Nat → Fetch) : Nat → Nat → RowData → Option (List RowData)
  | 0, _, _ => none
  | fuel + 1, call, data =>
    let (code, data) := fetchNextRow data (fetches call)
    if code = 0 then some []
    else (fetchRows fetches fuel (call + 1) data).map (data :: ·)

end OTLConn40240

open OTLConn40240

/-- A row of the table of orders. -/
structure OrdwthRow where
  recNum : String
  date : String := ""
  time : String := ""
  reff : String := ""
  acc : String := ""
  stock : String := ""
  bs : String := ""
  price : String := ""
  qty : String := ""
  owflag : String := ""
  ordrec : String := ""
  firmid : String := ""
  branchid : String := ""
  status : String := "R"
  deriving DecidableEq, Repr

def OrdwthRow.field (row : OrdwthRow) : RowData := fun name =>
  match name with
  | "rec_num" => some row.recNum
  | "date" => some row.date
  | "time" => some row.time
  | "reff" => some row.reff
  | "acc" => some row.acc
  | "stock" => some row.stock
  | "bs" => some row.bs
  | "price" => some row.price
  | "qty" => some row.qty
  | "owflag" => some row.owflag
  | "ordrec" => some row.ordrec
  | "firmid" => some row.firmid
  | "branchid" => some row.branchid
  | "status" => some row.status
  | _ => none

/-- An order with the number of its row and its settling member. -/
structure ShOrder where
  msgSeqNum : String
  confirmID : String
  order : OrderMessage
  deriving DecidableEq, Repr

/-- Where an order goes, under the number it was read with. -/
inductive Handed where
  | validation (order : ShOrder)
  | refusal (order : ShOrder)
  deriving DecidableEq, Repr

def Handed.order : Handed → ShOrder
  | .validation order => order
  | .refusal order => order

/-- What a connection's orders are taken with: its policy, and the search for a
rule by an order's JSON where rules are looked for at all. -/
structure OrdwthSetting where
  session : String
  policy : TradePolicyCell
  orderMatchRule : Option (RowData → TradePolicyCell → TradePolicyCell) := none
  now : Int := 0

namespace ShDbfOrderHelper

/-- The columns an order is made of, under which its JSON has them again; the
status and the binary check code are not among them. -/
def ordwthColumns : List String :=
  ["rec_num", "date", "time", "reff", "acc", "stock", "bs", "price", "qty", "owflag", "ordrec", "firmid", "branchid"]

/-- The order's JSON, which is all that a rule is looked for by. -/
def jsOrder (data : RowData) : RowData := fun name =>
  if name ∈ ordwthColumns then some (data.value name) else none

def shSide (bs : String) : String :=
  if bs = "b" then "B" else if bs = "s" then "S" else bs

/-- One row as an order. A cancel has the two ids the other way round. -/
def shOrder (setting : OrdwthSetting) (data : RowData) : ShOrder :=
  let cancels := data.value "owflag" == "WTH"
  let price := string2UInt64MoneyInLi (data.value "price")
  { msgSeqNum := data.value "rec_num"
    confirmID := data.value "firmid"
    order :=
      { tradePolicy := (setting.orderMatchRule.map fun rule => rule (jsOrder data) setting.policy).getD setting.policy
        rcvTime := setting.now
        clOrdId := if cancels then data.value "ordrec" else data.value "reff"
        accountId := data.value "acc"
        stockID := data.value "stock"
        side := shSide (data.value "bs")
        orderPrice := price
        strOrderPrice := itostr price
        strOrderqtyOrigin := data.value "qty"
        orderqtyOrigin := string2UInt64 (data.value "qty")
        strLeavesQty := data.value "qty"
        ordType := data.value "owflag"
        origClOrdId := if cancels then data.value "reff" else data.value "ordrec"
        marketBranchid := data.value "branchid"
        tradeMarket := tradeMarketSh
        transactTime := data.value "date" ++ "-" ++ data.value "time" ++ ".000"
        sessionId := setting.session
        msgType := if cancels then Step.msgTypeOrderCancel else Step.msgTypeNewOrder } }

/-- Without a rule an order needs a type of trade; without one it is refused here. -/
def handOn (setting : OrdwthSetting) (data : RowData) : Handed :=
  let read := shOrder setting data
  if read.order.tradePolicy.ruleId = 0 then
    match StockOrderHelper.checkOrderTradeType read.order with
    | (0, order) => .validation { read with order }
    | (_, order) => .refusal { read with order := { order with matchType := .errorMatch, dataError := true } }
  else .validation read

end ShDbfOrderHelper

/-- The table, the connection's two numbers, and for the record: what was handed
on, and how many polls came to fetching. -/
structure OrdwthDesk where
  table : List OrdwthRow
  cjbh : UInt64 := 0
  recNum : UInt64 := 0
  handed : List Handed := []
  polled : Nat := 0

/-- What a connection and one query on it answer. -/
structure QueryAnswers where
  connects : Bool := true
  queries : Bool := true
  fetches : Nat → Fetch

/-- What one poll meets: the two numbers' queries, the orders' query, and whether
the updates of the status take effect, of one refused row and of all rows. -/
structure PollAnswers where
  setting : OrdwthSetting
  cjbh : QueryAnswers
  recNum : QueryAnswers
  orders : QueryAnswers
  ordwthStatus : Nat → Bool
  mutilOrdStatus : Bool

namespace OrdwthDesk
open ShDbfOrderHelper

/-- `update .. set status='P' where rec_num in (..)`. -/
def mark (recNums : List String) (table : List OrdwthRow) : List OrdwthRow :=
  table.map fun row => if row.recNum ∈ recNums then { row with status := "P" } else row

/-- The body of the loop for the row fetched by the given call. -/
def takeRow (answers : PollAnswers) (desk : OrdwthDesk) (fetched : RowData × Nat) : OrdwthDesk :=
  let handed := handOn answers.setting fetched.1
  let desk := { desk with
    recNum := if desk.recNum = 0 then string2UInt64 handed.order.msgSeqNum + 1 else desk.recNum
    handed := desk.handed ++ [handed] }
  match handed with
  | .validation _ => desk
  | .refusal order =>
    if answers.ordwthStatus fetched.2 then { desk with table := mark [order.msgSeqNum] desk.table } else desk

/-- The result of the last update is not looked at. -/
def shOrderToFix (answers : PollAnswers) (desk : OrdwthDesk) (rows : List RowData) : OrdwthDesk :=
  let desk := rows.zipIdx.foldl (takeRow answers) { desk with polled := desk.polled + 1 }
  if answers.mutilOrdStatus then
    { desk with table := mark (rows.map fun data => data.value "rec_num") desk.table }
  else desk

/-- A number that is zero is asked for: the last value of its query, or no number. -/
def askNumber (fuel : Nat) (current : UInt64) (column : String) (answers : QueryAnswers) : Option (Option UInt64) :=
  if current ≠ 0 then some (some current)
  else if ! answers.connects || ! answers.queries then some none
  else (fetchRows answers.fetches fuel 0 fun _ => none).map fun rows =>
    some (string2UInt64 ((rows.getLast?.map fun data => data.value column).getD ""))

/-- One poll of the table. -/
def getOneConnSHOrder (fuel : Nat) (answers : PollAnswers) (desk : OrdwthDesk) : Option OrdwthDesk :=
  match askNumber fuel desk.cjbh "cjbh" answers.cjbh with
  | none => none
  | some none => some desk
  | some (some cjbh) =>
    let desk := { desk with cjbh }
    match askNumber fuel desk.recNum "rec_num" answers.recNum with
    | none => none
    | some none => some desk
    | some (some recNum) =>
      let desk := { desk with recNum }
      if ! answers.orders.connects || ! answers.orders.queries then some desk
      else (fetchRows answers.orders.fetches fuel 0 fun _ => none).map (desk.shOrderToFix answers)

end OrdwthDesk
end Simutgw
