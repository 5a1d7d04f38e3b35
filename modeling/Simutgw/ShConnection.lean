import Mathlib.Logic.Function.Basic
import Simutgw.ReportMsg

/-! One Shanghai connection with its two threads. The poll reads where the numbers of
the two written tables stand and then takes orders; the report thread draws the next
number for each row it builds and sends the rows afterwards. Each call on a counter
is a step of its own, for only the call is under the counter's lock. -/

namespace Simutgw
open TgwStringUtil

/-- A counter, and the table whose rows carry its numbers: the trades and the confirmations. -/
inductive Counter where
  | cjbh
  | recNum
  deriving DecidableEq, Repr

structure ShConnection where
  cjbh : UInt64 := 0
  recNum : UInt64 := 0

namespace ShConnection

def get (conn : ShConnection) : Counter → UInt64
  | .cjbh => conn.cjbh
  | .recNum => conn.recNum

def set (conn : ShConnection) (counter : Counter) (num : UInt64) : ShConnection :=
  match counter with
  | .cjbh => { conn with cjbh := num }
  | .recNum => { conn with recNum := num }

def setCjbh (conn : ShConnection) (num : UInt64) : ShConnection := conn.set .cjbh num

def setRecNum (conn : ShConnection) (num : UInt64) : ShConnection := conn.set .recNum num

/-- The counter goes up first, and what it then is was drawn. -/
def inc (conn : ShConnection) (counter : Counter) : ShConnection × UInt64 :=
  (conn.set counter (conn.get counter + 1), conn.get counter + 1)

def incCjbh (conn : ShConnection) : ShConnection × UInt64 := conn.inc .cjbh

def incRecNum (conn : ShConnection) : ShConnection × UInt64 := conn.inc .recNum

@[simp] theorem get_set_self (conn : ShConnection) (counter : Counter) (num : UInt64) :
    (conn.set counter num).get counter = num := by
  cases counter <;> rfl

@[simp] theorem get_set_other (conn : ShConnection) {counter other : Counter} (num : UInt64)
    (differs : other ≠ counter) : (conn.set counter num).get other = conn.get other := by
  cases counter <;> cases other <;> first | rfl | exact absurd rfl differs

end ShConnection

/-- One column of a row that a rule describes: a counter's word alone, or any other
words, with the counters they draw on the way. The others yield a value that reads as
a number in the table, or none, or cannot be resolved. -/
inductive RuleColumn where
  | number (counter : Counter)
  | other (draws : List Counter) (value : Option (Option Nat))

/-- A row of a rule: the column of the row's number between those before and after it. -/
structure RuleRow where
  front : List RuleColumn
  number : RuleColumn
  back : List RuleColumn

/-- The rule's two parts; what is not an object is no row, and what is no list has no rows. -/
structure MatchRuleSh where
  ruleConfirm : Option RuleRow
  ruleMatch : List (Option RuleRow)

/-- A row to be written, under its number if it has one. -/
structure SqlRow where
  table : Counter
  number : Option Nat
  deriving DecidableEq, Repr

/-- What the report thread does for a report: draw the number of the row being built,
take it from the rule, draw a number that goes elsewhere, or finish the row. -/
inductive RowOp where
  | draw (table counter : Counter)
  | value (table : Counter) (number : Option Nat)
  | inc (counter : Counter)
  | push
  deriving DecidableEq, Repr

namespace ReportMsgSh

/-- The cancel's row draws another number for the host's order number. -/
def confirmOps (sessions : String → Bool) (order : OrderMessage) : List RowOp :=
  if ¬ timed order ∨ ¬ sessions order.sessionId then []
  else if (fixToSHConfirm sessions order).fields.isSome then
    .draw .recNum .recNum ::
      (if order.ordStatus = Step.ordStatusCancel then [.inc .recNum, .push] else [.push])
  else [.draw .recNum .recNum]

def reportOps (sessions : String → Bool) (order : OrderMessage) : List RowOp :=
  if ¬ timed order ∨ ¬ sessions order.sessionId then [] else [.draw .cjbh .cjbh, .push]

/-- The columns in order, up to the first that cannot be resolved. -/
def columnOps : List RuleColumn → List RowOp × Bool
  | [] => ([], true)
  | .number counter :: columns => (.inc counter :: (columnOps columns).1, (columnOps columns).2)
  | .other draws (some _) :: columns => (draws.map .inc ++ (columnOps columns).1, (columnOps columns).2)
  | .other draws none :: _ => (draws.map .inc, false)

def numberOps (table : Counter) : RuleColumn → List RowOp × Bool
  | .number counter => ([.draw table counter], true)
  | .other draws (some number) => (draws.map .inc ++ [.value table number], true)
  | .other draws none => (draws.map .inc, false)

def rowOps (table : Counter) (row : RuleRow) : List RowOp × Bool :=
  match columnOps row.front with
  | (front, false) => (front, false)
  | (front, true) =>
    match numberOps table row.number with
    | (number, false) => (front ++ number, false)
    | (number, true) =>
      match columnOps row.back with
      | (back, false) => (front ++ number ++ back, false)
      | (back, true) => (front ++ number ++ back ++ [.push], true)

/-- Rows built before one that fails are sent all the same. -/
def ruleOps (table : Counter) : List (Option RuleRow) → List RowOp
  | [] => []
  | none :: _ => []
  | some row :: rows =>
    match rowOps table row with
    | (ops, true) => ops ++ ruleOps table rows
    | (ops, false) => ops

/-- What `Get_SHReport` does to the counters and the rows for one popped order. -/
def orderOps (sessions : String → Bool) (rule : MatchRuleSh) (order : OrderMessage) : List RowOp :=
  let ruled (withRule without : List RowOp) : List RowOp :=
    if ¬ order.isSh then []
    else if order.tradePolicy.ruleId = 0 then without
    else if order.tradePolicy.ruleSh then withRule
    else []
  match order.matchType with
  | .matchAll | .matchPart => ruled (ruleOps .cjbh rule.ruleMatch) (reportOps sessions order)
  | .cancelMatch =>
    if order.msgType = Step.msgTypeExecReport ∨ order.msgType = Step.msgTypeCancelReject then
      confirmOps sessions order
    else []
  | .errorMatch => if order.msgType = Step.msgTypeNewOrder then confirmOps sessions order else []
  | .notMatch => ruled (ruleOps .recNum [rule.ruleConfirm]) (confirmOps sessions order)
  | .outOfRange | .stopTrans => []

end ReportMsgSh

namespace ShConnection

/-- Where the poll stands: before the look at a counter, before its query, with a number
to set; then before the orders' query, among their rows, before the look for a row whose
number follows, and with that number to set. -/
inductive PollPoint where
  | look (counter : Counter)
  | query (counter : Counter)
  | set (counter : Counter) (num : UInt64)
  | orders
  | rows
  | row (num : UInt64)
  | first (num : UInt64)
  deriving DecidableEq, Repr

/-- Where the report thread stands: building rows, with what is left of one report and
the number of the row in hand, or sending them. -/
inductive ReportPoint where
  | build (work : List RowOp) (inHand : Option SqlRow)
  | send
  deriving DecidableEq, Repr

/-- The connection, what its two tables were found with and what was written to them
since, the rows not yet sent, both threads, and whether an order was handed on. -/
structure Threads where
  conn : ShConnection := {}
  found : Counter → List Nat
  written : Counter → List Nat := fun _ => []
  unsent : List SqlRow := []
  poll : PollPoint := .look .cjbh
  report : ReportPoint := .build [] none
  handed : Bool := false

/-- A query that fails ends the poll; otherwise the text is the last row's, or empty.
A row fetched in the loop has a text of its number, and the loop's end has none. -/
inductive Event where
  | look
  | query (text : Option String)
  | set
  | orders (answered : Bool)
  | fetch (recNum : Option String)
  | report (rule : MatchRuleSh) (order : OrderMessage)
  | op
  | send (connects : Bool)
  | exec (done : Bool)
  | sent

namespace Threads

/-- The first thing of a poll, and what follows a counter that is set. -/
def polled : PollPoint := .look .cjbh

def past : Counter → PollPoint
  | .cjbh => .look .recNum
  | .recNum => .orders

def look (threads : Threads) : Option Threads :=
  match threads.poll with
  | .look counter =>
    some { threads with poll := if threads.conn.get counter = 0 then .query counter else past counter }
  | .row num =>
    if threads.conn.recNum = 0 then some { threads with poll := .first num }
    else some { threads with poll := .rows, handed := true }
  | _ => none

def query (threads : Threads) (text : Option String) : Option Threads :=
  match threads.poll, text with
  | .query _, none => some { threads with poll := polled }
  | .query counter, some text => some { threads with poll := .set counter (string2UInt64 text) }
  | _, _ => none

def set (threads : Threads) : Option Threads :=
  match threads.poll with
  | .set counter num => some { threads with conn := threads.conn.set counter num, poll := past counter }
  | .first num => some { threads with conn := threads.conn.setRecNum num, poll := .rows, handed := true }
  | _ => none

def orders (threads : Threads) (answered : Bool) : Option Threads :=
  match threads.poll with
  | .orders => some { threads with poll := if answered then .rows else polled }
  | _ => none

def fetch (threads : Threads) (recNum : Option String) : Option Threads :=
  match threads.poll, recNum with
  | .rows, some text => some { threads with poll := .row (string2UInt64 text + 1) }
  | .rows, none => some { threads with poll := polled }
  | _, _ => none

/-- A report is of an order that was handed on. -/
def takeReport (sessions : String → Bool) (rule : MatchRuleSh) (order : OrderMessage)
    (threads : Threads) : Option Threads :=
  match threads.report with
  | .build [] _ =>
    if threads.handed then
      some { threads with report := .build (ReportMsgSh.orderOps sessions rule order) none }
    else none
  | _ => none

def op (threads : Threads) : Option Threads :=
  match threads.report with
  | .build (.draw table counter :: work) _ =>
    let (conn, num) := threads.conn.inc counter
    some { threads with conn, report := .build work (some ⟨table, some num.toNat⟩) }
  | .build (.value table number :: work) _ =>
    some { threads with report := .build work (some ⟨table, number⟩) }
  | .build (.inc counter :: work) inHand =>
    some { threads with conn := (threads.conn.inc counter).1, report := .build work inHand }
  | .build (.push :: work) inHand =>
    some { threads with unsent := threads.unsent ++ inHand.toList, report := .build work none }
  | _ => none

/-- Without a connection the rows are dropped. -/
def send (threads : Threads) (connects : Bool) : Option Threads :=
  match threads.report with
  | .build [] _ =>
    if connects then some { threads with report := .send }
    else some { threads with unsent := [], report := .build [] none }
  | _ => none

def write (written : Counter → List Nat) (row : SqlRow) : Counter → List Nat := fun table =>
  if table = row.table then written table ++ row.number.toList else written table

/-- A failed insertion is logged. -/
def exec (threads : Threads) (done : Bool) : Option Threads :=
  match threads.report, threads.unsent with
  | .send, row :: rows =>
    some { threads with unsent := rows, written := if done then write threads.written row else threads.written }
  | _, _ => none

def sent (threads : Threads) : Option Threads :=
  match threads.report, threads.unsent with
  | .send, [] => some { threads with report := .build [] none }
  | _, _ => none

def step (sessions : String → Bool) (threads : Threads) : Event → Option Threads
  | .look => threads.look
  | .query text => threads.query text
  | .set => threads.set
  | .orders answered => threads.orders answered
  | .fetch recNum => threads.fetch recNum
  | .report rule order => threads.takeReport sessions rule order
  | .op => threads.op
  | .send connects => threads.send connects
  | .exec done => threads.exec done
  | .sent => threads.sent

end Threads
end ShConnection
end Simutgw
