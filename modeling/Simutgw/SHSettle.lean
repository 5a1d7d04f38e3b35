import Simutgw.Config
import Simutgw.Logic.Hash

/-! Shanghai's settlement files. The matches of the day are read from the database,
gathered by seat or account and appended to a file of their settlement group. -/

namespace Simutgw
open Logic

/-- A row of a query's answer: the text under each of its columns. -/
abbrev Row := Hash String String

/-- A value of a settlement record. A number is what the library makes of its text,
money with this many decimals. -/
inductive Cell where
  | text (value : String)
  | long (text : String)
  | double (text : String)
  | money (text : String) (decimals : Nat)
  deriving DecidableEq, Repr

abbrev Record := List (String × Cell)

/-- The settlement files by name. -/
abbrev Files := Hash String (List Record)

/-- What the file library makes of a file's name, and whether a record's values fit its fields. -/
structure DbfLibrary where
  creates : String → Bool
  opens : String → Bool
  takes : Record → Bool

/-- The writer of one file, with all files there are. -/
structure TgwDBFOperHelper where
  files : Files
  filePath : String := ""
  isOpen : Bool := false

namespace TgwDBFOperHelper

def create (library : DbfLibrary) (helper : TgwDBFOperHelper) (fileName : String) : Int × TgwDBFOperHelper :=
  if fileName.isEmpty || ! library.creates fileName then (-1, helper)
  else (0, { helper with files := Function.update helper.files fileName (some []), filePath := fileName })

def «open» (library : DbfLibrary) (helper : TgwDBFOperHelper) (fileName : String) : Int × TgwDBFOperHelper :=
  if fileName.isEmpty || (helper.files fileName).isNone || ! library.opens fileName then (-1, helper)
  else (0, { helper with filePath := fileName, isOpen := true })

def close (helper : TgwDBFOperHelper) : TgwDBFOperHelper := { helper with isOpen := false }

def add (helper : TgwDBFOperHelper) (record : Record) : TgwDBFOperHelper :=
  { helper with
    files := Function.update helper.files helper.filePath
      (some ((helper.files helper.filePath).getD [] ++ [record])) }

/-- A record is added blank and filled then. -/
def append (library : DbfLibrary) (helper : TgwDBFOperHelper) (record : Record) : Int × TgwDBFOperHelper :=
  if ! helper.isOpen then (-1, helper)
  else if library.takes record then (0, helper.add record)
  else (-1, helper.add [])

end TgwDBFOperHelper

namespace SHSettle

/-- A part of a text, which throws where it starts behind the text's end. -/
def substr (text : String) (pos len : Nat) : Option String :=
  if pos ≤ text.length then some (String.ofList ((text.toList.drop pos).take len)) else none

/-- One field of a record from one column of the row, left out where the row lacks it. -/
def field (row : Row) (name column : String) (cell : String → Option Cell) : Option Record :=
  match row column with
  | none => some []
  | some value => (cell value).map fun cell => [(name, cell)]

def textField (row : Row) (name column : String) : Option Record :=
  field row name column fun value => some (.text value)

/-- The side is read where the order's number was found. -/
def dbfValueGh (row : Row) : Option Record :=
  ([textField row "Gddm" "security_account",
    some [("Gdxm", .text "        ")],
    field row "Bcrq" "trade_time_trans" fun time => (substr time 0 8).map .text,
    field row "Cjbh" "id" fun id => some (.long id),
    textField row "Gsdm" "security_seat",
    field row "Cjsl" "match_qty" fun qty => some (.long qty),
    some [("Bcye", .long "0")],
    textField row "zqdm" "securityid",
    field row "sbsj" "order_time_trans" fun time => (substr time 8 6).map .text,
    field row "cjsj" "trade_time_trans" fun time => (substr time 8 6).map .text,
    field row "cjjg" "match_price" fun price => some (.money price 3),
    field row "cjje" "match_amount" fun amount => some (.money amount 2),
    textField row "sqbh" "clordid",
    field row "bs" "clordid" fun _ => (row "side").map .text,
    some [("mjbh", .text "simu ")]].mapM id).map List.flatten

/-- Sales count negative. The value is negative on both spellings of the side, the
volume on one. -/
def dbfValueBc1 (settleDate : String → Option String) (row : Row) : Option Record :=
  let volume (qty : String) : Option Cell :=
    (row "side").map fun side => .double ((if side = Step.sideSell2 then "-" else "") ++ qty)
  let tradeVal (amount : String) : Option Cell :=
    (row "side").map fun side =>
      .money ((if side = Step.sideSellS ∨ side = Step.sideSell2 then "-" else "") ++ amount) 2
  ([textField row "SSCCRC_ID" "id",
    textField row "SSE_ORDER" "clordid",
    textField row "SSE_REF" "orderid",
    textField row "INV_CODE" "security_account",
    textField row "SEC_CODE" "securityid",
    field row "TRADE_DATE" "trade_time_trans" fun time => (substr time 0 8).map .text,
    textField row "BS" "side",
    field row "PRICE" "match_price" fun price => some (.money price 3),
    field row "VOLUME" "match_qty" volume,
    field row "TRADE_VAL" "match_amount" tradeVal,
    field row "ORDER_TIME" "order_time_trans" fun time => (substr time 8 6).map .text,
    field row "TRADE_TIME" "trade_time_trans" fun time => (substr time 8 6).map .text,
    textField row "SEAT_ID" "security_seat",
    textField row "CP_ORDER" "clordid",
    field row "SETTLEDATE" "order_time_trans" fun time => ((substr time 0 8).bind settleDate).map .text,
    some [("STAMP_DUTY", .double "0"), ("SSE_CHARGE", .double "0"), ("TRANSF_FEE", .double "0"),
      ("CLEAR_FEE", .double "0"), ("OTHER_FEE", .double "0"), ("TOTAL_FEE", .double "0")],
    match row "match_amount" with
    | some amount => (tradeVal amount).map fun cell => [("SETTLE_AMT", cell)]
    | none => some [("TRADE_VAL", .text ""), ("SETTLE_AMT", .text "")]].mapM id).map List.flatten

/-- What tells the two files apart. -/
structure Settlement where
  tradeTypes : String
  keyColumn : String
  filePrefix : String
  value : Row → Option Record

def gh : Settlement where
  tradeTypes := "AND (trade_type=1 OR trade_type=3 OR trade_type=4) ORDER BY trade_time ASC"
  keyColumn := "security_seat"
  filePrefix := "gh_"
  value := dbfValueGh

def bc1 (settleDate : String → Option String) : Settlement where
  tradeTypes := "AND trade_type=2 ORDER BY trade_time ASC"
  keyColumn := "security_account"
  filePrefix := "bc1_"
  value := dbfValueBc1 settleDate

/-- One run's own data: the settlement group, its directory and the day. -/
structure Day where
  settleGroupName : String
  filePath : String
  now : String

def Settlement.query (settlement : Settlement) (day : Day) : String :=
  "SELECT *,DATE_FORMAT(\x60trade_time\x60,'%Y%m%d%H%i%s') AS trade_time_trans, " ++
    "DATE_FORMAT(\x60order_time\x60,'%Y%m%d%H%i%s') AS order_time_trans " ++
    "FROM \x60order_match\x60 WHERE trade_market=101 AND " ++
    (if day.settleGroupName.isEmpty then "\x60settle_group\x60 IS NULL "
      else "\x60settle_group\x60=\"" ++ day.settleGroupName ++ "\" ") ++
    settlement.tradeTypes

def Settlement.fileName (settlement : Settlement) (day : Day) : String :=
  day.filePath ++ "/" ++ (if day.settleGroupName.isEmpty then "" else day.settleGroupName ++ "_") ++
    settlement.filePrefix ++ day.now ++ ".dbf"

/-- A row under its seat, the seats in their texts' order. -/
def pushSeat (seats : List (String × List Row)) (key : String) (row : Row) : List (String × List Row) :=
  match seats with
  | [] => [(key, [row])]
  | (seat, rows) :: rest =>
    if key = seat then (seat, rows ++ [row]) :: rest
    else if key < seat then (key, [row]) :: (seat, rows) :: rest
    else (seat, rows) :: pushSeat rest key row

/-- The rows by seat. A row that lacks the column is logged and left out. -/
def readSeats (keyColumn : String) (rows : List Row) : List (String × List Row) :=
  rows.foldl (fun seats row =>
    match row keyColumn with
    | some key => pushSeat seats key row
    | none => seats) []

def appendRows (library : DbfLibrary) (value : Row → Option Record) (writer : TgwDBFOperHelper) :
    List Row → Int × TgwDBFOperHelper
  | [] => (0, writer)
  | row :: rows =>
    match value row with
    | none => (-1, writer)
    | some record =>
      let (code, writer) := writer.append library record
      if code ≠ 0 then (-1, writer) else appendRows library value writer rows

/-- The loop over the seats. The file is closed behind each. -/
def writeSeats (library : DbfLibrary) (value : Row → Option Record) (writer : TgwDBFOperHelper) :
    List (String × List Row) → Int × TgwDBFOperHelper
  | [] => (0, writer)
  | (_, rows) :: seats =>
    let (code, writer) := appendRows library value writer rows
    if code ≠ 0 then (-1, writer) else writeSeats library value writer.close seats

/-- A file that exists is opened as it is. -/
def openFile (library : DbfLibrary) (writer : TgwDBFOperHelper) (fileName : String) : Int × TgwDBFOperHelper :=
  let (code, writer) := if (writer.files fileName).isNone then writer.create library fileName else (0, writer)
  if code ≠ 0 then (-1, writer) else writer.open library fileName

/-- One run: its code, and the files as it leaves them. -/
def gen (settlement : Settlement) (database : String → Option (List Row)) (library : DbfLibrary) (day : Day)
    (files : Files) : Int × Files :=
  match database (settlement.query day) with
  | none => (-1, files)
  | some rows =>
    match readSeats settlement.keyColumn rows with
    | [] => (0, files)
    | seats =>
      let (code, writer) := openFile library { files } (settlement.fileName day)
      if code ≠ 0 then (-1, writer.files)
      else
        let (code, writer) := writeSeats library settlement.value writer seats
        (code, writer.files)

def genGh := gen gh

def genBc1 (settleDate : String → Option String) := gen (bc1 settleDate)

end SHSettle
end Simutgw
