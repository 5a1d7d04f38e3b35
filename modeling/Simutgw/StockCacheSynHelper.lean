import Mathlib.Logic.Function.Basic
import Simutgw.Config
import Simutgw.UserStockHelper

/-! The statements that carry a holding to the database. A sync marks the
counters it writes as synchronised and builds an update whose condition repeats
the values last written; a holding that has no row yet is inserted. The tables
stand for what the queued statements find when the writer executes them, in the
order they were queued. -/

namespace Simutgw

namespace StockHelper

inductive StockType where
  | ordinary
  | etf
  deriving DecidableEq, Repr

def getStockType (stockID : String) : Option StockType :=
  if stockID.length ≠ 6 then none
  else if (stockID.take 2).toString ∈ ["15", "16", "18", "50", "51"] then some .etf
  else some .ordinary

/-- The market a code belongs to; empty for a code of neither. -/
def getStockTradeMarket (stockID : String) : String :=
  let head := (stockID.take 3).toString
  let fundHead := (stockID.take 2).toString
  if stockID.length ≠ 6 then ""
  else if head ∈ ["000", "001", "002", "300", "200"] ∨ fundHead ∈ ["15", "16", "18"] then tradeMarketSz
  else if head ∈ ["600", "601", "603", "900"] ∨ fundHead ∈ ["50", "51"] then tradeMarketSh
  else ""

end StockHelper

inductive AssetTable where
  | stockAsset
  | stockEtfAsset
  deriving DecidableEq, Repr

/-- The balance a table keeps that the other has no column for. -/
def AssetTable.part : AssetTable → Bucket
  | .stockAsset => .etfRdp
  | .stockEtfAsset => .crt

/-- The balance columns, each named by the counter it keeps. -/
def AssetTable.balances (table : AssetTable) : List Bucket :=
  [.stk, .actPch, .stpPch, table.part, .avl, .last]

/-- The balances of one row. -/
abbrev AssetRow := Bucket → UInt64

/-- The rows by table, account and security. -/
abbrev AssetDb := AssetTable → String → String → Option AssetRow

def AssetDb.store (db : AssetDb) (table : AssetTable) (account stockID : String) (row : AssetRow) : AssetDb :=
  fun otherTable otherAccount otherStock =>
    if otherTable = table ∧ otherAccount = account ∧ otherStock = stockID then some row
    else db otherTable otherAccount otherStock

/-- The table the holdings of a type are read from. -/
def StockHelper.StockType.table : StockType → AssetTable
  | .ordinary => .stockAsset
  | .etf => .stockEtfAsset

/-- A row as it is read: a column the table does not have reads as zero. -/
def AssetRow.load (table : AssetTable) (row : AssetRow) : UserStockInfo where
  stk := row .stk
  actPch := row .actPch
  stpPch := row .stpPch
  etfRdp := if table.part = .etfRdp then row .etfRdp else 0
  crt := if table.part = .crt then row .crt else 0
  avl := row .avl
  last := row .last

def loadUserStockFromDB (db : AssetDb) : StockDb := fun account stockID =>
  match StockHelper.getStockType stockID with
  | none => none
  | some type => (db type.table account stockID).map (AssetRow.load type.table)

namespace StockCacheSynHelper
open UserStockVolume StockHelper

inductive Column where
  | accountId
  | stockId
  | tradeMarket
  | balance (bucket : Bucket)
  | isClose
  | operTime
  | operator
  deriving DecidableEq, Repr

/-- What stands between the commas of a list of values. -/
inductive Literal where
  | quoted (text : String)
  | market (digits : String)
  | number (value : UInt64)
  | now
  deriving DecidableEq, Repr

/-- `SET .. WHERE ..` and `INSERT INTO .. (..) VALUES(..)`; an update also asks
for the account and the security, and sets the time. -/
inductive Statement where
  | update (table : AssetTable) (account stockID : String) (sets wheres : List (Bucket × UInt64))
  | insert (table : AssetTable) (columns : List Column) (values : List Literal)
  deriving DecidableEq, Repr

def insertColumns (table : AssetTable) : List Column :=
  [.accountId, .stockId, .tradeMarket] ++ table.balances.map .balance ++ [.isClose, .operTime, .operator]

/-- The update the syncs share, of the total, one part and, where it was
synchronised too, the available balance. -/
def updateSql (table : AssetTable) (part : Bucket) (account stockID : String) (synced : Synced) : Statement :=
  .update table account stockID
    ([(.stk, synced.stk.2), (part, synced.first.2)] ++ (synced.avl.map fun avl => (.avl, avl.2)).toList ++
      [(.last, synced.stk.1)])
    ([(.stk, synced.stk.1), (part, synced.first.1)] ++ (synced.avl.map fun avl => (.avl, avl.1)).toList ++
      [(.last, synced.lastOrigin)])

/-- The insert they share; the numbers follow the market. -/
def insertSql (table : AssetTable) (account stockID : String) (numbers : List UInt64) : Statement :=
  let market := getStockTradeMarket stockID
  .insert table (insertColumns table)
    ([.quoted account, .quoted stockID, .market (if market.isEmpty then "0" else market)] ++ numbers.map .number ++
      [.now, .quoted "SYS"])

/-- The statement a sync hands to the writer and the holding it leaves. -/
structure Written where
  sql : Statement
  volume : UserStockVolume

def sellSyn (account stockID : String) (volume : UserStockVolume) : Written :=
  let synced := volume.sellDBSyn
  ⟨updateSql .stockAsset .etfRdp account stockID synced, synced.volume⟩

def sellEtfSyn (account stockID : String) (volume : UserStockVolume) : Written :=
  let synced := volume.sellEtfDBSyn
  ⟨updateSql .stockEtfAsset .crt account stockID synced, synced.volume⟩

def addSyn (account stockID : String) (volume : UserStockVolume) : Written :=
  let synced := volume.addActSyn
  ⟨if volume.stored then updateSql .stockAsset .actPch account stockID synced
    else insertSql .stockAsset account stockID [synced.stk.2, synced.first.2, 0, 0, 0, 0, 0],
    { synced.volume with stored := true }⟩

-- The counter of created shares goes to the column of bought ones.
def addEtfSyn (account stockID : String) (volume : UserStockVolume) : Written :=
  let synced := volume.addEtfSyn
  ⟨if volume.stored then updateSql .stockEtfAsset .actPch account stockID synced
    else insertSql .stockEtfAsset account stockID [synced.stk.2, synced.first.2, 0, 0, 0, 0, 0],
    { synced.volume with stored := true }⟩

def crtEtfSyn (account stockID : String) (volume : UserStockVolume) : Written :=
  let synced := volume.creationEtfDBSyn
  ⟨if volume.stored then updateSql .stockEtfAsset .crt account stockID synced
    else insertSql .stockEtfAsset account stockID [synced.stk.2, 0, 0, synced.first.2, 0, 0, 0],
    { synced.volume with stored := true }⟩

def crtComponentSyn (account stockID : String) (volume : UserStockVolume) : Written :=
  let synced := volume.creationComponentDBSyn
  ⟨updateSql .stockAsset .actPch account stockID synced, synced.volume⟩

def rdpEtfSyn (account stockID : String) (volume : UserStockVolume) : Written :=
  let synced := volume.rdpEtfSyn
  ⟨updateSql .stockEtfAsset .actPch account stockID synced, synced.volume⟩

-- Two zeros stand before the total, and four follow the redeemed shares.
def rdpComponentSyn (account stockID : String) (volume : UserStockVolume) : Written :=
  let synced := volume.addRdpComponentSyn
  ⟨if volume.stored then updateSql .stockAsset .etfRdp account stockID synced
    else insertSql .stockAsset account stockID [0, 0, synced.stk.2, synced.first.2, 0, 0, 0, 0],
    { synced.volume with stored := true }⟩

/-- The number a row of values gives a column. -/
def numberAt (columns : List Column) (values : List Literal) (column : Column) : UInt64 :=
  match (columns.zip values).lookup column with
  | some (.number value) => value
  | _ => 0

def textAt (columns : List Column) (values : List Literal) (column : Column) : String :=
  match (columns.zip values).lookup column with
  | some (.quoted text) => text
  | _ => ""

/-- An update writes nothing unless its row has every value it names; an insert
with more or fewer values than columns is refused. -/
def Statement.execute (db : AssetDb) : Statement → AssetDb
  | .update table account stockID sets wheres =>
    match db table account stockID with
    | none => db
    | some row =>
      if ∀ named ∈ wheres, row named.1 = named.2 then
        db.store table account stockID (sets.foldl (fun row set => Function.update row set.1 set.2) row)
      else db
  | .insert table columns values =>
    if columns.length = values.length then
      db.store table (textAt columns values .accountId) (textAt columns values .stockId)
        fun bucket => numberAt columns values (.balance bucket)
    else db

end StockCacheSynHelper
end Simutgw
