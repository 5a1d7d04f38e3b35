import Simutgw.SofString
import Simutgw.TgwStringUtil

/-! The end of the day for the two tables of holdings. What a holding has in its buckets
becomes available; rows of which this is already true are left out. -/

namespace Simutgw.Settlement
open SofString TgwStringUtil

/-- A fetched row: the text under a column's name, empty under a name that was not selected. -/
abbrev DataRow := String → String

structure StockRecord where
  id : String
  stockBalance : UInt64
  actBalance : UInt64
  stpBalance : UInt64
  rdpBalance : UInt64
  crtBalance : UInt64
  avlBalance : UInt64
  deriving DecidableEq, Repr

inductive AssetTable where
  | stockAsset
  | stockEtfAsset
  deriving DecidableEq, Repr

/-- The bucket that only this table has. -/
def AssetTable.bucket : AssetTable → String
  | .stockAsset => "stock_etf_redemption_balance"
  | .stockEtfAsset => "stock_creation_balance"

/-- A row of one of the tables; `ownBalance` is the bucket that the other one lacks. -/
structure AssetRow where
  id : String
  stockBalance : UInt64
  auctionPurchaseBalance : UInt64
  staplePurchaseBalance : UInt64
  ownBalance : UInt64
  available : UInt64
  deriving DecidableEq, Repr

/-- The columns that the table's query asks for. -/
def AssetRow.select (table : AssetTable) (row : AssetRow) : DataRow := fun column =>
  if column = "id" then row.id
  else if column = "stock_balance" then itostr row.stockBalance
  else if column = "stock_auction_purchase_balance" then itostr row.auctionPurchaseBalance
  else if column = "stock_staple_purchase_balance" then itostr row.staplePurchaseBalance
  else if column = table.bucket then itostr row.ownBalance
  else if column = "stock_available" then itostr row.available
  else ""

def readRecord (row : DataRow) : StockRecord where
  id := row "id"
  stockBalance := string2UInt64 (row "stock_balance")
  actBalance := string2UInt64 (row "stock_auction_purchase_balance")
  stpBalance := string2UInt64 (row "stock_staple_purchase_balance")
  rdpBalance := string2UInt64 (row "stock_etf_redemption_balance")
  crtBalance := string2UInt64 (row "stock_creation_balance")
  avlBalance := string2UInt64 (row "stock_available")

/-- The test for a record that is left out. -/
def StockRecord.isSettled (record : StockRecord) : Bool :=
  record.stockBalance = record.avlBalance ∧ record.actBalance = 0 ∧ record.stpBalance = 0 ∧
    record.rdpBalance = 0 ∧ record.crtBalance = 0

/-- `none` is a query that did not come back with rows. -/
def getStock : Option (List DataRow) → Int × List StockRecord
  | none => (-2, [])
  | some rows => (0, (rows.map readRecord).filter fun record => !record.isSettled)

/-- The body of the two updates: the sum of the table's buckets is written under the
record's key, where balance and available are still what was read. -/
def updateWith (own : StockRecord → UInt64) (rows : List AssetRow) (record : StockRecord) : Int × List AssetRow :=
  let sum := record.actBalance + record.stpBalance + own record + record.avlBalance
  let found (row : AssetRow) : Bool :=
    row.id = record.id ∧ row.stockBalance = record.stockBalance ∧ row.available = record.avlBalance
  let rows' := rows.map fun row =>
    if found row then
      { row with
        stockBalance := sum, available := sum
        auctionPurchaseBalance := 0, staplePurchaseBalance := 0, ownBalance := 0 }
    else row
  (if (rows.filter found).length = 1 then 0 else -1, rows')

def updateStockAsset := updateWith StockRecord.rdpBalance
def updateStockEtfAsset := updateWith StockRecord.crtBalance

/-- The body of the two settlements. What becomes of an update is not looked at. -/
def settleWith (update : List AssetRow → StockRecord → Int × List AssetRow) (answer : Option (List DataRow))
    (rows : List AssetRow) : Int × List AssetRow :=
  match getStock answer with
  | (code, records) =>
    if 0 > code then (-1, rows)
    else (0, records.foldl (fun rows record => (update rows record).2) rows)

def stockAssetSettle := settleWith updateStockAsset
def stockEtfAssetSettle := settleWith updateStockEtfAsset

/-- The settlement of either table. -/
def AssetTable.settle : AssetTable → Option (List DataRow) → List AssetRow → Int × List AssetRow
  | .stockAsset => stockAssetSettle
  | .stockEtfAsset => stockEtfAssetSettle

end Simutgw.Settlement
