import Mathlib.Data.List.Forall2
import Simutgw.Settlement
import Simutgw.Proofs.DecimalText

/-! The settlement of the two tables of holdings. Every row is read and written by
itself, so a table is settled when each of its rows is; and a row is, unless its balance
is beyond the signed words that the reader of the columns knows. -/

namespace Simutgw.Proofs.AssetSettlement
open Settlement SofString TgwStringUtil DecimalText

/-- The shares in a row's buckets. -/
def total (row : AssetRow) : Nat :=
  row.auctionPurchaseBalance.toNat + row.staplePurchaseBalance.toNat + row.ownBalance.toNat + row.available.toNat

/-- All of the row's balance is available, and no other bucket has any. -/
structure Settled (row : AssetRow) : Prop where
  available : row.available = row.stockBalance
  auctionPurchase : row.auctionPurchaseBalance = 0
  staplePurchase : row.staplePurchaseBalance = 0
  own : row.ownBalance = 0

/-- A table by its key, whose rows' balances are the sums of their buckets. -/
structure Books (rows : List AssetRow) : Prop where
  keys : (rows.map AssetRow.id).Nodup
  sums : ∀ row ∈ rows, total row = row.stockBalance.toNat

/-- A row after the day's end: settled, with the shares it had. -/
structure Cleared (before after : AssetRow) : Prop where
  same : after.id = before.id
  settled : Settled after
  shares : total after = total before

def queried (table : AssetTable) (rows : List AssetRow) : Option (List DataRow) := some (rows.map (·.select table))

/-- Every row is cleared, and the next day's end finds none to clear. -/
structure Lawful (table : AssetTable) (rows : List AssetRow) : Prop where
  each : List.Forall₂ Cleared rows (table.settle (queried table rows) rows).2
  again : getStock (queried table (table.settle (queried table rows) rows).2) = (0, [])

section Records

variable {table : AssetTable} {row : AssetRow} {record : StockRecord} {rows : List AssetRow}

/-- A word as the reader of a column gets it. -/
def readBack (value : UInt64) : UInt64 := string2UInt64 (itostr value)

theorem readBack_toNat (value : UInt64) : (readBack value).toNat = min value.toNat (2 ^ 63 - 1) :=
  string2UInt64_itostr_min value

theorem readBack_eq_zero_iff {value : UInt64} : readBack value = 0 ↔ value = 0 := by
  rw [← UInt64.toNat_inj, ← UInt64.toNat_inj, readBack_toNat, UInt64.toNat_zero]
  omega

/-- The field of a record that the table's own bucket is read into. -/
def own : AssetTable → StockRecord → UInt64
  | .stockAsset => StockRecord.rdpBalance
  | .stockEtfAsset => StockRecord.crtBalance

theorem settle_eq (table : AssetTable) : table.settle = settleWith (updateWith (own table)) := by
  cases table <;> rfl

structure Read (table : AssetTable) (row : AssetRow) (record : StockRecord) : Prop where
  id : record.id = row.id
  stockBalance : record.stockBalance = readBack row.stockBalance
  act : record.actBalance = readBack row.auctionPurchaseBalance
  stp : record.stpBalance = readBack row.staplePurchaseBalance
  avl : record.avlBalance = readBack row.available
  own : own table record = readBack row.ownBalance
  other : record.rdpBalance = 0 ∧ record.crtBalance = 0 ↔ readBack row.ownBalance = 0

theorem readRecord_read (table : AssetTable) (row : AssetRow) : Read table row (readRecord (row.select table)) := by
  have empty : string2UInt64 "" = 0 := rfl
  cases table with
  | stockAsset =>
    refine ⟨rfl, rfl, rfl, rfl, rfl, rfl, ?_⟩
    exact and_iff_left empty
  | stockEtfAsset =>
    refine ⟨rfl, rfl, rfl, rfl, rfl, rfl, ?_⟩
    exact and_iff_right empty

theorem Read.isSettled_iff (read : Read table row record) :
    record.isSettled = true ↔ readBack row.stockBalance = readBack row.available ∧
      row.auctionPurchaseBalance = 0 ∧ row.staplePurchaseBalance = 0 ∧ row.ownBalance = 0 := by
  unfold StockRecord.isSettled
  rw [decide_eq_true_eq, read.other, read.stockBalance, read.avl, read.act, read.stp]
  simp only [readBack_eq_zero_iff]

theorem Read.of_settled (read : Read table row record) (settled : Settled row) : record.isSettled = true := by
  rw [read.isSettled_iff, settled.available]
  exact ⟨rfl, settled.auctionPurchase, settled.staplePurchase, settled.own⟩

theorem getStock_settled (settled : ∀ row ∈ rows, Settled row) : getStock (queried table rows) = (0, []) := by
  unfold getStock queried
  simp only [Prod.mk.injEq, true_and, List.filter_eq_nil_iff, List.map_map, List.mem_map]
  rintro _ ⟨row, member, rfl⟩
  have left := (readRecord_read table row).of_settled (settled row member)
  simp [left]

end Records

section Writes

variable {table : AssetTable} {row : AssetRow} {record : StockRecord} {rows : List AssetRow} {records : List StockRecord}

def write (own : StockRecord → UInt64) (row : AssetRow) (record : StockRecord) : AssetRow :=
  if row.id = record.id ∧ row.stockBalance = record.stockBalance ∧ row.available = record.avlBalance then
    let sum := record.actBalance + record.stpBalance + own record + record.avlBalance
    { row with
      stockBalance := sum, available := sum
      auctionPurchaseBalance := 0, staplePurchaseBalance := 0, ownBalance := 0 }
  else row

theorem updateWith_rows (own : StockRecord → UInt64) (rows : List AssetRow) (record : StockRecord) :
    (updateWith own rows record).2 = rows.map (write own · record) := by
  simp [updateWith, write]

theorem updates_rows (own : StockRecord → UInt64) (rows : List AssetRow) (records : List StockRecord) :
    records.foldl (fun rows record => (updateWith own rows record).2) rows =
      rows.map fun row => records.foldl (write own) row := by
  induction records generalizing rows with
  | nil => exact (List.map_id' rows).symm
  | cons record records ih =>
    rw [List.foldl_cons, ih, updateWith_rows, List.map_map]
    rfl

theorem write_id (own : StockRecord → UInt64) (row : AssetRow) (record : StockRecord) :
    (write own row record).id = row.id := by
  unfold write
  split <;> rfl

theorem writes_other {own : StockRecord → UInt64} (others : ∀ record ∈ records, record.id ≠ row.id) :
    records.foldl (write own) row = row := by
  induction records with
  | nil => rfl
  | cons record records ih =>
    obtain ⟨here, rest⟩ := List.forall_mem_cons.mp others
    have same : write own row record = row := if_neg fun found => here found.1.symm
    rw [List.foldl_cons, same, ih rest]

/-- What the table's records do to one of its rows: its own record is written to it,
unless it has none. -/
theorem writes_row {own : StockRecord → UInt64} (keys : (rows.map AssetRow.id).Nodup) (member : row ∈ rows) :
    (((rows.map (·.select table)).map readRecord).filter fun record => !record.isSettled).foldl (write own) row =
      if (readRecord (row.select table)).isSettled = true then row
      else write own row (readRecord (row.select table)) := by
  have id (row : AssetRow) : (readRecord (row.select table)).id = row.id := (readRecord_read table row).id
  obtain ⟨front, back, rfl⟩ := List.append_of_mem member
  rw [List.map_append, List.nodup_append] at keys
  obtain ⟨-, keys, across⟩ := keys
  rw [List.map_cons, List.nodup_cons] at keys
  have apart {others : List AssetRow} (different : ∀ other ∈ others, other.id ≠ row.id) :
      ∀ record ∈ ((others.map (·.select table)).map readRecord).filter fun record => !record.isSettled,
        record.id ≠ row.id := by
    intro record found
    rw [List.map_map] at found
    obtain ⟨other, own, rfl⟩ := List.mem_map.mp (List.mem_filter.mp found).1
    exact (id other).trans_ne (different other own)
  have before := apart fun other found =>
    across other.id (List.mem_map_of_mem found) row.id (by simp)
  have after := apart fun other found same => keys.1 (same ▸ List.mem_map_of_mem found)
  rw [List.map_append, List.map_append, List.filter_append, List.foldl_append, writes_other before, List.map_cons,
    List.map_cons, List.filter_cons]
  by_cases settled : (readRecord (row.select table)).isSettled = true
  · rw [if_pos settled, settled, if_neg (by decide), writes_other after]
  · rw [if_neg settled, if_pos (by simpa using settled), List.foldl_cons]
    apply writes_other
    intro record found
    rw [write_id]
    exact after record found

theorem settle_rows (keys : (rows.map AssetRow.id).Nodup) :
    (table.settle (queried table rows) rows).2 = rows.map fun row =>
      if (readRecord (row.select table)).isSettled = true then row
      else write (own table) row (readRecord (row.select table)) := by
  rw [settle_eq, settleWith, queried, getStock]
  simp only [gt_iff_lt, Int.lt_irrefl, if_false]
  rw [updates_rows]
  apply List.map_congr_left
  intro row member
  exact writes_row keys member

end Writes

section Days

variable {table : AssetTable} {row : AssetRow} {rows : List AssetRow}

/-- The row is settled as it is, or its balance is one the reader knows. -/
def Readable (row : AssetRow) : Prop := Settled row ∨ row.stockBalance.toNat < 2 ^ 63

theorem readBack_small {value : UInt64} (small : value.toNat < 2 ^ 63) : readBack value = value :=
  string2UInt64_itostr small

theorem row_cleared_iff (sums : total row = row.stockBalance.toNat) :
    Cleared row (if (readRecord (row.select table)).isSettled = true then row
      else write (own table) row (readRecord (row.select table))) ↔ Readable row := by
  have read := readRecord_read table row
  by_cases settled : Settled row
  · rw [if_pos (read.of_settled settled)]
    exact iff_of_true ⟨rfl, settled, rfl⟩ (.inl settled)
  · by_cases small : row.stockBalance.toNat < 2 ^ 63
    · refine iff_of_true ?_ (.inr small)
      unfold total at sums
      have balance := readBack_small small
      have available := @readBack_small row.available (by omega)
      have act := @readBack_small row.auctionPurchaseBalance (by omega)
      have stp := @readBack_small row.staplePurchaseBalance (by omega)
      have ownBalance := @readBack_small row.ownBalance (by omega)
      have unsettled : ¬ (readRecord (row.select table)).isSettled = true := by
        rw [read.isSettled_iff, balance, available]
        rintro ⟨same, act, stp, own⟩
        exact settled ⟨same.symm, act, stp, own⟩
      have found : row.id = (readRecord (row.select table)).id ∧
          row.stockBalance = (readRecord (row.select table)).stockBalance ∧
          row.available = (readRecord (row.select table)).avlBalance := by
        rw [read.id, read.stockBalance, read.avl, balance, available]
        exact ⟨rfl, rfl, rfl⟩
      rw [if_neg unsettled, write, if_pos found, read.act, read.stp, read.own, read.avl, act, stp, ownBalance, available]
      refine ⟨rfl, ⟨rfl, rfl, rfl, rfl⟩, ?_⟩
      have bound := row.stockBalance.toNat_lt
      simp only [total, UInt64.toNat_zero, UInt64.toNat_add]
      omega
    · refine iff_of_false ?_ (fun readable => readable.elim settled small)
      have unmatched : write (own table) row (readRecord (row.select table)) = row := by
        apply if_neg
        rintro ⟨-, same, -⟩
        have word := congrArg UInt64.toNat same
        rw [read.stockBalance, readBack_toNat] at word
        omega
      rw [unmatched, ite_self]
      exact fun cleared => settled cleared.settled

/-- The day's end settles a table for good exactly where all its rows are readable. -/
theorem settlement_lawful_iff (table : AssetTable) (books : Books rows) :
    Lawful table rows ↔ ∀ row ∈ rows, Readable row := by
  have each : List.Forall₂ Cleared rows (table.settle (queried table rows) rows).2 ↔ ∀ row ∈ rows, Readable row := by
    rw [settle_rows books.keys, List.forall₂_map_right_iff, List.forall₂_same]
    exact forall₂_congr fun row member => row_cleared_iff (books.sums row member)
  constructor
  · intro lawful
    exact each.mp lawful.each
  · intro readable
    refine ⟨each.mpr readable, getStock_settled fun row member => ?_⟩
    rw [settle_rows books.keys] at member
    obtain ⟨before, own, rfl⟩ := List.mem_map.mp member
    exact ((row_cleared_iff (books.sums before own)).mpr (readable before own)).settled

/-- A row of which half was bought today. -/
def halfBought (half : UInt64) : AssetRow where
  id := "1"
  stockBalance := half + half
  auctionPurchaseBalance := half
  staplePurchaseBalance := 0
  ownBalance := 0
  available := half

theorem settlement_lawful_hundred : Lawful .stockAsset [halfBought 50] := by
  apply (settlement_lawful_iff .stockAsset ⟨by decide, by decide⟩).mpr
  intro row member
  rw [List.mem_singleton.mp member]
  exact .inr (by decide)

/-- A balance of 2^63 stays as it was, and is selected again. -/
theorem large_balance_stays : ¬ ∀ (table : AssetTable) (rows : List AssetRow), Books rows → Lawful table rows := by
  intro lawful
  have cleared := (lawful .stockAsset [halfBought 4611686018427387904] ⟨by decide, by decide⟩).each
  rw [settle_rows (by decide), List.forall₂_map_right_iff, List.forall₂_same] at cleared
  have readable := (row_cleared_iff (by decide)).mp (cleared _ List.mem_cons_self)
  rcases readable with settled | small
  · exact absurd settled.auctionPurchase (by decide)
  · exact absurd small (by decide)

end Days

end Simutgw.Proofs.AssetSettlement
