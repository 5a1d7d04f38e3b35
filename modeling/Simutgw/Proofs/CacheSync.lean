import Simutgw.Proofs.VolumeLedger
import Simutgw.StockCacheSynHelper

/-! Runs of one holding in memory together with its row. Whatever the cache does
in between, the values last synchronised are the row's, so that every update
finds its row. Two syncs break this: the one after the purchase of an ETF writes
the created shares in the column of the bought ones, and the insert of redeemed
components has a value too many. The condition on each sync is exact. -/

namespace Simutgw.Proofs.CacheSync
open UserStockVolume StockCacheSynHelper VolumeFreeze VolumeLedger Logic

inductive Sync where
  | sell
  | sellEtf
  | add
  | addEtf
  | crtEtf
  | crtComponent
  | rdpEtf
  | rdpComponent
  deriving DecidableEq

namespace Sync

def table : Sync → AssetTable
  | .sell | .add | .crtComponent | .rdpComponent => .stockAsset
  | .sellEtf | .addEtf | .crtEtf | .rdpEtf => .stockEtfAsset

/-- The counter a sync marks besides the total. -/
def counter : Sync → Bucket
  | .sell | .rdpComponent => .etfRdp
  | .sellEtf | .addEtf | .crtEtf => .crt
  | .add | .crtComponent | .rdpEtf => .actPch

/-- The column it writes that counter to. -/
def column : Sync → Bucket
  | .addEtf => .actPch
  | sync => sync.counter

/-- Whether it writes the available balance as well. -/
def draws : Sync → Bool
  | .sell | .sellEtf | .crtComponent | .rdpEtf => true
  | .add | .addEtf | .crtEtf | .rdpComponent => false

def written : Sync → String → String → UserStockVolume → Written
  | .sell => sellSyn
  | .sellEtf => sellEtfSyn
  | .add => addSyn
  | .addEtf => addEtfSyn
  | .crtEtf => crtEtfSyn
  | .crtComponent => crtComponentSyn
  | .rdpEtf => rdpEtfSyn
  | .rdpComponent => rdpComponentSyn

/-- The same sync on the holdings of every account. -/
def cached : Sync → StockCache → String → String → Option UserStockHelper.Changed
  | .sell => UserStockHelper.sellSyn
  | .sellEtf => UserStockHelper.sellEtfSyn
  | .add => UserStockHelper.addSyn
  | .addEtf => UserStockHelper.addEtfSyn
  | .crtEtf => UserStockHelper.crtEtfSyn
  | .crtComponent => UserStockHelper.crtComponentSyn
  | .rdpEtf => UserStockHelper.rdpEtfSyn
  | .rdpComponent => UserStockHelper.rdpComponentSyn

/-- What the settlement of a fill does to the holdings is what the sync leaves. -/
theorem cached_eq (sync : Sync) (cache : StockCache) (account stockID : String) :
    sync.cached cache account stockID = (cache account stockID).map fun volume =>
      ⟨0, cache.store account stockID (sync.written account stockID volume).volume⟩ := by
  cases found : cache account stockID with
  | none => cases sync <;> simp only [cached, UserStockHelper.sellSyn, UserStockHelper.sellEtfSyn,
      UserStockHelper.addSyn, UserStockHelper.addEtfSyn, UserStockHelper.crtEtfSyn, UserStockHelper.crtComponentSyn,
      UserStockHelper.rdpEtfSyn, UserStockHelper.rdpComponentSyn, UserStockHelper.synWith,
      UserStockHelper.synStoredWith, found, Option.map_none]
  | some volume => cases sync <;> simp only [cached, UserStockHelper.sellSyn, UserStockHelper.sellEtfSyn,
      UserStockHelper.addSyn, UserStockHelper.addEtfSyn, UserStockHelper.crtEtfSyn, UserStockHelper.crtComponentSyn,
      UserStockHelper.rdpEtfSyn, UserStockHelper.rdpComponentSyn, UserStockHelper.synWith,
      UserStockHelper.synStoredWith, found, Option.map_some] <;> rfl

end Sync

/-- What a counter is worth: its free and its frozen part. -/
def worth (volume : UserStockVolume) (bucket : Bucket) : UInt64 :=
  (volume.get bucket).forzeVolume + (volume.get bucket).unFrozeVolume

def latest (volume : UserStockVolume) (bucket : Bucket) : UInt64 := (volume.get bucket).latestSynVolume

/-- A call on the holding that does not touch the database. -/
inductive CacheCall where
  | froze (kind : Kind) (amount : UInt64)
  | deFroze (kind : Kind) (part avl : UInt64)
  | confirm (kind : Kind) (part avl : UInt64)
  | addAct (num : UInt64)
  | addCrt (num : UInt64)
  | addRdp (num : UInt64)

def CacheCall.run (volume : UserStockVolume) : CacheCall → UserStockVolume
  | .froze kind amount => (kind.froze volume amount).volume
  | .deFroze kind part avl => (kind.deFroze volume part avl).volume
  | .confirm kind part avl => (kind.confirm volume part avl).volume
  | .addAct num => volume.addAct num
  | .addCrt num => volume.addCrt num
  | .addRdp num => volume.addRdp num

/-- The holding and the tables its statements are executed on. -/
structure Kept where
  volume : UserStockVolume
  db : AssetDb

inductive Event where
  | call (call : CacheCall)
  | sync (sync : Sync)

/-- A statement is executed as soon as it is queued. -/
def step (account stockID : String) (before : Kept) : Event → Kept
  | .call call => { before with volume := call.run before.volume }
  | .sync sync =>
    let written := sync.written account stockID before.volume
    ⟨written.volume, written.sql.execute before.db⟩

/-- An update names what its row holds; an insert has a value for every column. -/
def WellPut (db : AssetDb) : Statement → Prop
  | .update table account stockID _ wheres =>
    ∃ row, db table account stockID = some row ∧ ∀ named ∈ wheres, row named.1 = named.2
  | .insert _ columns values => columns.length = values.length

/-- The row has the values last synchronised. -/
def Mirrors (volume : UserStockVolume) (table : AssetTable) (row : AssetRow) : Prop :=
  ∀ bucket ∈ table.balances, row bucket = latest volume bucket

/-- The law of a step: a sync's statement is well put and leaves the row that
the cache remembers. -/
def Synchronised (account stockID : String) (before : Kept) (event : Event) (after : Kept) : Prop :=
  match event with
  | .call _ => True
  | .sync sync => WellPut before.db (sync.written account stockID before.volume).sql ∧
    ∃ row, after.db sync.table account stockID = some row ∧ Mirrors after.volume sync.table row

/-- The row is in the sync's table; without one the sync is one that inserts it.
After the purchase of an ETF the created shares must be nothing new and as many
as the bought ones in the row; before there is a row there must be none. -/
def Meets (account stockID : String) (before : Kept) : Event → Prop
  | .call _ => True
  | .sync sync =>
    if before.volume.stored then
      (before.db sync.table account stockID).isSome ∧
        (sync = .addEtf → worth before.volume .crt = latest before.volume .crt ∧
          latest before.volume .crt = latest before.volume .actPch)
    else (sync = .add ∨ sync = .crtEtf ∨ sync = .addEtf ∧ worth before.volume .crt = 0)

/-- The holding is new, or as its one row was read. -/
inductive Opened (account stockID : String) : Kept → Prop
  | fresh {db : AssetDb} (absent : ∀ table, db table account stockID = none) :
      Opened account stockID ⟨create false 0 0 0 0 0 0 0, db⟩
  | loaded {db : AssetDb} {table : AssetTable} {row : AssetRow} {info : UserStockInfo}
      (found : db table account stockID = some row) (alone : ∀ other, other ≠ table → db other account stockID = none)
      (read : row.load table = info) :
      Opened account stockID
        ⟨create true info.stk info.actPch info.stpPch info.etfRdp info.crt info.avl info.last, db⟩

/-- Before there is a row nothing has been synchronised; the only row there is
has the values last synchronised. -/
inductive Agrees (account stockID : String) : Kept → Prop
  | unstored {kept : Kept} (stored : kept.volume.stored = false)
      (absent : ∀ table, kept.db table account stockID = none) (nothing : ∀ bucket, latest kept.volume bucket = 0) :
      Agrees account stockID kept
  | stored {kept : Kept} {table : AssetTable} {row : AssetRow} (stored : kept.volume.stored = true)
      (found : kept.db table account stockID = some row)
      (alone : ∀ other, other ≠ table → kept.db other account stockID = none)
      (mirrors : Mirrors kept.volume table row) : Agrees account stockID kept

/-- Nothing the database would notice has changed. -/
structure Unsynced (before after : UserStockVolume) : Prop where
  row : after.stored = before.stored
  values : ∀ bucket, latest after bucket = latest before bucket

namespace Unsynced

variable {one two three : UserStockVolume}

theorem refl (volume : UserStockVolume) : Unsynced volume volume := ⟨rfl, fun _ => rfl⟩

theorem trans (first : Unsynced one two) (second : Unsynced two three) : Unsynced one three :=
  ⟨second.row.trans first.row, fun bucket => (second.values bucket).trans (first.values bucket)⟩

theorem set (before : Unsynced one two) {bucket : Bucket} {value : FrozeVolume}
    (same : value.latestSynVolume = latest two bucket) : Unsynced one (two.set bucket value) := by
  refine before.trans ⟨by cases bucket <;> rfl, fun other => ?_⟩
  by_cases touched : other = bucket
  · subst touched
    rw [latest, get_set_same, same]
  · rw [latest, get_set_other _ _ touched, latest]

theorem froze (before : Unsynced one two) (bucket : Bucket) (amount : UInt64) :
    Unsynced one (two.set bucket ((two.get bucket).froze amount).volume) :=
  before.set rfl

theorem defroze (before : Unsynced one two) (bucket : Bucket) (amount : UInt64) :
    Unsynced one (two.set bucket ((two.get bucket).defroze amount).volume) :=
  before.set rfl

theorem confirm (before : Unsynced one two) (bucket : Bucket) (amount : UInt64) :
    Unsynced one (two.set bucket ((two.get bucket).confirm amount).volume) := by
  apply before.set
  unfold FrozeVolume.confirm
  split <;> rfl

theorem putBack (before : Unsynced one two) (bucket : Bucket) (amount : UInt64) :
    Unsynced one (two.putBack bucket amount) := by
  rw [putBack_eq]
  exact before.defroze bucket amount

theorem frozeFrom (first rollback : Bucket) (volume : UserStockVolume) (amount : UInt64) :
    Unsynced volume (UserStockVolume.frozeFrom first rollback volume amount).volume := by
  have drained := (refl volume).froze first amount
  unfold UserStockVolume.frozeFrom
  simp only
  split
  next => exact drained
  next =>
    split
    next => exact ((drained.froze .avl _).putBack _ _).putBack _ _
    next =>
      rw [frozeStkBalance_eq]
      exact (drained.froze .avl _).froze .stk amount

theorem deFrozeTo {first : Bucket} (different : Bucket.avl ≠ first) (apart : Bucket.stk ≠ first)
    (volume : UserStockVolume) (part avl : UInt64) :
    Unsynced volume (UserStockVolume.deFrozeTo first volume part avl).volume := by
  rw [deFrozeTo_eq different apart]
  dsimp only
  refine (((refl volume).defroze first part).set ?_).set ?_
  · rw [latest, get_set_other _ _ different]
    rfl
  · rw [latest, get_set_other _ _ (by decide : Bucket.stk ≠ .avl), get_set_other _ _ apart]
    rfl

theorem confirmFrom (first : Bucket) (checked : Bool) (volume : UserStockVolume) (part avl : UInt64) :
    Unsynced volume (UserStockVolume.confirmFrom first checked volume part avl).volume := by
  have taken := (refl volume).confirm first part
  simp only [UserStockVolume.confirmFrom, confirm_guard]
  split
  next => exact taken
  next =>
    split
    next => exact taken.confirm .avl avl
    next => exact (taken.confirm .avl avl).confirm .stk _

theorem addTo (bucket : Bucket) (volume : UserStockVolume) (num : UInt64) :
    Unsynced volume (UserStockVolume.addTo bucket volume num) :=
  have added : Unsynced volume (volume.set bucket ((volume.get bucket).add num)) := (refl volume).set rfl
  @set volume _ added .stk _ rfl

end Unsynced

theorem run_unsynced (volume : UserStockVolume) (call : CacheCall) : Unsynced volume (call.run volume) := by
  cases call with
  | froze kind amount =>
    rw [CacheCall.run, kind.froze_eq]
    exact .frozeFrom _ _ volume amount
  | deFroze kind part avl =>
    rw [CacheCall.run, kind.deFroze_eq]
    exact .deFrozeTo kind.avl_ne_first kind.stk_ne_first volume part avl
  | confirm kind part avl =>
    rw [CacheCall.run, kind.confirm_eq]
    exact .confirmFrom _ _ volume part avl
  | addAct num => exact .addTo .actPch volume num
  | addCrt num => exact .addTo .crt volume num
  | addRdp num => exact .addTo .etfRdp volume num

/-- A sync marks the total, its counter and perhaps the available balance, and
keeps the total it found in the last balance. -/
theorem written_latest (sync : Sync) (account stockID : String) (volume : UserStockVolume) (bucket : Bucket) :
    latest (sync.written account stockID volume).volume bucket =
      if bucket = .last then latest volume .stk
      else if bucket = .stk ∨ bucket = sync.counter ∨ sync.draws = true ∧ bucket = .avl then worth volume bucket
      else latest volume bucket := by
  cases sync <;> cases bucket <;> rfl

/-- The update of a sync: what it sets, and the values it expects. -/
def updating (sync : Sync) (account stockID : String) (volume : UserStockVolume) : Statement :=
  .update sync.table account stockID
    ([(.stk, worth volume .stk), (sync.column, worth volume sync.counter)] ++
      (if sync.draws then [(.avl, worth volume .avl)] else []) ++ [(.last, latest volume .stk)])
    ([(.stk, latest volume .stk), (sync.column, latest volume sync.counter)] ++
      (if sync.draws then [(.avl, latest volume .avl)] else []) ++ [(.last, latest volume .last)])

/-- Whether a sync may insert. -/
def Sync.inserts : Sync → Bool
  | .add | .addEtf | .crtEtf | .rdpComponent => true
  | .sell | .sellEtf | .crtComponent | .rdpEtf => false

theorem written_stored (sync : Sync) (account stockID : String) (volume : UserStockVolume) :
    (sync.written account stockID volume).volume.stored = (volume.stored || sync.inserts) := by
  cases sync with
  | sell | sellEtf | crtComponent | rdpEtf => exact (Bool.or_false _).symm
  | add | addEtf | crtEtf | rdpComponent => exact (Bool.or_true _).symm

theorem written_update {sync : Sync} {volume : UserStockVolume} (updates : (volume.stored || !sync.inserts) = true)
    (account stockID : String) :
    (sync.written account stockID volume).sql = updating sync account stockID volume := by
  cases sync with
  | sell | sellEtf | crtComponent | rdpEtf => rfl
  | add | addEtf | crtEtf | rdpComponent =>
    have stored : volume.stored = true := by simpa [Sync.inserts] using updates
    simp only [Sync.written, addSyn, StockCacheSynHelper.addEtfSyn, crtEtfSyn, rdpComponentSyn, stored, if_true]
    rfl

theorem column_mem (sync : Sync) : sync.column ∈ sync.table.balances := by cases sync <;> decide

/-- What an update makes of its row. -/
def rewritten (sync : Sync) (volume : UserStockVolume) (row : AssetRow) : AssetRow := fun bucket =>
  if bucket = .last then latest volume .stk
  else if sync.draws = true ∧ bucket = .avl then worth volume .avl
  else if bucket = sync.column then worth volume sync.counter
  else if bucket = .stk then worth volume .stk
  else row bucket

theorem execute_updating {sync : Sync} {account stockID : String} {volume : UserStockVolume} {db : AssetDb}
    {row : AssetRow} (found : db sync.table account stockID = some row)
    (wellPut : WellPut db (updating sync account stockID volume)) :
    (updating sync account stockID volume).execute db =
      db.store sync.table account stockID (rewritten sync volume row) := by
  obtain ⟨same, found', matching⟩ := wellPut
  rw [found] at found'
  cases found'
  simp only [updating, Statement.execute, found, if_pos matching]
  congr 1
  funext bucket
  cases sync <;> cases bucket <;> rfl

/-- An update of the row the cache remembers is well put, except after the
purchase of an ETF, where the bought shares must be as many as the created ones. -/
theorem wellPut_updating {sync : Sync} {account stockID : String} {volume : UserStockVolume} {db : AssetDb}
    {row : AssetRow} (found : db sync.table account stockID = some row)
    (mirrors : Mirrors volume sync.table row) :
    WellPut db (updating sync account stockID volume) ↔ latest volume sync.counter = latest volume sync.column := by
  have total : row .stk = latest volume .stk := mirrors _ (by cases sync <;> decide)
  have part : row sync.column = latest volume sync.column := mirrors _ (column_mem sync)
  have avl : row .avl = latest volume .avl := mirrors _ (by cases sync <;> decide)
  have last : row .last = latest volume .last := mirrors _ (by cases sync <;> decide)
  constructor
  · rintro ⟨same, found', matching⟩
    rw [found] at found'
    cases found'
    rw [← part]
    exact (matching (sync.column, latest volume sync.counter) (by simp)).symm
  · intro counted
    refine ⟨row, found, fun named member => ?_⟩
    simp only [List.cons_append, List.nil_append, List.mem_cons, List.mem_append,
      List.not_mem_nil, or_false] at member
    rcases member with rfl | rfl | drawn | rfl
    · exact total
    · exact part.trans counted.symm
    · cases draws : sync.draws with
      | false => simp [draws] at drawn
      | true =>
        simp only [draws, if_true, List.mem_singleton] at drawn
        rw [drawn]
        exact avl
    · exact last

/-- The rewritten row is what the cache then remembers when the counter's column
is the counter's own, or nothing was to be written to it. -/
theorem mirrors_rewritten {sync : Sync} {account stockID : String} {volume : UserStockVolume} {row : AssetRow}
    (mirrors : Mirrors volume sync.table row) (counted : latest volume sync.counter = latest volume sync.column) :
    Mirrors (sync.written account stockID volume).volume sync.table (rewritten sync volume row) ↔
      (sync = .addEtf → worth volume .crt = latest volume .crt) := by
  cases sync with
  | addEtf =>
    constructor
    · intro after _
      exact (after .crt (by decide)).symm.trans (mirrors .crt (by decide))
    · intro nothing bucket member
      have nothing := nothing rfl
      cases bucket with
      | actPch => exact nothing.trans counted
      | crt => exact (mirrors .crt member).trans nothing.symm
      | stk | avl | last => first | rfl | exact mirrors _ member
      | stpPch | etfRdp => exact mirrors _ member
  | _ =>
    refine iff_of_true (fun bucket member => ?_) (by simp)
    cases bucket <;> first | rfl | exact mirrors _ member

theorem store_found (db : AssetDb) (table : AssetTable) (account stockID : String) (row : AssetRow) :
    db.store table account stockID row table account stockID = some row := by
  simp [AssetDb.store]

theorem store_elsewhere (db : AssetDb) {table other : AssetTable} (account stockID : String) (row : AssetRow)
    (different : other ≠ table) :
    db.store table account stockID row other account stockID = db other account stockID := by
  simp [AssetDb.store, different]

theorem updates_iff {before : Kept} {account stockID : String} {table : AssetTable} {row : AssetRow} (sync : Sync)
    (stored : before.volume.stored = true) (found : before.db table account stockID = some row)
    (alone : ∀ other, other ≠ table → before.db other account stockID = none)
    (mirrors : Mirrors before.volume table row) :
    Synchronised account stockID before (.sync sync) (step account stockID before (.sync sync)) ↔
      Meets account stockID before (.sync sync) := by
  have sql := @written_update sync before.volume (by simp [stored]) account stockID
  simp only [Synchronised, step, Meets, stored, if_true, sql]
  by_cases here : sync.table = table
  · subst here
    simp only [found, Option.isSome_some, true_and]
    rw [wellPut_updating found mirrors]
    constructor
    · rintro ⟨counted, after, found', told⟩ rfl
      rw [execute_updating found ((wellPut_updating found mirrors).mpr counted), store_found] at found'
      cases found'
      exact ⟨(mirrors_rewritten mirrors counted).mp told rfl, counted⟩
    · intro condition
      have counted : latest before.volume sync.counter = latest before.volume sync.column := by
        cases sync with
        | addEtf => exact (condition rfl).2
        | _ => rfl
      refine ⟨counted, _, ?_, (mirrors_rewritten mirrors counted).mpr fun bought => (condition bought).1⟩
      rw [execute_updating found ((wellPut_updating found mirrors).mpr counted), store_found]
  · simp only [alone _ here, Option.isSome_none, Bool.false_eq_true, false_and, iff_false, not_and]
    rintro ⟨row, found', _⟩
    rw [alone _ here] at found'
    cases found'

/-- The row an insert makes: the total, the counter in its column, no more. -/
def inserted (sync : Sync) (volume : UserStockVolume) : AssetRow := fun bucket =>
  if bucket = .stk then worth volume .stk
  else if bucket = sync.column then worth volume sync.counter
  else 0

theorem execute_insert {sync : Sync} {volume : UserStockVolume} (unstored : volume.stored = false)
    (inserts : sync = .add ∨ sync = .crtEtf ∨ sync = .addEtf) (db : AssetDb) (account stockID : String) :
    WellPut db (sync.written account stockID volume).sql ∧
      (sync.written account stockID volume).sql.execute db =
        db.store sync.table account stockID (inserted sync volume) := by
  have row (numbers : List UInt64) (sized : numbers.length = 7)
      (values : ∀ bucket, numberAt (insertColumns sync.table) ([.quoted account, .quoted stockID,
        .market (if (StockHelper.getStockTradeMarket stockID).isEmpty then "0"
          else StockHelper.getStockTradeMarket stockID)] ++ numbers.map .number ++ [.now, .quoted "SYS"])
            (.balance bucket) = inserted sync volume bucket) :
      WellPut db (insertSql sync.table account stockID numbers) ∧
        (insertSql sync.table account stockID numbers).execute db =
          db.store sync.table account stockID (inserted sync volume) := by
    have counted : (insertColumns sync.table).length = 12 := rfl
    simp only [insertSql, WellPut, Statement.execute, counted, List.length_append, List.length_map, sized,
      List.length_cons, List.length_nil, values, if_true]
    exact ⟨trivial, rfl⟩
  rcases inserts with rfl | rfl | rfl
  · have sql : (Sync.add.written account stockID volume).sql =
        insertSql .stockAsset account stockID [worth volume .stk, worth volume .actPch, 0, 0, 0, 0, 0] := by
      simp only [Sync.written, addSyn, unstored, Bool.false_eq_true, if_false]
      rfl
    rw [sql]
    exact row _ rfl fun bucket => by cases bucket <;> rfl
  · have sql : (Sync.crtEtf.written account stockID volume).sql =
        insertSql .stockEtfAsset account stockID [worth volume .stk, 0, 0, worth volume .crt, 0, 0, 0] := by
      simp only [Sync.written, crtEtfSyn, unstored, Bool.false_eq_true, if_false]
      rfl
    rw [sql]
    exact row _ rfl fun bucket => by cases bucket <;> rfl
  · have sql : (Sync.addEtf.written account stockID volume).sql =
        insertSql .stockEtfAsset account stockID [worth volume .stk, worth volume .crt, 0, 0, 0, 0, 0] := by
      simp only [Sync.written, StockCacheSynHelper.addEtfSyn, unstored, Bool.false_eq_true, if_false]
      rfl
    rw [sql]
    exact row _ rfl fun bucket => by cases bucket <;> rfl

theorem mirrors_inserted {sync : Sync} {volume : UserStockVolume} {account stockID : String}
    (nothing : ∀ bucket, latest volume bucket = 0) (inserts : sync = .add ∨ sync = .crtEtf ∨ sync = .addEtf) :
    Mirrors (sync.written account stockID volume).volume sync.table (inserted sync volume) ↔
      (sync = .addEtf → worth volume .crt = 0) := by
  rcases inserts with rfl | rfl | rfl
  · refine iff_of_true (fun bucket _ => ?_) (by simp)
    cases bucket <;> simp [written_latest, inserted, nothing, Sync.counter, Sync.column, Sync.draws]
  · refine iff_of_true (fun bucket _ => ?_) (by simp)
    cases bucket <;> simp [written_latest, inserted, nothing, Sync.counter, Sync.column, Sync.draws]
  · constructor
    · intro told _
      exact (told .crt (by decide)).symm
    · intro none bucket _
      cases bucket <;> simp [written_latest, inserted, nothing, none, Sync.counter, Sync.column, Sync.draws]

theorem inserts_iff {before : Kept} {account stockID : String} (sync : Sync)
    (unstored : before.volume.stored = false) (absent : ∀ table, before.db table account stockID = none)
    (nothing : ∀ bucket, latest before.volume bucket = 0) :
    Synchronised account stockID before (.sync sync) (step account stockID before (.sync sync)) ↔
      Meets account stockID before (.sync sync) := by
  simp only [Synchronised, step, Meets, unstored, Bool.false_eq_true, if_false]
  by_cases inserts : sync = .add ∨ sync = .crtEtf ∨ sync = .addEtf
  · obtain ⟨wellPut, executed⟩ := execute_insert unstored inserts before.db account stockID
    simp only [wellPut, executed, store_found, true_and, Option.some.injEq, exists_eq_left',
      mirrors_inserted nothing inserts]
    rcases inserts with rfl | rfl | rfl <;> simp
  · have refused : ¬ WellPut before.db (sync.written account stockID before.volume).sql := by
      cases sync with
      | sell | sellEtf | crtComponent | rdpEtf =>
        rw [written_update (by simp [Sync.inserts])]
        rintro ⟨row, found, _⟩
        rw [absent] at found
        cases found
      | rdpComponent =>
        simp only [Sync.written, rdpComponentSyn, unstored, Bool.false_eq_true, if_false]
        intro counted
        cases counted
      | add | addEtf | crtEtf => simp at inserts
    simp only [not_or] at inserts
    simp [refused, inserts.1, inserts.2.1, inserts.2.2]

theorem synchronised_iff {account stockID : String} {before after : Kept} {event : Event}
    (agrees : Agrees account stockID before) (taken : step account stockID before event = after) :
    Synchronised account stockID before event after ↔ Meets account stockID before event := by
  subst taken
  cases event with
  | call call => exact Iff.rfl
  | sync sync =>
    cases agrees with
    | unstored unstored absent nothing => exact inserts_iff sync unstored absent nothing
    | stored stored found alone mirrors => exact updates_iff sync stored found alone mirrors

theorem execute_update_elsewhere (db : AssetDb) {table other : AssetTable} (account stockID : String)
    (sets wheres : List (Bucket × UInt64)) (different : other ≠ table) :
    (Statement.update table account stockID sets wheres).execute db other account stockID =
      db other account stockID := by
  cases found : db table account stockID with
  | none => simp only [Statement.execute, found]
  | some row =>
    simp only [Statement.execute, found]
    by_cases matching : ∀ named ∈ wheres, row named.1 = named.2
    · rw [if_pos matching]
      exact store_elsewhere db account stockID _ different
    · rw [if_neg matching]

theorem execute_insert_elsewhere (db : AssetDb) {table other : AssetTable} (account stockID : String)
    (columns : List Column) (values : List Literal) (different : other ≠ table) :
    (Statement.insert table columns values).execute db other account stockID = db other account stockID := by
  by_cases counted : columns.length = values.length
  · simp only [Statement.execute, if_pos counted, AssetDb.store, different, false_and, if_false]
  · simp only [Statement.execute, if_neg counted]

theorem execute_elsewhere (sync : Sync) (volume : UserStockVolume) (db : AssetDb) (account stockID : String)
    {other : AssetTable} (different : other ≠ sync.table) :
    (sync.written account stockID volume).sql.execute db other account stockID = db other account stockID := by
  cases sync with
  | sell | sellEtf | crtComponent | rdpEtf => exact execute_update_elsewhere db account stockID _ _ different
  | add | addEtf | crtEtf | rdpComponent =>
    cases stored : volume.stored with
    | true =>
      rw [written_update (by simp [stored])]
      exact execute_update_elsewhere db account stockID _ _ different
    | false =>
      simp only [Sync.written, addSyn, StockCacheSynHelper.addEtfSyn, crtEtfSyn, rdpComponentSyn, stored,
        Bool.false_eq_true, if_false]
      exact execute_insert_elsewhere db account stockID _ _ different

theorem step_agrees {account stockID : String} {before after : Kept} {event : Event}
    (agrees : Agrees account stockID before) (taken : step account stockID before event = after)
    (lawful : Synchronised account stockID before event after) : Agrees account stockID after := by
  have meets := (synchronised_iff agrees taken).mp lawful
  subst taken
  cases event with
  | call call =>
    obtain ⟨row, values⟩ := run_unsynced before.volume call
    cases agrees with
    | unstored unstored absent nothing =>
      exact .unstored (row.trans unstored) absent fun bucket => (values bucket).trans (nothing bucket)
    | stored stored found alone mirrors =>
      exact .stored (row.trans stored) found alone fun bucket member =>
        (mirrors bucket member).trans (values bucket).symm
  | sync sync =>
    obtain ⟨_, row, found, mirrors⟩ := lawful
    have elsewhere : ∀ other, other ≠ sync.table → before.db other account stockID = none := by
      intro other different
      cases agrees with
      | unstored _ absent _ => exact absent other
      | @stored table _ stored there alone _ =>
        simp only [Meets, stored, if_true] at meets
        by_cases here : sync.table = table
        · exact alone other (here ▸ different)
        · rw [alone _ here] at meets
          exact absurd meets.1 (by simp)
    refine .stored ?_ found (fun other different => ?_) mirrors
    · simp only [step, written_stored]
      cases stored : before.volume.stored with
      | true => rfl
      | false =>
        simp only [Meets, stored, Bool.false_eq_true, if_false] at meets
        rcases meets with rfl | rfl | ⟨rfl, _⟩ <;> rfl
    · exact (execute_elsewhere sync before.volume before.db account stockID different).trans
        (elsewhere other different)

theorem opened_agrees {account stockID : String} {start : Kept} (opened : Opened account stockID start) :
    Agrees account stockID start := by
  cases opened with
  | fresh absent => exact .unstored rfl absent fun bucket => by cases bucket <;> rfl
  | @loaded db table row info found alone read =>
    subst read
    refine .stored rfl found alone fun bucket member => ?_
    cases table <;> cases bucket <;> first | rfl | simp [AssetTable.balances, AssetTable.part] at member

/-- From a new or a loaded holding, the runs whose every statement is well put
and leaves the row as the cache remembers it are those whose syncs all meet
their condition. -/
theorem syncs_find_their_row {account stockID : String} {start last : Kept} {events : List Event}
    (opened : Opened account stockID start) :
    Run (fun before event after =>
        step account stockID before event = after ∧ Synchronised account stockID before event after)
      start events last ↔
    Run (Steps.guarded (fun before event after => step account stockID before event = after)
      (Meets account stockID)) start events last :=
  Run.lawful_iff_guarded (fun _ _ _ => synchronised_iff) (fun _ _ _ => step_agrees) (opened_agrees opened)

theorem syncs_find_their_row_bought :
    ∃ last, Run (fun before event after =>
        step "A" "600000" before event = after ∧ Synchronised "A" "600000" before event after)
      ⟨create false 0 0 0 0 0 0 0, fun _ _ _ => none⟩
      [.call (.addAct 100), .sync .add, .call (.addAct 20), .sync .add] last := by
  exact ⟨_, (syncs_find_their_row (.fresh fun _ => rfl)).mpr <|
    .cons ⟨rfl, trivial⟩ <| .cons ⟨rfl, .inl rfl⟩ <| .cons ⟨rfl, trivial⟩ <| .cons ⟨rfl, rfl, by decide⟩ <| .nil _⟩

/-- Components of a redemption, for a customer who had none of them. -/
theorem redeemed_row_refused :
    ¬ ∀ (account stockID : String) (start last : Kept) (events : List Event), Opened account stockID start →
      Run (fun before event after => step account stockID before event = after) start events last →
      Run (fun before event after =>
        step account stockID before event = after ∧ Synchronised account stockID before event after)
        start events last := by
  intro always
  have run := always "A" "600000" ⟨create false 0 0 0 0 0 0 0, fun _ _ _ => none⟩ _
    [.call (.addRdp 5), .sync .rdpComponent] (.fresh fun _ => rfl) (.cons rfl (.cons rfl (.nil _)))
  cases run with
  | cons taken rest =>
    cases rest with
    | cons taken' _ =>
      obtain ⟨same, _⟩ := taken
      subst same
      obtain ⟨_, counted, _⟩ := taken'
      cases counted

end Simutgw.Proofs.CacheSync
