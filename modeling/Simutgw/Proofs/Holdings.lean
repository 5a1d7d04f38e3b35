import Simutgw.Proofs.SellReserve

/-! What the holdings of one account say of every security, whether it has been
loaded or not, and how each update of the holdings moves those numbers. -/

namespace Simutgw.Proofs.Holdings
open UserStockHelper UserStockVolume VolumeFreeze VolumeLedger SellReserve

/-- The holding a look-up finds, from memory or from the database. -/
def holding (db : StockDb) (cache : StockCache) (account stockID : String) : Option UserStockVolume :=
  (lookUp db cache account stockID).2

def frozen (db : StockDb) (account : String) (cache : StockCache) (stockID : String) (bucket : Bucket) : Nat :=
  match holding db cache account stockID with
  | some volume => (volume.get bucket).forzeVolume.toNat
  | none => 0

def unfrozen (db : StockDb) (account : String) (cache : StockCache) (stockID : String) (bucket : Bucket) : UInt64 :=
  match holding db cache account stockID with
  | some volume => (volume.get bucket).unFrozeVolume
  | none => 0

/-- What two amounts come to in each bucket: the first part's, the available
balance's and the total's. -/
def drawn (first : Bucket) (part avl : UInt64) (bucket : Bucket) : Nat :=
  if bucket = first then part.toNat
  else if bucket = .avl then avl.toNat
  else if bucket = .stk then part.toNat + avl.toNat
  else 0

section Volumes

variable {first : Bucket} {volume : UserStockVolume} {part avl : UInt64}

theorem covers_of_drawn (different : Bucket.avl ≠ first) (apart : Bucket.stk ≠ first)
    (covers : ∀ bucket, drawn first part avl bucket ≤ (volume.get bucket).forzeVolume.toNat) :
    Covers first volume part avl := by
  have one := covers first
  have two := covers .avl
  have total := covers .stk
  simp only [drawn, if_true, different, apart, if_false, reduceCtorEq] at one two total
  exact ⟨one, two, total⟩

theorem takes_drawn {after : UserStockVolume} (takes : Takes first volume after part avl)
    (others : ∀ bucket, bucket ≠ first → bucket ≠ .avl → bucket ≠ .stk → after.get bucket = volume.get bucket)
    (bucket : Bucket) :
    (after.get bucket).forzeVolume.toNat + drawn first part avl bucket = (volume.get bucket).forzeVolume.toNat := by
  unfold drawn
  split
  next same => rw [same]; exact takes.first
  next notFirst =>
    split
    next same => rw [same]; exact takes.avl
    next notAvl =>
      split
      next same => rw [same]; exact takes.stk
      next notStk => rw [others bucket notFirst notAvl notStk, Nat.add_zero]

theorem confirmFrom_drawn (checked : Bool) (different : Bucket.avl ≠ first) (apart : Bucket.stk ≠ first)
    (covers : ∀ bucket, drawn first part avl bucket ≤ (volume.get bucket).forzeVolume.toNat) :
    (confirmFrom first checked volume part avl).code = 0 ∧
      ∀ bucket, ((confirmFrom first checked volume part avl).volume.get bucket).forzeVolume.toNat +
        drawn first part avl bucket = (volume.get bucket).forzeVolume.toNat := by
  have covered := covers_of_drawn different apart covers
  obtain ⟨code, takes⟩ := confirm_takes checked different apart covered
  refine ⟨code, takes_drawn takes fun bucket notFirst notAvl notStk => ?_⟩
  have sum := covered.sum
  rw [confirmFrom_covered different apart (UInt64.le_iff_toNat_le.mpr covered.first)
    (UInt64.le_iff_toNat_le.mpr covered.avl) (by rw [UInt64.le_iff_toNat_le, sum]; exact covered.stk)]
  simp only [get_set_other _ _ notStk, get_set_other _ _ notAvl, get_set_other _ _ notFirst]

theorem deFrozeTo_drawn (different : Bucket.avl ≠ first) (apart : Bucket.stk ≠ first)
    (covers : ∀ bucket, drawn first part avl bucket ≤ (volume.get bucket).forzeVolume.toNat) (bucket : Bucket) :
    ((deFrozeTo first volume part avl).volume.get bucket).forzeVolume.toNat + drawn first part avl bucket =
      (volume.get bucket).forzeVolume.toNat := by
  apply takes_drawn (deFroze_takes different apart (covers_of_drawn different apart covers))
  intro bucket notFirst notAvl notStk
  rw [deFrozeTo_eq different apart]
  simp only [get_set_other _ _ notStk, get_set_other _ _ notAvl, get_set_other _ _ notFirst]

theorem set_keeps {Value : Type} (value : FrozeVolume → Value) {written : FrozeVolume} {bucket : Bucket}
    (kept : value written = value (volume.get bucket)) (other : Bucket) :
    value ((volume.set bucket written).get other) = value (volume.get other) := by
  by_cases same : other = bucket
  · rw [same, get_set_same, kept]
  · rw [get_set_other _ _ same]

theorem confirm_unfrozen (counter : FrozeVolume) (amount : UInt64) :
    (counter.confirm amount).volume.unFrozeVolume = counter.unFrozeVolume := by
  unfold FrozeVolume.confirm
  split <;> rfl

/-- A confirm never touches what is not frozen. -/
theorem confirmFrom_unfrozen (checked : Bool) (bucket : Bucket) :
    ((confirmFrom first checked volume part avl).volume.get bucket).unFrozeVolume =
      (volume.get bucket).unFrozeVolume := by
  have confirmed (volume : UserStockVolume) (touched : Bucket) (amount : UInt64) :=
    set_keeps FrozeVolume.unFrozeVolume (confirm_unfrozen (volume.get touched) amount) bucket
  simp only [confirmFrom, confirm_guard, stkBalance_eq, with_stkBalance]
  split
  next => exact confirmed ..
  next =>
    split
    next => rw [confirmed, confirmed]
    next => rw [confirmed, confirmed, confirmed]

/-- A synchronisation writes neither count of any bucket. -/
def Quiet (syn : UserStockVolume → Synced) : Prop :=
  ∀ volume bucket, ((syn volume).volume.get bucket).forzeVolume = (volume.get bucket).forzeVolume ∧
    ((syn volume).volume.get bucket).unFrozeVolume = (volume.get bucket).unFrozeVolume

theorem dbSynOne_quiet (bucket : Bucket) : Quiet (dbSynOne bucket) := by
  intro volume other
  cases bucket <;> cases other <;> exact ⟨rfl, rfl⟩

theorem dbSynTwo_quiet (bucket : Bucket) : Quiet (dbSynTwo bucket) := by
  intro volume other
  cases bucket <;> cases other <;> exact ⟨rfl, rfl⟩

theorem get_stored (bucket : Bucket) : { volume with stored := true }.get bucket = volume.get bucket := by
  cases bucket <;> rfl

theorem addTo_frozen (bucket : Bucket) (num : UInt64) (other : Bucket) :
    ((addTo bucket volume num).get other).forzeVolume = (volume.get other).forzeVolume := by
  cases bucket <;> cases other <;> rfl

/-- What an addition adds to a bucket: the shares to their bucket and to the total. -/
def added (bucket : Bucket) (num : UInt64) (other : Bucket) : UInt64 :=
  if other = bucket ∨ other = .stk then num else 0

theorem addTo_unfrozen {bucket : Bucket} (apart : Bucket.stk ≠ bucket) (num : UInt64) (other : Bucket) :
    ((addTo bucket volume num).get other).unFrozeVolume = (volume.get other).unFrozeVolume + added bucket num other := by
  cases bucket <;> cases other <;> first | exact absurd rfl apart | rfl | exact (UInt64.add_zero _).symm

end Volumes

section Caches

variable {db : StockDb} {cache : StockCache} {account stockID : String}

theorem holding_store (volume : UserStockVolume) (other : String) :
    holding db (cache.store account stockID volume) account other =
      if other = stockID then some volume else holding db cache account other := by
  unfold holding lookUp
  by_cases same : other = stockID
  · rw [same, StockCache.store_same, if_pos rfl]
  · rw [StockCache.store_other _ _ (fun both => same both.2), if_neg same]
    cases cache account other with
    | some _ => rfl
    | none =>
      simp only [loadUserStockFromDBAndStore]
      cases db account other <;> rfl

theorem lookUp_eq (db : StockDb) (cache : StockCache) (account stockID : String) :
    (lookUp db cache account stockID).2 = holding db cache account stockID ∧
      ∀ other, holding db (lookUp db cache account stockID).1 account other = holding db cache account other := by
  refine ⟨rfl, fun other => ?_⟩
  cases cached : cache account stockID with
  | some volume => simp only [lookUp, cached]
  | none =>
    cases stored : db account stockID with
    | none => simp only [lookUp, cached, loadUserStockFromDBAndStore, stored]
    | some info =>
      have loaded : holding db cache account stockID = some (create true info.stk info.actPch info.stpPch info.etfRdp
          info.crt info.avl info.last) := by
        simp only [holding, lookUp, cached, loadUserStockFromDBAndStore, stored]
      simp only [lookUp, cached, loadUserStockFromDBAndStore, stored, holding_store]
      split
      next same => rw [same, loaded]
      next => rfl

theorem settleWith_found (settle : UserStockVolume → UInt64 → UInt64 → UserStockVolume.Changed) (first avl : UInt64)
    {volume : UserStockVolume} (found : holding db cache account stockID = some volume) :
    (settleWith settle db cache account stockID first avl).code = (settle volume first avl).code ∧
      (settleWith settle db cache account stockID first avl).cache account stockID =
        some (settle volume first avl).volume ∧
      ∀ other, holding db (settleWith settle db cache account stockID first avl).cache account other =
        if other = stockID then some (settle volume first avl).volume else holding db cache account other := by
  obtain ⟨answers, same⟩ := lookUp_eq db cache account stockID
  rw [found] at answers
  cases read : lookUp db cache account stockID with
  | mk loaded answer =>
    rw [read] at answers same
    subst answers
    simp only [settleWith, read, StockCache.store_same, holding_store, true_and]
    intro other
    split
    next => rfl
    next => exact same other

theorem settleWith_missing (settle : UserStockVolume → UInt64 → UInt64 → UserStockVolume.Changed) (first avl : UInt64)
    (missing : holding db cache account stockID = none) :
    (settleWith settle db cache account stockID first avl).cache account stockID = none ∧
      ∀ other, holding db (settleWith settle db cache account stockID first avl).cache account other =
        holding db cache account other := by
  obtain ⟨answers, same⟩ := lookUp_eq db cache account stockID
  rw [missing] at answers
  cases read : lookUp db cache account stockID with
  | mk loaded answer =>
    rw [read] at answers same
    subst answers
    simp only [settleWith, read]
    refine ⟨?_, same⟩
    have unloaded := (same stockID).trans missing
    unfold holding lookUp at unloaded
    split at unloaded
    next => cases unloaded
    next absent => exact absent

theorem addWith_holding (db : StockDb) (cache : StockCache) (account stockID : String)
    (add : UserStockVolume → UInt64 → UserStockVolume) (num : UInt64) :
    let before := (holding db cache account stockID).getD (create false 0 0 0 0 0 0 0)
    (addWith add db cache account stockID num).cache account stockID = some (add before num) ∧
      ∀ other, holding db (addWith add db cache account stockID num).cache account other =
        if other = stockID then some (add before num) else holding db cache account other := by
  obtain ⟨answers, same⟩ := lookUp_eq db cache account stockID
  cases read : lookUp db cache account stockID with
  | mk loaded answer =>
    rw [read] at answers same
    cases answer with
    | none =>
      simp only [addWith, read, StockCache.store_same, holding_store, ← answers, Option.getD_none, true_and]
      intro other
      split
      next => rfl
      next => exact same other
    | some volume =>
      simp only [addWith, read, StockCache.store_same, holding_store, ← answers, Option.getD_some, true_and]
      intro other
      split
      next => rfl
      next => exact same other

/-- Two caches that hold and count the same of every security of the account. -/
def Agree (db : StockDb) (account : String) (cache other : StockCache) : Prop :=
  ∀ stockID, (holding db other account stockID = none ↔ holding db cache account stockID = none) ∧
    ∀ bucket, frozen db account other stockID bucket = frozen db account cache stockID bucket ∧
      unfrozen db account other stockID bucket = unfrozen db account cache stockID bucket

theorem agree_store {volume written : UserStockVolume} (found : cache account stockID = some volume)
    (quiet : ∀ bucket, (written.get bucket).forzeVolume = (volume.get bucket).forzeVolume ∧
      (written.get bucket).unFrozeVolume = (volume.get bucket).unFrozeVolume) :
    Agree db account cache (cache.store account stockID written) := by
  intro other
  unfold frozen unfrozen
  rw [holding_store]
  by_cases same : other = stockID
  · have held : holding db cache account other = some volume := by
      rw [same]
      simp [holding, lookUp_found found]
    simp only [if_pos same, held, reduceCtorEq, true_and]
    exact fun bucket => ⟨congrArg _ (quiet bucket).1, (quiet bucket).2⟩
  · simp only [if_neg same, and_self, implies_true]

theorem recorded_agree (db : StockDb) {order : OrderMessage} {changed written : UserStockHelper.Changed}
    {syn : UserStockVolume → Synced} (quiet : Quiet syn)
    {sync : StockCache → String → String → Option UserStockHelper.Changed}
    (kinds : sync = synWith syn ∨ sync = synStoredWith syn)
    (done : recorded order changed stockID sync = some written) :
    Agree db order.accountId changed.cache written.cache := by
  unfold recorded at done
  split at done
  · rcases kinds with rfl | rfl
    · unfold synWith at done
      split at done
      · exact nomatch done
      next volume found =>
        cases done
        exact agree_store found (quiet volume)
    · unfold synStoredWith at done
      split at done
      · exact nomatch done
      next volume found =>
        cases done
        exact agree_store found fun bucket => by rw [get_stored]; exact quiet volume bucket
  · cases done
    exact fun _ => ⟨Iff.rfl, fun _ => ⟨rfl, rfl⟩⟩

theorem recorded_some (order : OrderMessage) (changed : UserStockHelper.Changed) {syn : UserStockVolume → Synced}
    {sync : StockCache → String → String → Option UserStockHelper.Changed}
    (kinds : sync = synWith syn ∨ sync = synStoredWith syn)
    (held : order.tradePolicy.runMode = .normalMode → changed.cache order.accountId stockID ≠ none) :
    ∃ written, recorded order changed stockID sync = some written := by
  unfold recorded
  split
  next normal =>
    obtain ⟨volume, found⟩ := Option.ne_none_iff_exists'.mp (held normal)
    rcases kinds with rfl | rfl
    · simp [synWith, found]
    · simp [synStoredWith, found]
  next => exact ⟨changed, rfl⟩

end Caches

section Rounds

variable {db : StockDb} {cache : StockCache} {order : OrderMessage} {stockID : String} {first bucket : Bucket}
  {checked : Bool} {part avl : UInt64} {written : UserStockHelper.Changed}

/-- A confirm and its statement touch nothing unfrozen, and no other security. -/
theorem confirmed_frame
    (done : recorded order (settleWith (confirmFrom first checked) db cache order.accountId stockID part avl) stockID
      (synWith (dbSynTwo bucket)) = some written) (other : String) :
    (holding db written.cache order.accountId other = none ↔ holding db cache order.accountId other = none) ∧
      ∀ counter,
        unfrozen db order.accountId written.cache other counter = unfrozen db order.accountId cache other counter ∧
        (other ≠ stockID →
          frozen db order.accountId written.cache other counter = frozen db order.accountId cache other counter) := by
  obtain ⟨held, same⟩ := recorded_agree db (dbSynTwo_quiet bucket) (Or.inl rfl) done other
  simp only [held, (same _).1, (same _).2]
  unfold frozen unfrozen
  cases found : holding db cache order.accountId stockID with
  | none => simp only [(settleWith_missing _ _ _ found).2 other, implies_true, and_self]
  | some volume =>
    rw [(settleWith_found _ _ _ found).2.2 other]
    by_cases same : other = stockID
    · subst same
      simp only [if_pos, found, reduceCtorEq, true_and]
      exact fun counter => ⟨confirmFrom_unfrozen .., fun different => absurd rfl different⟩
    · simp only [if_neg same, implies_true, and_self]

/-- Its statement follows a null pointer where there is no such holding. -/
theorem confirmed_held
    (done : recorded order (settleWith (confirmFrom first checked) db cache order.accountId stockID part avl) stockID
      (synWith (dbSynTwo bucket)) = some written) (normal : order.tradePolicy.runMode = .normalMode) :
    holding db cache order.accountId stockID ≠ none := by
  intro missing
  simp only [recorded, normal, if_true, synWith, (settleWith_missing _ _ _ missing).1, reduceCtorEq] at done

theorem confirmed_settles (order : OrderMessage) (checked : Bool) (bucket : Bucket) (stockID : String)
    (part avl : UInt64) (different : Bucket.avl ≠ first) (apart : Bucket.stk ≠ first)
    (covers : ∀ counter, drawn first part avl counter ≤ frozen db order.accountId cache stockID counter)
    (held : order.tradePolicy.runMode = .normalMode → holding db cache order.accountId stockID ≠ none) :
    ∃ written, recorded order (settleWith (confirmFrom first checked) db cache order.accountId stockID part avl) stockID
        (synWith (dbSynTwo bucket)) = some written ∧
      (∀ other counter, frozen db order.accountId written.cache other counter +
          (if other = stockID then drawn first part avl counter else 0) =
        frozen db order.accountId cache other counter) := by
  have kinds : synWith (dbSynTwo bucket) = synWith (dbSynTwo bucket) ∨
      synWith (dbSynTwo bucket) = synStoredWith (dbSynTwo bucket) := Or.inl rfl
  cases found : holding db cache order.accountId stockID with
  | none =>
    obtain ⟨_, same⟩ := settleWith_missing (confirmFrom first checked) part avl found
    obtain ⟨written, done⟩ := recorded_some order _ kinds fun normal => absurd found (held normal)
    refine ⟨written, done, fun other counter => ?_⟩
    rw [((recorded_agree db (dbSynTwo_quiet bucket) kinds done other).2 counter).1]
    have nothing := covers counter
    unfold frozen at nothing ⊢
    rw [found, Nat.le_zero] at nothing
    simp only [same, nothing, ite_self, Nat.add_zero]
  | some volume =>
    obtain ⟨_, stored, after⟩ := settleWith_found (confirmFrom first checked) part avl found
    have covered : ∀ counter, drawn first part avl counter ≤ (volume.get counter).forzeVolume.toNat := by
      intro counter
      have covered := covers counter
      unfold frozen at covered
      simpa only [found] using covered
    obtain ⟨_, takes⟩ := confirmFrom_drawn checked different apart covered
    obtain ⟨written, done⟩ := recorded_some order _ kinds fun _ => Option.ne_none_iff_exists'.mpr ⟨_, stored⟩
    refine ⟨written, done, fun other counter => ?_⟩
    rw [((recorded_agree db (dbSynTwo_quiet bucket) kinds done other).2 counter).1]
    unfold frozen
    rw [after other]
    by_cases same : other = stockID
    · subst same
      rw [if_pos rfl, if_pos rfl, found]
      exact takes counter
    · simp only [if_neg same, Nat.add_zero]

theorem added_settles (db : StockDb) (cache : StockCache) (order : OrderMessage) (stockID : String) (num : UInt64)
    (wrote : Bucket) (apart : Bucket.stk ≠ bucket) :
    ∃ written, recorded order (addWith (addTo bucket) db cache order.accountId stockID num) stockID
        (synStoredWith (dbSynOne wrote)) = some written ∧
      ∀ other counter, frozen db order.accountId written.cache other counter =
          frozen db order.accountId cache other counter ∧
        unfrozen db order.accountId written.cache other counter =
          unfrozen db order.accountId cache other counter +
            (if other = stockID then added bucket num counter else 0) := by
  have kinds : synStoredWith (dbSynOne wrote) = synWith (dbSynOne wrote) ∨
      synStoredWith (dbSynOne wrote) = synStoredWith (dbSynOne wrote) := Or.inr rfl
  obtain ⟨stored, after⟩ := addWith_holding db cache order.accountId stockID (addTo bucket) num
  obtain ⟨written, done⟩ := recorded_some order _ kinds fun _ => Option.ne_none_iff_exists'.mpr ⟨_, stored⟩
  refine ⟨written, done, fun other counter => ?_⟩
  obtain ⟨frozenSame, unfrozenSame⟩ := (recorded_agree db (dbSynOne_quiet wrote) kinds done other).2 counter
  rw [frozenSame, unfrozenSame]
  unfold frozen unfrozen
  rw [after other]
  by_cases same : other = stockID
  · subst same
    rw [if_pos rfl, if_pos rfl]
    cases holding db cache order.accountId other with
    | none =>
      have empty : ((create false 0 0 0 0 0 0 0).get counter).forzeVolume = 0 ∧
          ((create false 0 0 0 0 0 0 0).get counter).unFrozeVolume = 0 := by
        cases counter <;> exact ⟨rfl, rfl⟩
      simp only [Option.getD_none, addTo_frozen, addTo_unfrozen apart, empty, UInt64.toNat_zero, and_self]
    | some volume => simp only [Option.getD_some, addTo_frozen, addTo_unfrozen apart, and_self]
  · simp only [if_neg same, UInt64.add_zero, and_self]

end Rounds

end Simutgw.Proofs.Holdings
