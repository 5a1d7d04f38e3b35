import Simutgw.UserStockHelper

/-! An update of the holdings meets a null pointer only where a holding it writes is
missing: with every holding in memory each of them is done. -/

namespace Simutgw.Proofs.LoadedHoldings
open UserStockHelper UserStockVolume

/-- Every holding is in memory. -/
structure Loaded (cache : StockCache) : Prop where
  found : ∀ account stockID, ∃ volume, cache account stockID = some volume

variable {cache : StockCache}

theorem store_loaded (loaded : Loaded cache) (account stockID : String) (volume : UserStockVolume) :
    Loaded (cache.store account stockID volume) := by
  refine ⟨fun otherAccount otherStock => ?_⟩
  unfold StockCache.store
  split
  · exact ⟨_, rfl⟩
  · exact loaded.found otherAccount otherStock

theorem lookUp_loaded (db : StockDb) (loaded : Loaded cache) (account stockID : String) :
    ∃ volume, lookUp db cache account stockID = (cache, some volume) := by
  obtain ⟨volume, found⟩ := loaded.found account stockID
  exact ⟨volume, by simp only [lookUp, found]⟩

theorem settleWith_loaded (settle : UserStockVolume → UInt64 → UInt64 → UserStockVolume.Changed) (db : StockDb)
    (loaded : Loaded cache) (account stockID : String) (first avl : UInt64) :
    Loaded (settleWith settle db cache account stockID first avl).cache := by
  obtain ⟨volume, found⟩ := lookUp_loaded db loaded account stockID
  simp only [settleWith, found]
  exact store_loaded loaded ..

theorem addWith_loaded (add : UserStockVolume → UInt64 → UserStockVolume) (db : StockDb) (loaded : Loaded cache)
    (account stockID : String) (num : UInt64) : Loaded (addWith add db cache account stockID num).cache := by
  obtain ⟨volume, found⟩ := lookUp_loaded db loaded account stockID
  simp only [addWith, found]
  exact store_loaded loaded ..

/-- A synchronisation that never meets a missing holding. -/
def Writes (syn : StockCache → String → String → Option UserStockHelper.Changed) : Prop :=
  ∀ cache account stockID, Loaded cache → ∃ changed, syn cache account stockID = some changed ∧ Loaded changed.cache

theorem synWith_writes (syn : UserStockVolume → Synced) : Writes (synWith syn) := by
  intro cache account stockID loaded
  obtain ⟨volume, found⟩ := loaded.found account stockID
  exact ⟨_, by simp only [synWith, found]; rfl, store_loaded loaded ..⟩

theorem synStoredWith_writes (syn : UserStockVolume → Synced) : Writes (synStoredWith syn) := by
  intro cache account stockID loaded
  obtain ⟨volume, found⟩ := loaded.found account stockID
  exact ⟨_, by simp only [synStoredWith, found]; rfl, store_loaded loaded ..⟩

theorem recorded_loaded {syn : StockCache → String → String → Option UserStockHelper.Changed} (writes : Writes syn)
    (order : OrderMessage) {changed : UserStockHelper.Changed} (loaded : Loaded changed.cache) (stockID : String) :
    ∃ after, recorded order changed stockID syn = some after ∧ Loaded after.cache := by
  unfold recorded
  split
  · exact writes _ _ _ loaded
  · exact ⟨changed, rfl, loaded⟩

theorem foldlM_loaded {step : StockCache → EtfCrtFrozeComponent → Option StockCache}
    (keeps : ∀ cache component, Loaded cache → ∃ after, step cache component = some after ∧ Loaded after)
    (components : List EtfCrtFrozeComponent) (loaded : Loaded cache) :
    ∃ after, components.foldlM step cache = some after ∧ Loaded after := by
  induction components generalizing cache with
  | nil => exact ⟨cache, rfl, loaded⟩
  | cons component components ih =>
    obtain ⟨next, stepped, kept⟩ := keeps cache component loaded
    obtain ⟨after, rest, ended⟩ := ih kept
    exact ⟨after, by rw [List.foldlM_cons, stepped]; exact rest, ended⟩

theorem settled_exists {order : OrderMessage} {changed : Option UserStockHelper.Changed}
    (found : ∃ after, changed = some after ∧ Loaded after.cache) : ∃ updated, settled order changed = some updated := by
  obtain ⟨after, rfl, -⟩ := found
  exact ⟨_, rfl⟩

theorem updateTrade_exists (db : StockDb) (loaded : Loaded cache) (order : OrderMessage) :
    ∃ updated, updateTrade db cache order = some updated := by
  unfold updateTrade
  split
  · exact ⟨_, rfl⟩
  split
  · split
    · exact settled_exists (recorded_loaded (synWith_writes _) _ (settleWith_loaded _ db loaded ..) _)
    split
    · exact settled_exists (recorded_loaded (synStoredWith_writes _) _ (addWith_loaded _ db loaded ..) _)
    · exact ⟨_, rfl⟩
  · split
    · exact settled_exists (recorded_loaded (synWith_writes _) _ (settleWith_loaded _ db loaded ..) _)
    split
    · exact settled_exists (recorded_loaded (synStoredWith_writes _) _ (addWith_loaded _ db loaded ..) _)
    · exact ⟨_, rfl⟩
  · exact settled_exists (recorded_loaded (synWith_writes _) _ (settleWith_loaded _ db loaded ..) _)
  · exact settled_exists (recorded_loaded (synStoredWith_writes _) _ (addWith_loaded _ db loaded ..) _)
  · exact ⟨_, rfl⟩

theorem confirmComponent_loaded (db : StockDb) (order : OrderMessage) (component : EtfCrtFrozeComponent)
    (loaded : Loaded cache) : ∃ after, confirmComponent db order cache component = some after ∧ Loaded after := by
  unfold confirmComponent
  split
  · exact ⟨cache, rfl, loaded⟩
  split
  · obtain ⟨after, found, kept⟩ := recorded_loaded (synWith_writes creationComponentDBSyn) order
      (settleWith_loaded UserStockVolume.creationConfirm db loaded order.accountId component.securityID
        component.actPchCount component.avlCount) component.securityID
    exact ⟨after.cache, Option.map_eq_some_iff.mpr ⟨after, found, rfl⟩, kept⟩
  · exact ⟨cache, rfl, loaded⟩

theorem addComponent_loaded (db : StockDb) (order : OrderMessage) (component : EtfCrtFrozeComponent)
    (loaded : Loaded cache) : ∃ after, addComponent db order cache component = some after ∧ Loaded after := by
  unfold addComponent
  split
  · exact ⟨cache, rfl, loaded⟩
  split
  · obtain ⟨after, found, kept⟩ := recorded_loaded (synStoredWith_writes addRdpComponentSyn) order
      (addWith_loaded UserStockVolume.addRdp db loaded order.accountId component.securityID
        component.rdpCount) component.securityID
    exact ⟨after.cache, Option.map_eq_some_iff.mpr ⟨after, found, rfl⟩, kept⟩
  · exact ⟨cache, rfl, loaded⟩

theorem updateETFCrtRdp_exists (db : StockDb) (loaded : Loaded cache) (order : OrderMessage) :
    ∃ updated, updateETFCrtRdp db cache order = some updated := by
  unfold updateETFCrtRdp
  split
  · obtain ⟨confirmed, folded, kept⟩ :=
      foldlM_loaded (fun _ component => confirmComponent_loaded db order component) order.frozeComponents loaded
    rw [folded, Option.bind_eq_bind, Option.bind_some]
    split
    · obtain ⟨after, found, -⟩ := recorded_loaded (synStoredWith_writes creationEtfDBSyn) order
        (addWith_loaded UserStockVolume.addCrt db kept order.accountId order.stockID order.orderqtyMatched)
        order.stockID
      exact ⟨⟨0, order, after.cache⟩, Option.bind_eq_some_iff.mpr ⟨after, found, rfl⟩⟩
    · exact ⟨_, rfl⟩
  · split
    · obtain ⟨after, found, kept⟩ := recorded_loaded (synWith_writes rdpEtfSyn) order
        (settleWith_loaded UserStockVolume.redemptionConfirm db loaded order.accountId order.stockID
          order.rdpEtfCps.actPch order.rdpEtfCps.avl) order.stockID
      obtain ⟨last, folded, -⟩ :=
        foldlM_loaded (fun _ component => addComponent_loaded db order component) order.frozeComponents kept
      exact ⟨⟨0, order, last⟩, Option.bind_eq_some_iff.mpr ⟨after.cache,
        Option.map_eq_some_iff.mpr ⟨after, found, rfl⟩, Option.bind_eq_some_iff.mpr ⟨last, folded, rfl⟩⟩⟩
    · obtain ⟨last, folded, -⟩ :=
        foldlM_loaded (fun _ component => addComponent_loaded db order component) order.frozeComponents loaded
      exact ⟨⟨0, order, last⟩, Option.bind_eq_some_iff.mpr ⟨cache, rfl,
        Option.bind_eq_some_iff.mpr ⟨last, folded, rfl⟩⟩⟩
  · exact ⟨_, rfl⟩

/-- With every holding in memory an update finds all it writes. -/
theorem updateAfterTrade_exists (db : StockDb) (loaded : Loaded cache) (order : OrderMessage) :
    ∃ updated, updateAfterTrade db cache order = some updated := by
  unfold updateAfterTrade
  split
  · split
    · exact updateTrade_exists db loaded order
    split
    · exact updateETFCrtRdp_exists db loaded order
    · exact ⟨_, rfl⟩
  split
  · exact updateTrade_exists db loaded order
  · exact ⟨_, rfl⟩

end Simutgw.Proofs.LoadedHoldings
