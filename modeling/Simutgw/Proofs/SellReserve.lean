import Simutgw.PreTrade
import Simutgw.Proofs.VolumeLedger

/-! One sell order from its freeze to its last fill or its cancel. The order
carries its own record of what it froze; each fill takes from the record and
confirms the same amounts on the holding. -/

namespace Simutgw.Proofs.SellReserve
open UserStockHelper UserStockVolume VolumeFreeze VolumeLedger PreTrade Logic

/-- What a confirm or a release of these amounts takes from the frozen counts. -/
structure Takes (first : Bucket) (before after : UserStockVolume) (part rest : UInt64) : Prop where
  first : (after.get first).forzeVolume.toNat + part.toNat = (before.get first).forzeVolume.toNat
  avl : (after.get .avl).forzeVolume.toNat + rest.toNat = (before.get .avl).forzeVolume.toNat
  stk : (after.get .stk).forzeVolume.toNat + (part.toNat + rest.toNat) = (before.get .stk).forzeVolume.toNat

theorem dbSynTwo_forze (bucket : Bucket) (volume : UserStockVolume) (other : Bucket) :
    ((dbSynTwo bucket volume).volume.get other).forzeVolume = (volume.get other).forzeVolume := by
  cases bucket <;> cases other <;> rfl

section Settling

variable {first : Bucket} {volume : UserStockVolume} {part rest : UInt64}

/-- The three frozen counts cover these amounts. -/
structure Covers (first : Bucket) (volume : UserStockVolume) (part rest : UInt64) : Prop where
  first : part.toNat ≤ (volume.get first).forzeVolume.toNat
  avl : rest.toNat ≤ (volume.get .avl).forzeVolume.toNat
  stk : part.toNat + rest.toNat ≤ (volume.get .stk).forzeVolume.toNat

theorem Covers.sum (covers : Covers first volume part rest) : (part + rest).toNat = part.toNat + rest.toNat := by
  have bound := (volume.get .stk).forzeVolume.toNat_lt
  have inside := covers.stk
  rw [UInt64.toNat_add, Nat.mod_eq_of_lt (by omega)]

theorem confirm_takes (checked : Bool) (different : Bucket.avl ≠ first) (apart : Bucket.stk ≠ first)
    (covers : Covers first volume part rest) :
    (confirmFrom first checked volume part rest).code = 0 ∧
      Takes first volume (confirmFrom first checked volume part rest).volume part rest := by
  have one := UInt64.le_iff_toNat_le.mpr covers.first
  have two := UInt64.le_iff_toNat_le.mpr covers.avl
  have total : part + rest ≤ (volume.get .stk).forzeVolume := by
    rw [UInt64.le_iff_toNat_le, covers.sum]
    exact covers.stk
  have beside : Bucket.stk ≠ .avl := by decide
  rw [confirmFrom_covered different apart one two total]
  refine ⟨rfl, ?_, ?_, ?_⟩
  · rw [get_set_other _ _ apart.symm, get_set_other _ _ different.symm, get_set_same,
      FrozeVolume.confirm_covered _ _ one, UInt64.toNat_sub_of_le _ _ one]
    have := covers.first
    omega
  · rw [get_set_other _ _ beside.symm, get_set_same, FrozeVolume.confirm_covered _ _ two,
      UInt64.toNat_sub_of_le _ _ two]
    have := covers.avl
    omega
  · rw [get_set_same, FrozeVolume.confirm_covered _ _ total, UInt64.toNat_sub_of_le _ _ total, covers.sum]
    have := covers.stk
    omega

theorem deFroze_takes (different : Bucket.avl ≠ first) (apart : Bucket.stk ≠ first)
    (covers : Covers first volume part rest) :
    Takes first volume (deFrozeTo first volume part rest).volume part rest := by
  have one := UInt64.le_iff_toNat_le.mpr covers.first
  have two := UInt64.le_iff_toNat_le.mpr covers.avl
  have total : part + rest ≤ (volume.get .stk).forzeVolume := by
    rw [UInt64.le_iff_toNat_le, covers.sum]
    exact covers.stk
  have beside : Bucket.stk ≠ .avl := by decide
  rw [deFrozeTo_eq different apart]
  refine ⟨?_, ?_, ?_⟩
  · rw [get_set_other _ _ apart.symm, get_set_other _ _ different.symm, get_set_same]
    simp only [FrozeVolume.defroze, UInt64.toNat_sub_of_le _ _ one]
    have := covers.first
    omega
  · rw [get_set_other _ _ beside.symm, get_set_same]
    simp only [FrozeVolume.defroze, UInt64.toNat_sub_of_le _ _ two]
    have := covers.avl
    omega
  · rw [get_set_same]
    simp only [FrozeVolume.defroze, UInt64.toNat_sub_of_le _ _ total, covers.sum]
    have := covers.stk
    omega

end Settling

/-- The freeze is counted in the total and overflows neither part's count. -/
structure Sound (volume : UserStockVolume) (kind : Kind) (froze : UInt64) : Prop where
  counted : Counted volume kind froze
  first : (volume.get kind.first).forzeVolume.toNat + ((volume.get kind.first).actualFroze froze).toNat < 2 ^ 64
  avl : (volume.get .avl).forzeVolume.toNat +
    (froze.toNat - ((volume.get kind.first).actualFroze froze).toNat) < 2 ^ 64

theorem froze_counts {kind : Kind} {volume : UserStockVolume} {froze : UInt64} (sound : Sound volume kind froze)
    (success : (kind.froze volume froze).code = 0) :
    Takes kind.first (kind.froze volume froze).volume volume (kind.froze volume froze).first
        (kind.froze volume froze).avl ∧
      (kind.froze volume froze).first.toNat + (kind.froze volume froze).avl.toNat = froze.toNat := by
  have handed : (kind.froze volume froze).first.toNat + (kind.froze volume froze).avl.toNat = froze.toNat := by
    rw [kind.froze_eq] at success ⊢
    exact frozeFrom_hands_out kind.avl_ne_first kind.avl_ne_rollback success
  refine ⟨?_, handed⟩
  obtain ⟨counted, roomyFirst, roomyAvl⟩ := sound
  have beside : Bucket.stk ≠ .avl := by decide
  rw [kind.froze_eq] at success ⊢
  rw [frozeFrom_code kind.avl_ne_first kind.avl_ne_rollback] at success
  have enough : ¬ free kind.first volume < froze.toNat := by
    intro refused
    simp [refused] at success
  rcases counted with rfl | refused | ⟨short, fits, total⟩
  · rw [frozeFrom_covered (by rw [UInt64.le_iff_toNat_le]; simp), FrozeVolume.froze_zero, set_get]
    constructor <;> simp
  · exact absurd refused enough
  · have rest := UInt64.toNat_sub_of_le _ _ (UInt64.le_of_lt short)
    have covered : froze - (volume.get kind.first).unFrozeVolume ≤ (volume.get .avl).unFrozeVolume := by
      unfold free at enough
      rw [UInt64.lt_iff_toNat_lt] at short
      rw [UInt64.le_iff_toNat_le, rest]
      omega
    rw [frozeFrom_drained kind.avl_ne_first short (by omega)]
    rw [actualFroze_of_lt short] at roomyFirst roomyAvl
    rw [UInt64.lt_iff_toNat_lt] at short
    constructor
    · simp only [get_set_other _ _ kind.stk_ne_first.symm, get_set_other _ _ kind.avl_ne_first.symm, get_set_same,
        FrozeVolume.froze, UInt64.toNat_add]
      rw [actualFroze_of_lt (UInt64.lt_iff_toNat_lt.mpr short), Nat.mod_eq_of_lt roomyFirst]
    · simp only [get_set_other _ _ beside.symm, get_set_same, FrozeVolume.froze, UInt64.toNat_add]
      rw [actualFroze_of_le covered, rest, Nat.mod_eq_of_lt roomyAvl]
    · simp only [get_set_same, get_set_other _ _ beside, get_set_other _ _ kind.stk_ne_first, FrozeVolume.froze,
        UInt64.toNat_add]
      rw [actualFroze_of_le fits, rest, Nat.mod_eq_of_lt total]
      omega

/-- The two sells that freeze shares. -/
inductive Sale where
  | ordinary
  | etf
  deriving DecidableEq

namespace Sale

def kind : Sale → Kind
  | .ordinary => .sell
  | .etf => .sellEtf

/-- The order's own record of what it still has frozen: the first part and the
available part. -/
def reserve : Sale → OrderMessage → UInt64 × UInt64
  | .ordinary, order => (order.sellCps.etfRdp, order.sellCps.avl)
  | .etf, order => (order.sellEtfCps.etfCrt, order.sellEtfCps.avl)

def freeze : Sale → Env → OrderMessage → StockCache → Option Prepared
  | .ordinary => frozeSell
  | .etf => frozeSellEtf

end Sale

/-- Which sell an order is, by the fields the updates switch on. -/
def saleOf (order : OrderMessage) : Option Sale :=
  match order.tradeType with
  | .aTrade | .bTrade => if order.sells then some .ordinary else none
  | .etfSell => some .etf
  | _ => none

structure Desk where
  order : OrderMessage
  cache : StockCache
  cancelled : Bool

inductive Event where
  | fill (qty : UInt64)
  | cancel

/-- What the matcher has written on the order when it asks for the update. -/
def filled (order : OrderMessage) (qty : UInt64) : OrderMessage :=
  { order with orderqtyMatched := qty, leavesQty := order.leavesQty - qty }

theorem reserve_filled (sale : Sale) (order : OrderMessage) (qty : UInt64) :
    sale.reserve (filled order qty) = sale.reserve order := by
  cases sale <;> rfl

inductive Step (db : StockDb) : Steps Desk Event
  | fill {desk : Desk} (qty : UInt64) {result : Updated} (live : desk.cancelled = false)
      (within : qty ≤ desk.order.leavesQty)
      (updated : updateTrade db desk.cache (filled desk.order qty) = some result) :
      Step db desk (.fill qty) ⟨result.order, result.cache, false⟩
  | cancel {desk : Desk} {result : Updated} (live : desk.cancelled = false)
      (updated : updateCancel desk.cache desk.order = some result) :
      Step db desk .cancel ⟨result.order, result.cache, true⟩

/-- An ETF's fill leaves something of the reserve. -/
def Meets (sale : Sale) (desk : Desk) : Event → Prop
  | .fill qty => sale = .ordinary ∨ qty.toNat < (sale.reserve desk.order).1.toNat + (sale.reserve desk.order).2.toNat
  | .cancel => True

def holding (desk : Desk) : Option UserStockVolume := desk.cache desk.order.accountId desk.order.stockID

/-- The order's reserve is its remainder, and until it is released the holding
has it frozen on top of what was frozen before. -/
structure Held (sale : Sale) (before : UserStockVolume) (desk : Desk) : Prop where
  selling : saleOf desk.order = some sale
  checked : desk.order.tradePolicy.checkAssets = true
  remainder : (sale.reserve desk.order).1.toNat + (sale.reserve desk.order).2.toNat = desk.order.leavesQty.toNat
  counts : ∃ volume, holding desk = some volume ∧
    if desk.cancelled then Takes sale.kind.first volume before 0 0
    else Takes sale.kind.first volume before (sale.reserve desk.order).1 (sale.reserve desk.order).2

theorem lookUp_found {db : StockDb} {cache : StockCache} {account stockID : String} {volume : UserStockVolume}
    (found : cache account stockID = some volume) : lookUp db cache account stockID = (cache, some volume) := by
  simp [lookUp, found]

/-- A confirm the holding covers, synchronised or not, succeeds and takes its
amounts from the frozen counts. -/
theorem confirmed_takes {db : StockDb} {cache : StockCache} {order : OrderMessage} {volume : UserStockVolume}
    (kind : Kind) (bucket : Bucket) {part rest : UInt64}
    (found : cache order.accountId order.stockID = some volume) (covers : Covers kind.first volume part rest) :
    ∃ changed after,
      recorded order (settleWith kind.confirm db cache order.accountId order.stockID part rest) order.stockID
        (synWith (dbSynTwo bucket)) = some changed ∧
      changed.code = 0 ∧ changed.cache order.accountId order.stockID = some after ∧
      Takes kind.first volume after part rest := by
  have confirmed := confirm_takes kind.checked kind.avl_ne_first kind.stk_ne_first covers
  rw [← kind.confirm_eq] at confirmed
  simp only [settleWith, lookUp_found found, recorded]
  split
  · simp only [synWith, StockCache.store_same, StockCache.store_store]
    refine ⟨_, _, rfl, rfl, StockCache.store_same .., ?_⟩
    refine ⟨?_, ?_, ?_⟩ <;> rw [dbSynTwo_forze]
    · exact confirmed.2.first
    · exact confirmed.2.avl
    · exact confirmed.2.stk
  · exact ⟨_, _, rfl, confirmed.1, StockCache.store_same .., confirmed.2⟩

/-- How a fill is split: over the first part and then the available part. -/
structure Splits (reserve : UInt64 × UInt64) (qty part rest : UInt64) (left : UInt64 × UInt64) : Prop where
  whole : part.toNat + rest.toNat = qty.toNat
  first : left.1.toNat + part.toNat = reserve.1.toNat
  avl : left.2.toNat + rest.toNat = reserve.2.toNat

private theorem reserve_sum {first avl : UInt64} {bound : UInt64} (sum : first.toNat + avl.toNat = bound.toNat) :
    (first + avl).toNat = first.toNat + avl.toNat := by
  have := bound.toNat_lt
  rw [UInt64.toNat_add, Nat.mod_eq_of_lt (by omega)]

theorem sellSplit_splits {order : OrderMessage} {bound : UInt64}
    (sum : order.sellCps.etfRdp.toNat + order.sellCps.avl.toNat = bound.toNat) (within : order.orderqtyMatched ≤ bound) :
    Splits (order.sellCps.etfRdp, order.sellCps.avl) order.orderqtyMatched (sellSplit order).1 (sellSplit order).2.1
      ((sellSplit order).2.2.etfRdp, (sellSplit order).2.2.avl) := by
  have total := reserve_sum sum
  have enough : order.orderqtyMatched ≤ order.sellCps.etfRdp + order.sellCps.avl := by
    rw [UInt64.le_iff_toNat_le] at within ⊢
    omega
  simp only [sellSplit, enough, if_true]
  rw [UInt64.le_iff_toNat_le] at within
  split
  next inside =>
    have left := UInt64.toNat_sub_of_le _ _ inside
    rw [UInt64.le_iff_toNat_le] at inside
    exact ⟨by simp, by simp only [left]; omega, by simp⟩
  next beyond =>
    rw [UInt64.le_iff_toNat_le] at beyond
    have second := UInt64.toNat_sub_of_le order.orderqtyMatched order.sellCps.etfRdp
      (UInt64.le_iff_toNat_le.mpr (by omega))
    have left := UInt64.toNat_sub_of_le order.sellCps.avl (order.orderqtyMatched - order.sellCps.etfRdp)
      (UInt64.le_iff_toNat_le.mpr (by omega))
    exact ⟨by simp only [second]; omega, by simp, by simp only [left, second]; omega⟩

theorem sellEtfSplit_splits {order : OrderMessage} {bound : UInt64}
    (sum : order.sellEtfCps.etfCrt.toNat + order.sellEtfCps.avl.toNat = bound.toNat)
    (fewer : order.orderqtyMatched.toNat < order.sellEtfCps.etfCrt.toNat + order.sellEtfCps.avl.toNat) :
    Splits (order.sellEtfCps.etfCrt, order.sellEtfCps.avl) order.orderqtyMatched (sellEtfSplit order).1
      (sellEtfSplit order).2.1 ((sellEtfSplit order).2.2.etfCrt, (sellEtfSplit order).2.2.avl) := by
  have total := reserve_sum sum
  have enough : order.orderqtyMatched < order.sellEtfCps.etfCrt + order.sellEtfCps.avl := by
    rw [UInt64.lt_iff_toNat_lt]
    omega
  simp only [sellEtfSplit, enough, if_true]
  split
  next inside =>
    have left := UInt64.toNat_sub_of_le order.sellEtfCps.etfCrt order.orderqtyMatched (UInt64.le_of_lt inside)
    rw [UInt64.lt_iff_toNat_lt] at inside
    exact ⟨by simp, by simp only [left]; omega, by simp⟩
  next beyond =>
    rw [UInt64.lt_iff_toNat_lt] at beyond
    have second := UInt64.toNat_sub_of_le order.orderqtyMatched order.sellEtfCps.etfCrt
      (UInt64.le_iff_toNat_le.mpr (by omega))
    have left := UInt64.toNat_sub_of_le order.sellEtfCps.avl (order.orderqtyMatched - order.sellEtfCps.etfCrt)
      (UInt64.le_iff_toNat_le.mpr (by omega))
    exact ⟨by simp only [second]; omega, by simp, by simp only [left, second]; omega⟩

/-- What one fill does: the amounts it confirms sum to the matched quantity, the
order's reserve drops by them, and so do the holding's frozen counts. -/
def Settles (sale : Sale) (desk : Desk) (qty : UInt64) (next : Desk) : Prop :=
  ∃ part rest volume after, holding desk = some volume ∧ holding next = some after ∧
    Splits (sale.reserve desk.order) qty part rest (sale.reserve next.order) ∧
    Takes sale.kind.first volume after part rest

/-- The holding has frozen, in each counter the order touches, what it had before. -/
def Released (sale : Sale) (before : UserStockVolume) (desk : Desk) : Prop :=
  ∃ volume, holding desk = some volume ∧ Takes sale.kind.first volume before 0 0

def Completed (desk : Desk) : Prop :=
  desk.cancelled = true ∨ desk.order.leavesQty = 0

theorem saleOf_ordinary {order : OrderMessage} (selling : saleOf order = some .ordinary) :
    (order.tradeType = .aTrade ∨ order.tradeType = .bTrade) ∧ order.sells = true := by
  unfold saleOf at selling
  split at selling
  next type => exact ⟨Or.inl type, by by_contra other; simp [other] at selling⟩
  next type => exact ⟨Or.inr type, by by_contra other; simp [other] at selling⟩
  next => cases selling
  next => cases selling

theorem saleOf_etf {order : OrderMessage} (selling : saleOf order = some .etf) : order.tradeType = .etfSell := by
  unfold saleOf at selling
  split at selling
  next => split at selling <;> cases selling
  next => split at selling <;> cases selling
  next type => exact type
  next => cases selling

theorem updateTrade_ordinary {db : StockDb} {cache : StockCache} {order : OrderMessage}
    (selling : saleOf order = some .ordinary) (checked : order.tradePolicy.checkAssets = true) :
    updateTrade db cache order =
      settled { order with sellCps := (sellSplit order).2.2 }
        (recorded order (settleWith Kind.sell.confirm db cache order.accountId order.stockID (sellSplit order).1
          (sellSplit order).2.1) order.stockID (synWith (dbSynTwo .etfRdp))) := by
  obtain ⟨type, sells⟩ := saleOf_ordinary selling
  rcases type with type | type <;> simp only [updateTrade, checked, type, sells, if_true] <;> rfl

theorem updateTrade_etf {db : StockDb} {cache : StockCache} {order : OrderMessage}
    (selling : saleOf order = some .etf) (checked : order.tradePolicy.checkAssets = true) :
    updateTrade db cache order =
      settled { order with sellEtfCps := (sellEtfSplit order).2.2 }
        (recorded order (settleWith Kind.sellEtf.confirm db cache order.accountId order.stockID (sellEtfSplit order).1
          (sellEtfSplit order).2.1) order.stockID (synWith (dbSynTwo .crt))) := by
  simp only [updateTrade, checked, saleOf_etf selling]
  rfl

private theorem Splits.covers {reserve left : UInt64 × UInt64} {qty part rest : UInt64} {first : Bucket}
    {volume : UserStockVolume} (splits : Splits reserve qty part rest left)
    (covers : Covers first volume reserve.1 reserve.2) : Covers first volume part rest := by
  have one := splits.first
  have two := splits.avl
  have firstCovered := covers.first
  have avlCovered := covers.avl
  have stkCovered := covers.stk
  exact ⟨by omega, by omega, by omega⟩

private theorem updateTrade_sale {sale : Sale} {db : StockDb} {cache : StockCache} {order : OrderMessage}
    {volume : UserStockVolume} {result : Updated} {bound : UInt64} (selling : saleOf order = some sale)
    (checked : order.tradePolicy.checkAssets = true)
    (found : cache order.accountId order.stockID = some volume)
    (sum : (sale.reserve order).1.toNat + (sale.reserve order).2.toNat = bound.toNat)
    (within : order.orderqtyMatched ≤ bound)
    (partly : sale = .ordinary ∨
      order.orderqtyMatched.toNat < (sale.reserve order).1.toNat + (sale.reserve order).2.toNat)
    (covers : Covers sale.kind.first volume (sale.reserve order).1 (sale.reserve order).2)
    (updated : updateTrade db cache order = some result) :
    saleOf result.order = some sale ∧ result.order.tradePolicy.checkAssets = true ∧
      result.order.leavesQty = order.leavesQty ∧ result.code = 0 ∧
      ∃ part rest after, result.cache result.order.accountId result.order.stockID = some after ∧
        Splits (sale.reserve order) order.orderqtyMatched part rest (sale.reserve result.order) ∧
        Takes sale.kind.first volume after part rest := by
  cases sale with
  | ordinary =>
    have splits := sellSplit_splits sum within
    obtain ⟨changed, after, wrote, code, stored, takes⟩ :=
      confirmed_takes .sell .etfRdp found (splits.covers covers)
    rw [updateTrade_ordinary selling checked, wrote, settled, Option.map_some, Option.some.injEq] at updated
    subst result
    exact ⟨selling, checked, rfl, by simp [code], _, _, after, stored, splits, takes⟩
  | etf =>
    have fewer := partly.resolve_left (by decide)
    have splits := sellEtfSplit_splits sum fewer
    obtain ⟨changed, after, wrote, code, stored, takes⟩ :=
      confirmed_takes .sellEtf .crt found (splits.covers covers)
    rw [updateTrade_etf selling checked, wrote, settled, Option.map_some, Option.some.injEq] at updated
    subst result
    exact ⟨selling, checked, rfl, by simp [code], _, _, after, stored, splits, takes⟩

private theorem Takes.covers {first : Bucket} {before after : UserStockVolume} {part rest : UInt64}
    (takes : Takes first after before part rest) : Covers first after part rest := by
  have one := takes.first
  have two := takes.avl
  have total := takes.stk
  exact ⟨by omega, by omega, by omega⟩

private theorem fill_held {sale : Sale} {before : UserStockVolume} {db : StockDb} {desk next : Desk} {qty : UInt64}
    (held : Held sale before desk) (step : Step db desk (.fill qty) next) (meets : Meets sale desk (.fill qty)) :
    Held sale before next ∧ Settles sale desk qty next := by
  cases step with
  | @fill _ _ result live within updated =>
    obtain ⟨selling, checked, remainder, volume, found, frozen⟩ := held
    simp only [live, Bool.false_eq_true, if_false] at frozen
    obtain ⟨selling', checked', leaves, code, part, rest, after, stored, splits, takes⟩ :=
      updateTrade_sale (show saleOf (filled desk.order qty) = some sale from selling) checked found
        (by rw [reserve_filled, remainder]) within (by rw [reserve_filled]; exact meets)
        (by rw [reserve_filled]; exact frozen.covers) updated
    have split : Splits (sale.reserve desk.order) qty part rest (sale.reserve result.order) := by
      rw [← reserve_filled sale desk.order qty]
      exact splits
    have left := UInt64.toNat_sub_of_le _ _ within
    have whole := split.whole
    have one := split.first
    have two := split.avl
    refine ⟨⟨selling', checked', ?_, after, stored, ?_⟩, part, rest, volume, after, found, stored, split, takes⟩
    · simp only [leaves, filled, left]
      omega
    · have frozenFirst := frozen.first
      have frozenAvl := frozen.avl
      have frozenStk := frozen.stk
      have takesFirst := takes.first
      have takesAvl := takes.avl
      have takesStk := takes.stk
      simp only [Bool.false_eq_true, if_false]
      exact ⟨by omega, by omega, by omega⟩

theorem updateCancel_sale {sale : Sale} {cache : StockCache} {order : OrderMessage} {volume : UserStockVolume}
    (selling : saleOf order = some sale) (checked : order.tradePolicy.checkAssets = true)
    (found : cache order.accountId order.stockID = some volume) (remains : order.leavesQty ≠ 0) :
    updateCancel cache order =
      some ⟨0, order, cache.store order.accountId order.stockID
        (sale.kind.deFroze volume (sale.reserve order).1 (sale.reserve order).2).volume⟩ := by
  have code (part rest : UInt64) : (sale.kind.deFroze volume part rest).code = 0 := by
    rw [sale.kind.deFroze_eq, deFrozeTo_eq sale.kind.avl_ne_first sale.kind.stk_ne_first]
  cases sale with
  | ordinary =>
    obtain ⟨type, sells⟩ := saleOf_ordinary selling
    have code : (UserStockVolume.sellDeFroze volume order.sellCps.etfRdp order.sellCps.avl).code = 0 := code _ _
    rcases type with type | type <;>
      simp only [updateCancel, checked, type, sells, remains, found, settled, Option.map_some, code] <;> rfl
  | etf =>
    have code : (UserStockVolume.sellEtfDeFroze volume order.sellEtfCps.etfCrt order.sellEtfCps.avl).code = 0 :=
      code _ _
    simp only [updateCancel, checked, saleOf_etf selling, remains, found, settled, Option.map_some, code]
    rfl

private theorem cancel_held {sale : Sale} {before : UserStockVolume} {db : StockDb} {desk next : Desk}
    (held : Held sale before desk) (step : Step db desk .cancel next) : Held sale before next := by
  cases step with
  | @cancel _ result live updated =>
    obtain ⟨selling, checked, remainder, volume, found, frozen⟩ := held
    simp only [live, Bool.false_eq_true, if_false] at frozen
    by_cases remains : desk.order.leavesQty = 0
    · simp only [updateCancel, checked, remains, if_true, Bool.true_eq_false, if_false,
        Option.some.injEq] at updated
      subst result
      have empty := congrArg UInt64.toNat remains
      rw [UInt64.toNat_zero] at empty
      refine ⟨selling, checked, remainder, volume, found, ?_⟩
      simp only [if_true]
      have one := frozen.first
      have two := frozen.avl
      have total := frozen.stk
      exact ⟨by simp only [UInt64.toNat_zero]; omega, by simp only [UInt64.toNat_zero]; omega,
        by simp only [UInt64.toNat_zero]; omega⟩
    · rw [updateCancel_sale selling checked found remains, Option.some.injEq] at updated
      subst result
      have takes := deFroze_takes sale.kind.avl_ne_first sale.kind.stk_ne_first frozen.covers
      rw [← sale.kind.deFroze_eq] at takes
      refine ⟨selling, checked, remainder, _, StockCache.store_same .., ?_⟩
      simp only [if_true]
      have one := frozen.first
      have two := frozen.avl
      have total := frozen.stk
      have takesFirst := takes.first
      have takesAvl := takes.avl
      have takesStk := takes.stk
      exact ⟨by simp only [UInt64.toNat_zero]; omega, by simp only [UInt64.toNat_zero]; omega,
        by simp only [UInt64.toNat_zero]; omega⟩

theorem freeze_held {sale : Sale} {env : Env} {order : OrderMessage} {cache : StockCache} {prepared : Prepared}
    {loaded : StockCache} {before : UserStockVolume} (selling : saleOf order = some sale)
    (checked : order.tradePolicy.checkAssets = true)
    (found : lookUp env.db cache order.accountId order.stockID = (loaded, some before))
    (sound : Sound before sale.kind order.leavesQty)
    (frozen : sale.freeze env order cache = some prepared) (success : prepared.code = 0) :
    Held sale before ⟨prepared.order, prepared.cache, false⟩ := by
  cases sale with
  | ordinary =>
    obtain ⟨_, sells⟩ := saleOf_ordinary selling
    simp only [Sale.freeze, frozeSell, checked, sells, and_self, if_true, UserStockHelper.sellFroze, frozeWith, found,
      finish] at frozen
    split at frozen
    next failed =>
      rw [Option.some.injEq] at frozen
      subst prepared
      exact absurd success failed
    next passed =>
      rw [Option.some.injEq] at frozen
      subst prepared
      obtain ⟨counts, whole⟩ := froze_counts sound success
      exact ⟨selling, checked, whole, _, StockCache.store_same .., counts⟩
  | etf =>
    simp only [Sale.freeze, frozeSellEtf, checked, if_true, UserStockHelper.sellEtfFroze, frozeWith, found, finish] at frozen
    split at frozen
    next failed =>
      rw [Option.some.injEq] at frozen
      subst prepared
      exact absurd success failed
    next passed =>
      rw [Option.some.injEq] at frozen
      subst prepared
      obtain ⟨counts, whole⟩ := froze_counts sound success
      exact ⟨selling, checked, whole, _, StockCache.store_same .., counts⟩

theorem step_held {sale : Sale} {before : UserStockVolume} {db : StockDb} {desk next : Desk} {event : Event}
    (held : Held sale before desk) (step : Step db desk event next) (meets : Meets sale desk event) :
    Held sale before next := by
  cases event with
  | fill qty => exact (fill_held held step meets).1
  | cancel => exact cancel_held held step

private theorem completed_released {sale : Sale} {before : UserStockVolume} {desk : Desk}
    (held : Held sale before desk) (completed : Completed desk) : Released sale before desk := by
  obtain ⟨_, _, remainder, volume, found, frozen⟩ := held
  refine ⟨volume, found, ?_⟩
  rcases completed with cancelled | empty
  · simpa only [cancelled, if_true] using frozen
  · split at frozen
    next => exact frozen
    next =>
      have empty := congrArg UInt64.toNat empty
      rw [UInt64.toNat_zero] at empty
      have one := frozen.first
      have two := frozen.avl
      have total := frozen.stk
      exact ⟨by simp only [UInt64.toNat_zero]; omega, by simp only [UInt64.toNat_zero]; omega,
        by simp only [UInt64.toNat_zero]; omega⟩

private theorem reserve_empty_iff {sale : Sale} {before : UserStockVolume} {desk : Desk}
    (held : Held sale before desk) : sale.reserve desk.order = (0, 0) ↔ desk.order.leavesQty = 0 := by
  have remainder := held.remainder
  rw [Prod.ext_iff, ← UInt64.toNat_inj, ← UInt64.toNat_inj, ← UInt64.toNat_inj]
  simp only [UInt64.toNat_zero]
  omega

/-- In every run from a sound freeze whose ETF fills leave something of the
reserve, each further such fill settles its own quantity, a completed order has
nothing frozen on the holding, and its record is empty exactly when there was
nothing left to cancel. -/
theorem sell_reserve_settles {sale : Sale} {env : Env} {order : OrderMessage} {cache loaded : StockCache}
    {prepared : Prepared} {before : UserStockVolume} {events : List Event} {desk : Desk}
    (selling : saleOf order = some sale) (checked : order.tradePolicy.checkAssets = true)
    (found : lookUp env.db cache order.accountId order.stockID = (loaded, some before))
    (sound : Sound before sale.kind order.leavesQty)
    (frozen : sale.freeze env order cache = some prepared) (success : prepared.code = 0)
    (run : Run (Steps.guarded (Step env.db) (Meets sale)) ⟨prepared.order, prepared.cache, false⟩ events desk) :
    (∀ qty next, Step env.db desk (.fill qty) next → Meets sale desk (.fill qty) → Settles sale desk qty next) ∧
    (Completed desk → Released sale before desk ∧
      (sale.reserve desk.order = (0, 0) ↔ desk.order.leavesQty = 0)) := by
  have held : Held sale before desk :=
    run.invariant (fun _ _ _ held taken => step_held held taken.1 taken.2)
      (freeze_held selling checked found sound frozen success)
  exact ⟨fun qty next step meets => (fill_held held step meets).2,
    fun completed => ⟨completed_released held completed, reserve_empty_iff held⟩⟩

/-- A database with one row for everybody, and nothing else to ask. -/
def sampleEnv (info : UserStockInfo) : Env where
  db := fun _ _ => some info
  quot := fun _ _ => none
  etfs := fun _ => none
  staticQuot := fun _ => none

def sampleSell : OrderMessage where
  tradeType := .aTrade
  side := "2"
  accountId := "A1"
  stockID := "000001"
  orderqtyOrigin := 15
  leavesQty := 15
  tradePolicy := { checkAssets := true }

def sampleEtfSell : OrderMessage where
  tradeType := .etfSell
  side := "2"
  accountId := "A1"
  stockID := "159901"
  orderqtyOrigin := 100
  leavesQty := 100
  tradePolicy := { checkAssets := true }

/-- Fifteen shares over both parts, twelve sold, the rest cancelled. -/
theorem sell_reserve_settles_cancelled :
    ∃ desk, Completed desk ∧
      Released .ordinary (create true 30 0 0 10 0 20 0) desk :=
  ⟨_, Or.inl rfl, ((sell_reserve_settles (show saleOf sampleSell = some .ordinary from rfl) rfl
    (show lookUp (sampleEnv ⟨30, 0, 0, 10, 0, 20, 0⟩).db (fun _ _ => none) _ _ = _ from rfl)
    ⟨Or.inr (Or.inr ⟨by decide, by decide, by decide⟩), by decide, by decide⟩ rfl rfl
    (.cons ⟨.fill 12 rfl (by decide) rfl, Or.inl rfl⟩ (.single ⟨.cancel rfl rfl, trivial⟩))).2
    (Or.inl rfl)).1⟩

/-- A hundred shares of a fund sold at once: nothing of them is confirmed. -/
theorem etf_reserve_stays_frozen :
    ¬ ∀ (sale : Sale) (env : Env) (order : OrderMessage) (cache loaded : StockCache) (prepared : Prepared)
        (before : UserStockVolume) (events : List Event) (desk : Desk),
      saleOf order = some sale → order.tradePolicy.checkAssets = true →
      lookUp env.db cache order.accountId order.stockID = (loaded, some before) →
      sale.freeze env order cache = some prepared → prepared.code = 0 →
      Run (Step env.db) ⟨prepared.order, prepared.cache, false⟩ events desk → Completed desk →
      Released sale before desk ∧ sale.reserve desk.order = (0, 0) := by
  intro always
  obtain ⟨⟨volume, found, takes⟩, _⟩ := always .etf (sampleEnv ⟨100, 0, 0, 0, 40, 60, 0⟩) sampleEtfSell
    (fun _ _ => none) _ _ _ _ _ rfl rfl rfl rfl rfl (.single (.fill 100 rfl (by decide) rfl)) (Or.inr rfl)
  have frozen := takes.first
  cases found
  revert frozen
  decide

end Simutgw.Proofs.SellReserve
