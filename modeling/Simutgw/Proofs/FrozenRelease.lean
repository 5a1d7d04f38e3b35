import Simutgw.CancelTask
import Simutgw.Proofs.CreationFreeze
import Simutgw.Proofs.MatchVerdict

/-! Whether an order that ends leaves any of its shares frozen. A prepared order carries
its own record of what it froze; a trade and a cancel by request release what they take
from the record, and no other end of an order releases anything. -/

namespace Simutgw.Proofs.FrozenRelease
open Logic ABStockMatch UserStockHelper UserStockVolume VolumeFreeze VolumeLedger SellReserve Holdings EtfSettlement
open MatchVerdict OutMemoryManage TaskCancelOrder PreTrade Preparation

/-- What an order has frozen of a security in a bucket, by its own record. -/
def share (order : OrderMessage) (stockID : String) (bucket : Bucket) : Nat :=
  match saleOf order with
  | some sale =>
    if stockID = order.stockID then drawn sale.kind.first (sale.reserve order).1 (sale.reserve order).2 bucket else 0
  | none => owed order stockID bucket

def reserved (sale : Sale) (order : OrderMessage) : Nat :=
  (sale.reserve order).1.toNat + (sale.reserve order).2.toNat

inductive Stage where
  | prepared
  | queued
  | ended
  deriving DecidableEq, Repr

/-- An order after its preparation, the holdings, and what everybody else has frozen of
its account's shares. -/
structure Life where
  order : OrderMessage
  cache : StockCache
  stage : Stage := .prepared
  others : String → Bucket → Int

/-- What happens to it: somebody else changes the holdings, it fails before it is queued,
it is queued, its task runs, with room to queue it again or without, or it is cancelled
by request. -/
inductive Event where
  | other (cache : StockCache)
  | fail
  | queue
  | work (round : Round) (room : Bool)
  | cancel (request : OrderMessage) (transId : String)

namespace Life

def step (db : StockDb) (life : Life) : Event → Option Life
  | .other cache =>
    some { life with
      cache
      others := fun stockID bucket => life.others stockID bucket +
        (frozen db life.order.accountId cache stockID bucket -
          frozen db life.order.accountId life.cache stockID bucket) }
  | .fail => if life.stage = .prepared then some { life with stage := .ended } else none
  | .queue =>
    if life.stage = .prepared ∧ (GenTaskHelper.genTaskMatch life.order).isSome then some { life with stage := .queued }
    else none
  | .work round room =>
    if life.stage = .queued then
      (GenTaskHelper.genTaskMatch life.order).bind fun kind =>
        (kind.run db round life.cache life.order).map fun attempt =>
          { life with
            order := attempt.order
            cache := attempt.cache
            stage := if attempt.requeued && room then .queued else .ended }
    else none
  | .cancel request transId =>
    if life.stage = .queued ∧ GenTaskHelper.genTaskMatch life.order = some .aBStockMatch then
      (released life.cache (procCancelSuccess request life.order transId)).map fun updated =>
        { life with order := updated.order, cache := updated.cache, stage := .ended }
    else none

end Life

def Step (db : StockDb) : Steps Life Event := fun before event after => before.step db event = some after

/-- Of what is frozen for the account, all is somebody else's once the order has ended. -/
def Released (db : StockDb) (life : Life) : Prop :=
  life.stage = .ended → ∀ stockID bucket,
    (frozen db life.order.accountId life.cache stockID bucket : Int) = life.others stockID bucket

/-- Nobody else has taken from a bucket more than they had frozen in it. -/
def Fair (life : Life) : Prop := ∀ stockID bucket, 0 ≤ life.others stockID bucket

/-- The order's updates of the holdings are those of its kind of trade. -/
def Books (order : OrderMessage) : Prop :=
  (order.isSz = true ∧ order.applID = "010") ∨ (order.isSz = false ∧ order.isSh = true)

/-- A trade of an ETF's sell takes it from the order's own record while it leaves
something there; the ordinary sell's always does. -/
def Draws (sale : Sale) (order : OrderMessage) (qty : UInt64) : Prop :=
  sale = .ordinary ∨ qty.toNat < reserved sale order ∨
    reserved sale order = 0 ∧ order.sellCps.etfRdp = 0 ∧ order.sellCps.avl = 0

/-- What a run of the order's task comes to. -/
def verdictOf (kind : TaskKind) (round : Round) (order : OrderMessage) : Verdict :=
  match kind with
  | .aBStockMatch => ordinaryVerdict round order
  | .etfMatch =>
    if order.side = Step.sideCrt ∨ order.side = Step.sideRdp then ⟨some order.leavesQty, false⟩ else ⟨none, false⟩
  | .shRuleMatch | .szRuleMatch | .cancelOrder | .validOrder => ⟨none, false⟩

/-- A creation or redemption that is settled in full: under the funds' application, with
nothing of a creation noted under the code its settlement leaves out. -/
structure SettlesFund (kind : TaskKind) (life : Life) : Prop where
  task : kind = .etfMatch
  side : life.order.side = Step.sideCrt ∨ life.order.side = Step.sideRdp
  sz : life.order.isSz = true
  applID : life.order.applID = "120"
  named : life.order.tradeType = .etfCrt → ∀ bucket, debit life.order.frozeComponents cashSecurityID bucket = 0
  fair : Fair life

/-- A sell is queued again, or ends with a trade of all that it still has reserved. -/
structure SettlesSale (sale : Sale) (life : Life) (verdict : Verdict) (room : Bool) : Prop where
  books : reserved sale life.order = 0 ∨ Books life.order ∧ Fair life
  draws : ∀ qty, verdict.traded = some qty → Draws sale life.order qty
  ends : (verdict.again && room) = true ∨ reserved sale life.order ≤ (verdict.traded.getD 0).toNat

/-- What keeps the law: an order ends with nothing reserved, or by a trade of the rest, or
by a request that is answered and booked. -/
def Meets (life : Life) : Event → Prop
  | .other _ | .queue => True
  | .fail => ∀ stockID bucket, share life.order stockID bucket = 0
  | .work round room => ∀ kind, GenTaskHelper.genTaskMatch life.order = some kind →
      match saleOf life.order with
      | some sale => SettlesSale sale life (verdictOf kind round life.order) room
      | none => (∀ stockID bucket, owed life.order stockID bucket = 0) ∨ SettlesFund kind life
  | .cancel _ _ => (∀ stockID bucket, share life.order stockID bucket = 0) ∨
      (Books life.order ∧ pushBack life.order = 0 ∧ Fair life)

/-- Until it ends an order has frozen what it has on record, which is no more than what
is left of it. -/
structure Held (db : StockDb) (life : Life) : Prop where
  checked : life.order.tradePolicy.checkAssets = true
  owns : ∀ stockID bucket, (frozen db life.order.accountId life.cache stockID bucket : Int) =
    life.others stockID bucket + if life.stage = .ended then 0 else (share life.order stockID bucket : Int)
  bounded : ∀ sale, saleOf life.order = some sale → reserved sale life.order ≤ life.order.leavesQty.toNat

theorem Held.released {db : StockDb} {life : Life} (held : Held db life) : Released db life := by
  intro ended stockID bucket
  have owns := held.owns stockID bucket
  rw [if_pos ended, Int.add_zero] at owns
  exact owns

section Records

variable {order asked after : OrderMessage} {sale : Sale}

theorem saleOf_alike (alike : Alike order after) : saleOf after = saleOf order := by
  unfold saleOf OrderMessage.sells
  rw [alike.tradeType, alike.side]

theorem drawn_split {first bucket : Bucket} {part rest left leftRest whole wholeRest : UInt64}
    (one : left.toNat + part.toNat = whole.toNat) (two : leftRest.toNat + rest.toNat = wholeRest.toNat) :
    drawn first left leftRest bucket + drawn first part rest bucket = drawn first whole wholeRest bucket := by
  unfold drawn
  split
  · exact one
  · split
    · exact two
    · split
      · omega
      · rfl

theorem drawn_zero (first bucket : Bucket) : drawn first 0 0 bucket = 0 := by
  unfold drawn
  split
  · rfl
  · split
    · rfl
    · split <;> rfl

theorem reserved_zero (nothing : reserved sale order = 0) : sale.reserve order = (0, 0) := by
  unfold reserved at nothing
  have one : (sale.reserve order).1 = 0 := UInt64.toNat_inj.mp (by rw [UInt64.toNat_zero]; omega)
  have two : (sale.reserve order).2 = 0 := UInt64.toNat_inj.mp (by rw [UInt64.toNat_zero]; omega)
  exact Prod.ext one two

theorem share_sale (selling : saleOf order = some sale) (stockID : String) (bucket : Bucket) :
    share order stockID bucket =
      if stockID = order.stockID then drawn sale.kind.first (sale.reserve order).1 (sale.reserve order).2 bucket
      else 0 := by
  simp only [share, selling]

theorem share_none (other : saleOf order = none) (stockID : String) (bucket : Bucket) :
    share order stockID bucket = owed order stockID bucket := by
  simp only [share, other]

theorem share_reserved_zero (selling : saleOf order = some sale) (nothing : reserved sale order = 0) (stockID : String)
    (bucket : Bucket) : share order stockID bucket = 0 := by
  rw [share_sale selling, reserved_zero nothing, drawn_zero, ite_self]

end Records

section Trades

variable {db : StockDb} {cache : StockCache} {order : OrderMessage} {updated : Updated} {sale : Sale}

theorem sellSplit_leaves {bound : UInt64} (fits : order.sellCps.etfRdp.toNat + order.sellCps.avl.toNat ≤ bound.toNat) :
    (sellSplit order).2.2.etfRdp.toNat + (sellSplit order).1.toNat = order.sellCps.etfRdp.toNat ∧
      (sellSplit order).2.2.avl.toNat + (sellSplit order).2.1.toNat = order.sellCps.avl.toNat ∧
      (sellSplit order).2.2.etfRdp.toNat + (sellSplit order).2.2.avl.toNat =
        order.sellCps.etfRdp.toNat + order.sellCps.avl.toNat - order.orderqtyMatched.toNat := by
  have top := bound.toNat_lt
  have sum : (order.sellCps.etfRdp + order.sellCps.avl).toNat =
      order.sellCps.etfRdp.toNat + order.sellCps.avl.toNat := by
    rw [UInt64.toNat_add, Nat.mod_eq_of_lt (by omega)]
  by_cases inside : order.orderqtyMatched ≤ order.sellCps.etfRdp + order.sellCps.avl
  · obtain ⟨whole, first, avl⟩ := sellSplit_splits sum.symm inside
    refine ⟨first, avl, ?_⟩
    simp only at first avl
    omega
  · have beyond := UInt64.lt_iff_toNat_lt.mp (UInt64.not_le.mp inside)
    unfold sellSplit
    simp only [if_neg inside, UInt64.toNat_zero]
    omega

theorem sellEtfSplit_leaves {bound : UInt64}
    (fits : order.sellEtfCps.etfCrt.toNat + order.sellEtfCps.avl.toNat ≤ bound.toNat)
    (draws : Draws .etf order order.orderqtyMatched) :
    (sellEtfSplit order).2.2.etfCrt.toNat + (sellEtfSplit order).1.toNat = order.sellEtfCps.etfCrt.toNat ∧
      (sellEtfSplit order).2.2.avl.toNat + (sellEtfSplit order).2.1.toNat = order.sellEtfCps.avl.toNat ∧
      (sellEtfSplit order).2.2.etfCrt.toNat + (sellEtfSplit order).2.2.avl.toNat =
        order.sellEtfCps.etfCrt.toNat + order.sellEtfCps.avl.toNat - order.orderqtyMatched.toNat := by
  have top := bound.toNat_lt
  have sum : (order.sellEtfCps.etfCrt + order.sellEtfCps.avl).toNat =
      order.sellEtfCps.etfCrt.toNat + order.sellEtfCps.avl.toNat := by
    rw [UInt64.toNat_add, Nat.mod_eq_of_lt (by omega)]
  rcases draws with other | fewer | ⟨nothing, noneFirst, noneAvl⟩
  · cases other
  · obtain ⟨whole, first, avl⟩ := sellEtfSplit_splits sum.symm fewer
    refine ⟨first, avl, ?_⟩
    simp only at first avl
    omega
  · have nothing : order.sellEtfCps.etfCrt.toNat + order.sellEtfCps.avl.toNat = 0 := nothing
    have beyond : ¬ order.orderqtyMatched < order.sellEtfCps.etfCrt + order.sellEtfCps.avl := by
      rw [UInt64.lt_iff_toNat_lt]
      omega
    unfold sellEtfSplit
    simp only [if_neg beyond, noneFirst, noneAvl, UInt64.toNat_zero]
    omega

theorem covered_counts {first bucket : Bucket} {asked : Bool} {stockID : String} {part avl : UInt64}
    {written : UserStockHelper.Changed} (different : Bucket.avl ≠ first) (apart : Bucket.stk ≠ first)
    (covers : ∀ counter, drawn first part avl counter ≤ frozen db order.accountId cache stockID counter)
    (wrote : recorded order (settleWith (confirmFrom first asked) db cache order.accountId stockID part avl) stockID
      (synWith (dbSynTwo bucket)) = some written) (other : String) (counter : Bucket) :
    frozen db order.accountId written.cache other counter +
        (if other = stockID then drawn first part avl counter else 0) =
      frozen db order.accountId cache other counter := by
  obtain ⟨written', found, counts⟩ :=
    confirmed_settles order asked bucket stockID part avl different apart covers (confirmed_held wrote)
  cases found.symm.trans wrote
  exact counts other counter

/-- A sell's trade: what leaves the record is no longer frozen. -/
structure Trades (db : StockDb) (sale : Sale) (order : OrderMessage) (cache : StockCache) (updated : Updated) :
    Prop where
  alike : Alike order updated.order
  leaves : updated.order.leavesQty = order.leavesQty
  record : reserved sale updated.order = reserved sale order - order.orderqtyMatched.toNat
  counts : ∀ stockID bucket, frozen db order.accountId updated.cache stockID bucket + share order stockID bucket =
    frozen db order.accountId cache stockID bucket + share updated.order stockID bucket

/-- The counts of a trade, once its update is known to be a confirm of what leaves the record. -/
theorem trade_counts {part rest : UInt64} {left : UInt64 × UInt64} {later : OrderMessage} {bucket : Bucket}
    {changed : UserStockHelper.Changed} (selling : saleOf order = some sale) (still : saleOf later = some sale)
    (stock : later.stockID = order.stockID) (leaves : sale.reserve later = left)
    (first : left.1.toNat + part.toNat = (sale.reserve order).1.toNat)
    (avl : left.2.toNat + rest.toNat = (sale.reserve order).2.toNat)
    (covers : ∀ bucket, share order order.stockID bucket ≤ frozen db order.accountId cache order.stockID bucket)
    (wrote : recorded order (settleWith sale.kind.confirm db cache order.accountId order.stockID part rest)
      order.stockID (synWith (dbSynTwo bucket)) = some changed) (stockID : String) (counter : Bucket) :
    frozen db order.accountId changed.cache stockID counter + share order stockID counter =
      frozen db order.accountId cache stockID counter + share later stockID counter := by
  have splits (counter : Bucket) := @drawn_split sale.kind.first counter _ _ _ _ _ _ first avl
  have covered (counter : Bucket) :
      drawn sale.kind.first part rest counter ≤ frozen db order.accountId cache order.stockID counter := by
    have whole := covers counter
    have split := splits counter
    rw [share_sale selling, if_pos rfl] at whole
    omega
  rw [sale.kind.confirm_eq] at wrote
  have count := covered_counts sale.kind.avl_ne_first sale.kind.stk_ne_first covered wrote stockID counter
  have split := splits counter
  rw [share_sale selling, share_sale still, stock, leaves]
  by_cases same : stockID = order.stockID
  · simp only [if_pos same] at count ⊢
    omega
  · simp only [if_neg same] at count ⊢
    omega

theorem updateTrade_trades {bound : UInt64} (selling : saleOf order = some sale)
    (checked : order.tradePolicy.checkAssets = true) (bounded : reserved sale order ≤ bound.toNat)
    (draws : Draws sale order order.orderqtyMatched)
    (covers : ∀ bucket, share order order.stockID bucket ≤ frozen db order.accountId cache order.stockID bucket)
    (done : updateTrade db cache order = some updated) : Trades db sale order cache updated := by
  cases sale with
  | ordinary =>
    rw [updateTrade_ordinary selling checked] at done
    obtain ⟨changed, wrote, rfl⟩ := Option.map_eq_some_iff.mp done
    obtain ⟨first, avl, sum⟩ := sellSplit_leaves bounded
    exact ⟨by constructor <;> rfl, rfl, sum, trade_counts selling selling rfl rfl first avl covers wrote⟩
  | etf =>
    rw [updateTrade_etf selling checked] at done
    obtain ⟨changed, wrote, rfl⟩ := Option.map_eq_some_iff.mp done
    obtain ⟨first, avl, sum⟩ := sellEtfSplit_leaves bounded draws
    exact ⟨by constructor <;> rfl, rfl, sum, trade_counts selling selling rfl rfl first avl covers wrote⟩

end Trades

section Updates

variable {db : StockDb} {cache : StockCache} {order : OrderMessage} {updated : Updated} {sale : Sale}

theorem updateAfterTrade_sale {bound : UInt64} (selling : saleOf order = some sale)
    (checked : order.tradePolicy.checkAssets = true) (bounded : reserved sale order ≤ bound.toNat)
    (draws : Draws sale order order.orderqtyMatched) (books : reserved sale order = 0 ∨ Books order)
    (covers : ∀ bucket, share order order.stockID bucket ≤ frozen db order.accountId cache order.stockID bucket)
    (done : updateAfterTrade db cache order = some updated) : Trades db sale order cache updated := by
  have unchanged (nothing : reserved sale order = 0) (same : updated = ⟨0, order, cache⟩) :
      Trades db sale order cache updated := by
    subst same
    exact ⟨.refl order, rfl, (show reserved sale order =
      reserved sale order - order.orderqtyMatched.toNat by omega), fun _ _ => rfl⟩
  have notBooked (booked : ¬ Books order) : reserved sale order = 0 := books.resolve_right booked
  unfold updateAfterTrade at done
  split at done
  next sz =>
    split at done
    next => exact updateTrade_trades selling checked bounded draws covers done
    next other =>
      have nothing := notBooked fun booked => booked.elim (fun sale => other sale.2) fun sh => by simp [sz] at sh
      split at done
      next =>
        apply unchanged nothing
        unfold updateETFCrtRdp at done
        cases sale with
        | ordinary =>
          rcases (saleOf_ordinary selling).1 with type | type <;> simpa [type] using done.symm
        | etf => simpa [saleOf_etf selling] using done.symm
      next => exact unchanged nothing (Option.some.inj done).symm
  next notSz =>
    split at done
    next => exact updateTrade_trades selling checked bounded draws covers done
    next notSh =>
      have nothing := notBooked fun booked => booked.elim (fun sz => notSz sz.1) fun sh => notSh sh.2
      exact unchanged nothing (Option.some.inj done).symm

theorem owed_zero (creates : order.tradeType ≠ .etfCrt) (redeems : order.tradeType ≠ .etfRdp) (stockID : String)
    (bucket : Bucket) : owed order stockID bucket = 0 := by
  unfold owed
  split
  next type => exact absurd type creates
  next type => exact absurd type redeems
  next => rfl

theorem updateTrade_other (other : saleOf order = none) (checked : order.tradePolicy.checkAssets = true)
    (done : updateTrade db cache order = some updated) :
    updated.order = order ∧ ∀ stockID bucket, frozen db order.accountId updated.cache stockID bucket =
      frozen db order.accountId cache stockID bucket := by
  have adds {syn : Bucket} (wrote : settled order (recorded order
      (addAct db cache order.accountId order.stockID order.orderqtyMatched) order.stockID
      (synStoredWith (dbSynOne syn))) = some updated) :
      updated.order = order ∧ ∀ stockID bucket, frozen db order.accountId updated.cache stockID bucket =
        frozen db order.accountId cache stockID bucket := by
    obtain ⟨written, recorded, counts⟩ := added_settles db cache order order.stockID order.orderqtyMatched syn
      (show Bucket.stk ≠ .actPch by decide)
    obtain ⟨changed, found, rfl⟩ := Option.map_eq_some_iff.mp wrote
    cases recorded.symm.trans found
    exact ⟨rfl, fun stockID bucket => (counts stockID bucket).1⟩
  have keeps (same : settled order (some ⟨0, cache⟩) = some updated) :
      updated.order = order ∧ ∀ stockID bucket, frozen db order.accountId updated.cache stockID bucket =
        frozen db order.accountId cache stockID bucket := by
    cases same
    exact ⟨rfl, fun _ _ => rfl⟩
  have trades {sold : Option Updated} (bought : (if order.sells then some Sale.ordinary else none) = none)
      (done : (if order.sells then sold
        else if order.buys then settled order (recorded order
          (addAct db cache order.accountId order.stockID order.orderqtyMatched) order.stockID addSyn)
        else settled order (some ⟨0, cache⟩)) = some updated) :
      updated.order = order ∧ ∀ stockID bucket, frozen db order.accountId updated.cache stockID bucket =
        frozen db order.accountId cache stockID bucket := by
    split at done
    next sells =>
      rw [if_pos sells] at bought
      cases bought
    next =>
      split at done
      next => exact adds done
      next => exact keeps done
  unfold saleOf at other
  simp only [updateTrade, checked, Bool.true_eq_false, if_false] at done
  cases type : order.tradeType with
  | aTrade =>
    simp only [type] at other done
    exact trades other done
  | bTrade =>
    simp only [type] at other done
    exact trades other done
  | etfSell => simp [type] at other
  | etfBuy =>
    simp only [type] at done
    exact adds done
  | _ =>
    simp only [type] at done
    exact keeps done

theorem updateETFCrtRdp_takes (checked : order.tradePolicy.checkAssets = true)
    (covers : ∀ stockID bucket, owed order stockID bucket ≤ frozen db order.accountId cache stockID bucket)
    (named : order.tradeType = .etfCrt → ∀ bucket, debit order.frozeComponents cashSecurityID bucket = 0)
    (done : updateETFCrtRdp db cache order = some updated) (stockID : String) (bucket : Bucket) :
    frozen db order.accountId updated.cache stockID bucket + owed order stockID bucket =
      frozen db order.accountId cache stockID bucket := by
  unfold updateETFCrtRdp at done
  split at done
  next type =>
    have noted (stockID : String) (bucket : Bucket) : owed order stockID bucket =
        debit order.frozeComponents stockID bucket := by simp only [owed, type]
    simp only [noted] at covers ⊢
    simp only [checked, if_true, Option.bind_eq_bind] at done
    obtain ⟨middle, loop, done⟩ := Option.bind_eq_some_iff.mp done
    obtain ⟨after, loop', counts⟩ := confirmComponents_settle checked covers (named type)
      (confirmComponents_frame checked loop).2.2
    cases loop'.symm.trans loop
    obtain ⟨written, wrote, added⟩ := added_settles db middle order order.stockID order.orderqtyMatched .crt
      (show Bucket.stk ≠ .crt by decide)
    obtain ⟨changed, found, done⟩ := Option.bind_eq_some_iff.mp done
    cases wrote.symm.trans found
    cases done
    rw [(added stockID bucket).1]
    exact counts stockID bucket
  next type =>
    have noted (stockID : String) (bucket : Bucket) : owed order stockID bucket = if stockID = order.stockID then
        drawn .actPch order.rdpEtfCps.actPch order.rdpEtfCps.avl bucket else 0 := by simp only [owed, type]
    simp only [checked, if_true, Option.bind_eq_bind] at done
    obtain ⟨middle, confirm, done⟩ := Option.bind_eq_some_iff.mp done
    obtain ⟨written, wrote, rfl⟩ := Option.map_eq_some_iff.mp confirm
    obtain ⟨after, loop, added⟩ := addComponents_settle db order.frozeComponents checked written.cache
    rw [loop, Option.bind_some, Option.some.injEq] at done
    subst updated
    rw [(added stockID bucket).1, noted]
    apply covered_counts (Kind.avl_ne_first .redemption) (Kind.stk_ne_first .redemption) ?_ wrote
    intro counter
    have covered := covers order.stockID counter
    rwa [noted, if_pos rfl] at covered
  next creates redeems =>
    cases done
    rw [owed_zero creates redeems]
    rfl

end Updates

section Work

variable {db : StockDb} {round : Round} {cache : StockCache} {order after : OrderMessage} {updated : Updated}
  {sale : Sale} {kind : TaskKind} {verdict : Verdict} {attempt : Attempt}

theorem run_comes (done : kind.run db round cache order = some attempt) :
    Comes db cache order (verdictOf kind round order) attempt := by
  have declines {declined : Attempt} (same : declined.cache = cache) (unmoved : Unmoved order declined.order)
      (ends : declined.requeued = false) : Comes db cache order ⟨none, false⟩ declined :=
    declines_comes same unmoved ends
  cases kind with
  | aBStockMatch => exact matchOrder_comes done
  | etfMatch =>
    simp only [TaskKind.run, TaskEtfMatch.matchOrder] at done
    unfold verdictOf
    simp only
    split at done
    next fund =>
      rw [if_pos fund]
      exact simulated_comes (allFilled_asks order order.orderPrice round.transId) done
    next other =>
      rw [if_neg other]
      cases done
      exact declines rfl ⟨.refl order, rfl, rfl, rfl⟩ rfl
  | shRuleMatch =>
    cases done
    exact declines rfl ⟨by constructor <;> rfl, rfl, rfl, rfl⟩ rfl
  | szRuleMatch =>
    cases done
    exact declines rfl ⟨by constructor <;> rfl, rfl, rfl, rfl⟩ rfl
  | cancelOrder => cases done
  | validOrder => cases done

theorem owed_alike (alike : Alike order after) : owed after = owed order := by
  funext stockID bucket
  simp only [owed, alike.tradeType, alike.frozeComponents, alike.rdpEtfCps, alike.stockID]

/-- What an order has on record depends on these fields only. -/
theorem share_alike (alike : Alike order after) (sellCps : after.sellCps = order.sellCps)
    (sellEtfCps : after.sellEtfCps = order.sellEtfCps) : share after = share order := by
  funext stockID bucket
  unfold share
  rw [saleOf_alike alike]
  cases saleOf order with
  | none => simp only [owed_alike alike]
  | some sale => cases sale <;> simp only [Sale.reserve, alike.stockID, sellCps, sellEtfCps]

theorem reserved_alike (sale : Sale) (sellCps : after.sellCps = order.sellCps)
    (sellEtfCps : after.sellEtfCps = order.sellEtfCps) :
    reserved sale after = reserved sale order := by
  cases sale <;> simp only [reserved, Sale.reserve, sellCps, sellEtfCps]

theorem books_alike (alike : Alike order after) : Books after ↔ Books order := by
  unfold Books OrderMessage.isSz OrderMessage.isSh
  rw [alike.tradeMarket, alike.applID]

/-- What a run of a sell's task does to the holdings and the record. -/
structure Sold (db : StockDb) (sale : Sale) (order : OrderMessage) (cache : StockCache) (verdict : Verdict)
    (attempt : Attempt) : Prop where
  alike : Alike order attempt.order
  record : reserved sale attempt.order = reserved sale order - (verdict.traded.getD 0).toNat
  bounded : reserved sale attempt.order ≤ attempt.order.leavesQty.toNat
  counts : ∀ stockID bucket, frozen db order.accountId attempt.cache stockID bucket + share order stockID bucket =
    frozen db order.accountId cache stockID bucket + share attempt.order stockID bucket

theorem work_sale (selling : saleOf order = some sale) (checked : order.tradePolicy.checkAssets = true)
    (bounded : reserved sale order ≤ order.leavesQty.toNat) (comes : Comes db cache order verdict attempt)
    (books : reserved sale order = 0 ∨ Books order)
    (draws : ∀ qty, verdict.traded = some qty → Draws sale order qty)
    (covers : ∀ bucket, share order order.stockID bucket ≤ frozen db order.accountId cache order.stockID bucket) :
    Sold db sale order cache verdict attempt := by
  cases traded : verdict.traded with
  | none =>
    obtain ⟨same, unmoved⟩ := comes.nothing traded
    have reserve := reserved_alike sale unmoved.sellCps unmoved.sellEtfCps
    refine ⟨unmoved.alike, ?_, ?_, ?_⟩
    · simp [traded, reserve]
    · rw [reserve, unmoved.leavesQty]
      exact bounded
    · intro stockID bucket
      rw [same, share_alike unmoved.alike unmoved.sellCps unmoved.sellEtfCps]
  | some qty =>
    obtain ⟨asked, updated, asks, done, same, unmoved⟩ := comes.something qty traded
    have askedShare := share_alike asks.alike asks.sellCps asks.sellEtfCps
    have askedReserve := reserved_alike sale asks.sellCps asks.sellEtfCps
    have trades : Trades db sale asked cache updated := by
      apply updateAfterTrade_sale ((saleOf_alike asks.alike).trans selling)
      · rw [asks.alike.tradePolicy]
        exact checked
      · rw [askedReserve]
        exact bounded
      · have drawsQty := draws qty traded
        unfold Draws at drawsQty ⊢
        rwa [askedReserve, asks.matched, asks.sellCps]
      · rw [askedReserve, books_alike asks.alike]
        exact books
      · rw [asks.alike.stockID, asks.alike.accountId, askedShare]
        exact covers
      · exact done
    have reserve : reserved sale attempt.order = reserved sale order - qty.toNat := by
      rw [reserved_alike sale unmoved.sellCps unmoved.sellEtfCps, trades.record, askedReserve, asks.matched]
    refine ⟨(asks.alike.trans trades.alike).trans unmoved.alike, ?_, ?_, ?_⟩
    · rw [traded]
      exact reserve
    · rw [reserve, unmoved.leavesQty, trades.leaves]
      have leaves := asks.leaves
      omega
    · intro stockID bucket
      have counts := trades.counts stockID bucket
      rw [asks.alike.accountId, askedShare] at counts
      rw [same, share_alike unmoved.alike unmoved.sellCps unmoved.sellEtfCps]
      exact counts

/-- An order that is no sell settles what it has noted, where it is a fund's, and
otherwise takes nothing. -/
structure Settles (db : StockDb) (order : OrderMessage) (cache : StockCache) : Prop where
  sz : order.isSz = true
  applID : order.applID = "120"
  named : order.tradeType = .etfCrt → ∀ bucket, debit order.frozeComponents cashSecurityID bucket = 0
  covers : ∀ stockID bucket, owed order stockID bucket ≤ frozen db order.accountId cache stockID bucket

theorem updateAfterTrade_other (other : saleOf order = none) (checked : order.tradePolicy.checkAssets = true)
    (settles : (∀ stockID bucket, owed order stockID bucket = 0) ∨ Settles db order cache)
    (done : updateAfterTrade db cache order = some updated) :
    updated.order = order ∧ ∀ stockID bucket, frozen db order.accountId updated.cache stockID bucket +
      owed order stockID bucket = frozen db order.accountId cache stockID bucket := by
  rcases settles with nothing | settles
  · have trade (done : updateTrade db cache order = some updated) : updated.order = order ∧
        ∀ stockID bucket, frozen db order.accountId updated.cache stockID bucket + owed order stockID bucket =
          frozen db order.accountId cache stockID bucket := by
      obtain ⟨same, counts⟩ := updateTrade_other other checked done
      refine ⟨same, fun stockID bucket => ?_⟩
      rw [nothing, counts, Nat.add_zero]
    have unchanged (same : some (⟨0, order, cache⟩ : Updated) = some updated) : updated.order = order ∧
        ∀ stockID bucket, frozen db order.accountId updated.cache stockID bucket + owed order stockID bucket =
          frozen db order.accountId cache stockID bucket := by
      cases same
      exact ⟨rfl, fun stockID bucket => by rw [nothing, Nat.add_zero]⟩
    unfold updateAfterTrade at done
    split at done
    next =>
      split at done
      next => exact trade done
      next =>
        split at done
        next =>
          refine ⟨QuoteMatching.updateETFCrtRdp_order done, updateETFCrtRdp_takes checked ?_ ?_ done⟩
          · intro stockID bucket
            rw [nothing]
            exact Nat.zero_le _
          · intro type bucket
            have zero := nothing cashSecurityID bucket
            simpa only [owed, type] using zero
        next => exact unchanged done
    next =>
      split at done
      next => exact trade done
      next => exact unchanged done
  · rw [updateAfterTrade_etf settles.sz settles.applID] at done
    exact ⟨QuoteMatching.updateETFCrtRdp_order done, updateETFCrtRdp_takes checked settles.covers settles.named done⟩

/-- What a run of another task does: it takes what is noted, or nothing was. -/
theorem work_other (other : saleOf order = none) (checked : order.tradePolicy.checkAssets = true)
    (comes : Comes db cache order verdict attempt)
    (settles : (∀ stockID bucket, owed order stockID bucket = 0) ∨
      verdict.traded.isSome = true ∧ Settles db order cache) :
    Alike order attempt.order ∧ ∀ stockID bucket, frozen db order.accountId attempt.cache stockID bucket +
      owed order stockID bucket = frozen db order.accountId cache stockID bucket := by
  cases traded : verdict.traded with
  | none =>
    obtain ⟨same, unmoved⟩ := comes.nothing traded
    have nothing := settles.resolve_right fun settles => by simp [traded] at settles
    refine ⟨unmoved.alike, fun stockID bucket => ?_⟩
    rw [same, nothing, Nat.add_zero]
  | some qty =>
    obtain ⟨asked, updated, asks, done, same, unmoved⟩ := comes.something qty traded
    have alike := asks.alike
    have owes := owed_alike alike
    have askedSettles : (∀ stockID bucket, owed asked stockID bucket = 0) ∨ Settles db asked cache := by
      rw [owes]
      refine settles.imp_right fun settles => ⟨?_, ?_, ?_, ?_⟩
      · rw [← settles.2.sz]
        unfold OrderMessage.isSz
        rw [alike.tradeMarket]
      · rw [alike.applID]
        exact settles.2.applID
      · rw [alike.tradeType, alike.frozeComponents]
        exact settles.2.named
      · rw [owes, alike.accountId]
        exact settles.2.covers
    obtain ⟨kept, counts⟩ := updateAfterTrade_other ((saleOf_alike alike).trans other)
      (by rw [alike.tradePolicy]; exact checked) askedSettles done
    rw [owes, alike.accountId] at counts
    refine ⟨alike.trans ?_, ?_⟩
    · rw [← kept]
      exact unmoved.alike
    · rw [same]
      exact counts

end Work

section Cancel

variable {db : StockDb} {cache : StockCache} {order : OrderMessage} {updated : Updated} {sale : Sale}

theorem updateCancel_none (other : saleOf order = none) : updateCancel cache order = some ⟨0, order, cache⟩ := by
  unfold saleOf at other
  unfold updateCancel
  cases type : order.tradeType with
  | etfSell => simp [type] at other
  | aTrade | bTrade =>
    have holds : order.sells = false := by simpa [type] using other
    simp [holds]
  | _ => simp

theorem updateCancel_takes (selling : saleOf order = some sale) (checked : order.tradePolicy.checkAssets = true)
    (bounded : reserved sale order ≤ order.leavesQty.toNat)
    (covers : ∀ bucket, share order order.stockID bucket ≤ frozen db order.accountId cache order.stockID bucket)
    (done : updateCancel cache order = some updated) :
    updated.order = order ∧ ∀ stockID bucket, frozen db order.accountId updated.cache stockID bucket +
      share order stockID bucket = frozen db order.accountId cache stockID bucket := by
  by_cases remains : order.leavesQty = 0
  · have empty : reserved sale order = 0 := by
      rw [remains, UInt64.toNat_zero] at bounded
      omega
    simp only [updateCancel, checked, remains, Bool.true_eq_false, if_false, if_true, Option.some.injEq] at done
    subst updated
    refine ⟨rfl, fun stockID bucket => ?_⟩
    rw [share_reserved_zero selling empty, Nat.add_zero]
  · cases cached : cache order.accountId order.stockID with
    | none =>
      have lost : updateCancel cache order = none := by
        cases sale with
        | ordinary =>
          obtain ⟨type, sells⟩ := saleOf_ordinary selling
          rcases type with type | type <;> simp [updateCancel, checked, type, sells, remains, cached, settled]
        | etf => simp [updateCancel, checked, saleOf_etf selling, remains, cached, settled]
      rw [lost] at done
      cases done
    | some volume =>
      rw [updateCancel_sale selling checked cached remains, Option.some.injEq] at done
      subst updated
      have held : Holdings.holding db cache order.accountId order.stockID = some volume := by
        simp only [Holdings.holding, lookUp, cached]
      have covered (bucket : Bucket) : drawn sale.kind.first (sale.reserve order).1 (sale.reserve order).2 bucket ≤
          (volume.get bucket).forzeVolume.toNat := by
        have whole := covers bucket
        rw [share_sale selling, if_pos rfl] at whole
        simpa only [frozen, held] using whole
      refine ⟨rfl, fun stockID bucket => ?_⟩
      rw [share_sale selling]
      by_cases same : stockID = order.stockID
      · simp only [frozen, holding_store, same, if_true, held, sale.kind.deFroze_eq]
        exact deFrozeTo_drawn sale.kind.avl_ne_first sale.kind.stk_ne_first covered bucket
      · simp only [frozen, holding_store, if_neg same, Nat.add_zero]

/-- A cancel's update releases what the order has on record, if it is booked as a trade
or there is nothing on record. -/
theorem updateAfterCancel_takes (checked : order.tradePolicy.checkAssets = true)
    (bounded : ∀ sale, saleOf order = some sale → reserved sale order ≤ order.leavesQty.toNat)
    (noFund : saleOf order = none → ∀ stockID bucket, share order stockID bucket = 0)
    (books : (∀ stockID bucket, share order stockID bucket = 0) ∨ Books order)
    (covers : ∀ bucket, share order order.stockID bucket ≤ frozen db order.accountId cache order.stockID bucket)
    (done : updateAfterCancel cache order = some updated) :
    updated.order = order ∧ ∀ stockID bucket, frozen db order.accountId updated.cache stockID bucket +
      share order stockID bucket = frozen db order.accountId cache stockID bucket := by
  have unchanged (nothing : ∀ stockID bucket, share order stockID bucket = 0)
      (same : some (⟨0, order, cache⟩ : Updated) = some updated) : updated.order = order ∧
      ∀ stockID bucket, frozen db order.accountId updated.cache stockID bucket + share order stockID bucket =
        frozen db order.accountId cache stockID bucket := by
    cases same
    exact ⟨rfl, fun stockID bucket => by rw [nothing, Nat.add_zero]⟩
  have cancel (done : updateCancel cache order = some updated) : updated.order = order ∧
      ∀ stockID bucket, frozen db order.accountId updated.cache stockID bucket + share order stockID bucket =
        frozen db order.accountId cache stockID bucket := by
    cases selling : saleOf order with
    | none => exact unchanged (noFund selling) ((updateCancel_none selling).symm.trans done)
    | some sale => exact updateCancel_takes selling checked (bounded sale selling) covers done
  unfold updateAfterCancel at done
  split at done
  next sz =>
    split at done
    next => exact cancel done
    next other =>
      apply unchanged (books.resolve_right fun booked => ?_) done
      exact booked.elim (fun sale => other sale.2) fun sh => by simp [sz] at sh
  next notSz =>
    split at done
    next => exact cancel done
    next notSh =>
      apply unchanged (books.resolve_right fun booked => ?_) done
      exact booked.elim (fun sz => notSz sz.1) fun sh => notSh sh.2

end Cancel

section Steps

variable {db : StockDb} {life before after : Life} {kind : TaskKind} {round : Round} {room : Bool} {attempt : Attempt}
  {sale : Sale}

/-- Where nobody else took too much, the counts cover what a live order has on record. -/
theorem Held.covers (held : Held db life) (fair : Fair life) (live : life.stage ≠ .ended) (stockID : String)
    (bucket : Bucket) : share life.order stockID bucket ≤ frozen db life.order.accountId life.cache stockID bucket := by
  have owns := held.owns stockID bucket
  have theirs := fair stockID bucket
  rw [if_neg live] at owns
  omega

/-- The life after its task has run. -/
def Life.worked (life : Life) (attempt : Attempt) (room : Bool) : Life :=
  { life with
    order := attempt.order
    cache := attempt.cache
    stage := if attempt.requeued && room then .queued else .ended }

/-- What is frozen beyond the others' is the order's, and nothing of it is once it has ended. -/
theorem owned {stage : Stage} {count mine : Nat} {others : Int} (counts : (count : Int) = others + mine)
    (released : stage = .ended → mine = 0) : (count : Int) = others + if stage = .ended then 0 else (mine : Int) := by
  split
  next ended =>
    have nothing := released ended
    omega
  next => exact counts

theorem worked_ended {verdict : Verdict} (again : attempt.requeued = verdict.again)
    (ended : (life.worked attempt room).stage = .ended) : (verdict.again && room) = false := by
  unfold Life.worked at ended
  rw [← again]
  cases requeued : attempt.requeued && room with
  | false => rfl
  | true => simp [requeued] at ended

theorem sale_held (held : Held db life) (queued : life.stage = .queued) (selling : saleOf life.order = some sale)
    (settles : SettlesSale sale life (verdictOf kind round life.order) room)
    (done : kind.run db round life.cache life.order = some attempt) : Held db (life.worked attempt room) := by
  have live : life.stage ≠ .ended := by simp [queued]
  have bounded := held.bounded sale selling
  have covers (bucket : Bucket) : share life.order life.order.stockID bucket ≤
      frozen db life.order.accountId life.cache life.order.stockID bucket := by
    rcases settles.books with nothing | ⟨-, fair⟩
    · rw [share_reserved_zero selling nothing]
      exact Nat.zero_le _
    · exact held.covers fair live _ _
  have comes := run_comes done
  have sold := work_sale selling held.checked bounded comes (settles.books.imp_right And.left) settles.draws covers
  have still : saleOf attempt.order = some sale := (saleOf_alike sold.alike).trans selling
  refine ⟨?_, fun stockID bucket => ?_, ?_⟩
  · show attempt.order.tradePolicy.checkAssets = true
    rw [sold.alike.tradePolicy]
    exact held.checked
  · have owns := held.owns stockID bucket
    have counts := sold.counts stockID bucket
    rw [if_neg live] at owns
    apply owned
    · show (frozen db attempt.order.accountId attempt.cache stockID bucket : Int) =
        life.others stockID bucket + share attempt.order stockID bucket
      rw [sold.alike.accountId]
      omega
    · intro ended
      apply share_reserved_zero still
      rcases settles.ends with again | ends
      · rw [worked_ended comes.again ended] at again
        cases again
      · rw [sold.record]
        omega
  · intro other found
    cases still.symm.trans found
    exact sold.bounded

theorem other_held (held : Held db life) (queued : life.stage = .queued) (other : saleOf life.order = none)
    (settles : (∀ stockID bucket, owed life.order stockID bucket = 0) ∨ SettlesFund kind life)
    (done : kind.run db round life.cache life.order = some attempt) : Held db (life.worked attempt room) := by
  have live : life.stage ≠ .ended := by simp [queued]
  have comes := run_comes done
  have fills (fund : SettlesFund kind life) : verdictOf kind round life.order = ⟨some life.order.leavesQty, false⟩ := by
    rw [fund.task]
    simp only [verdictOf, if_pos fund.side]
  have covered : (∀ stockID bucket, owed life.order stockID bucket = 0) ∨
      (verdictOf kind round life.order).traded.isSome = true ∧ Settles db life.order life.cache := by
    refine settles.imp_right fun fund => ⟨?_, fund.sz, fund.applID, fund.named, fun stockID bucket => ?_⟩
    · rw [fills fund]
      rfl
    · rw [← share_none other]
      exact held.covers fund.fair live stockID bucket
  obtain ⟨alike, counts⟩ := work_other other held.checked comes covered
  have still : saleOf attempt.order = none := (saleOf_alike alike).trans other
  refine ⟨?_, fun stockID bucket => ?_, ?_⟩
  · show attempt.order.tradePolicy.checkAssets = true
    rw [alike.tradePolicy]
    exact held.checked
  · have owns := held.owns stockID bucket
    have count := counts stockID bucket
    rw [if_neg live, share_none other] at owns
    have theirs : (frozen db attempt.order.accountId attempt.cache stockID bucket : Int) =
        life.others stockID bucket := by
      rw [alike.accountId]
      omega
    rcases settles with nothing | fund
    · have none : share attempt.order stockID bucket = 0 := by
        rw [share_none still, owed_alike alike, nothing]
      apply owned
      · show (frozen db attempt.order.accountId attempt.cache stockID bucket : Int) =
          life.others stockID bucket + share attempt.order stockID bucket
        rw [none]
        omega
      · exact fun _ => none
    · have ended : (life.worked attempt room).stage = .ended := by
        simp [Life.worked, comes.again, fills fund]
      rw [if_pos ended, Int.add_zero]
      exact theirs
  · intro sale found
    cases still.symm.trans found

theorem ordinary_owes (ordinary : GenTaskHelper.genTaskMatch life.order = some .aBStockMatch)
    (other : saleOf life.order = none) (stockID : String) (bucket : Bucket) : share life.order stockID bucket = 0 := by
  rw [share_none other]
  have rules (type : TadeType) (fund : type = .etfCrt ∨ type = .etfRdp) : life.order.tradeType ≠ type := by
    intro same
    unfold GenTaskHelper.genTaskMatch at ordinary
    rcases fund with rfl | rfl <;> rw [same] at ordinary <;> grind
  exact owed_zero (rules _ (.inl rfl)) (rules _ (.inr rfl)) stockID bucket

theorem cancel_held {request : OrderMessage} {transId : String} {updated : Updated} (held : Held db life)
    (queued : life.stage = .queued) (ordinary : GenTaskHelper.genTaskMatch life.order = some .aBStockMatch)
    (meets : (∀ stockID bucket, share life.order stockID bucket = 0) ∨
      (Books life.order ∧ pushBack life.order = 0 ∧ Fair life))
    (done : released life.cache (procCancelSuccess request life.order transId) = some updated) :
    Held db { life with order := updated.order, cache := updated.cache, stage := .ended } := by
  have live : life.stage ≠ .ended := by simp [queued]
  have unmoved : Unmoved life.order (procCancelSuccess request life.order transId) :=
    ⟨by constructor <;> rfl, rfl, rfl, rfl⟩
  have reserve (sale : Sale) :
      reserved sale (procCancelSuccess request life.order transId) = reserved sale life.order :=
    reserved_alike sale unmoved.sellCps unmoved.sellEtfCps
  have shares := share_alike unmoved.alike unmoved.sellCps unmoved.sellEtfCps
  have answered : updated.order = procCancelSuccess request life.order transId ∧ ∀ stockID bucket,
      frozen db life.order.accountId updated.cache stockID bucket + share life.order stockID bucket =
        frozen db life.order.accountId life.cache stockID bucket := by
    unfold released at done
    split at done
    next =>
      have covers (bucket : Bucket) : share life.order life.order.stockID bucket ≤
          frozen db life.order.accountId life.cache life.order.stockID bucket := by
        rcases meets with nothing | ⟨-, -, fair⟩
        · rw [nothing]
          exact Nat.zero_le _
        · exact held.covers fair live _ _
      rw [← shares]
      apply @updateAfterCancel_takes db life.cache (procCancelSuccess request life.order transId) updated held.checked
        ?_ ?_ ?_ ?_ done
      · intro sale found
        rw [reserve, unmoved.leavesQty]
        exact held.bounded sale ((saleOf_alike unmoved.alike).symm.trans found)
      · intro other
        rw [shares]
        exact ordinary_owes ordinary ((saleOf_alike unmoved.alike).symm.trans other)
      · rw [shares, books_alike unmoved.alike]
        exact meets.imp_right And.left
      · rw [shares]
        exact covers
    next kept =>
      cases done
      refine ⟨rfl, fun stockID bucket => ?_⟩
      rcases meets with nothing | ⟨-, pushed, -⟩
      · rw [nothing, Nat.add_zero]
      · exact absurd ⟨pushed, held.checked⟩ kept
  obtain ⟨same, counts⟩ := answered
  refine ⟨?_, fun stockID bucket => ?_, ?_⟩
  · rw [same]
    exact held.checked
  · have owns := held.owns stockID bucket
    have count := counts stockID bucket
    rw [if_neg live] at owns
    simp only [same, unmoved.alike.accountId, if_true]
    omega
  · intro sale found
    rw [same, saleOf_alike unmoved.alike] at found
    simp only [same]
    rw [reserve, unmoved.leavesQty]
    exact held.bounded sale found

theorem step_held {event : Event} (held : Held db before) (meets : Meets before event)
    (taken : Step db before event after) : Held db after := by
  cases event with
  | other cache =>
    simp only [Step, Life.step] at taken
    cases taken
    refine ⟨held.checked, fun stockID bucket => ?_, held.bounded⟩
    have owns := held.owns stockID bucket
    simp only
    omega
  | fail =>
    simp only [Step, Life.step] at taken
    split at taken
    next prepared =>
      cases taken
      refine ⟨held.checked, fun stockID bucket => ?_, held.bounded⟩
      have owns := held.owns stockID bucket
      rw [if_neg (by simp [prepared]), meets stockID bucket] at owns
      exact owns
    next => cases taken
  | queue =>
    simp only [Step, Life.step] at taken
    split at taken
    next prepared =>
      cases taken
      refine ⟨held.checked, fun stockID bucket => ?_, held.bounded⟩
      have owns := held.owns stockID bucket
      rw [if_neg (by simp [prepared.1])] at owns
      exact owns
    next => cases taken
  | work round room =>
    simp only [Step, Life.step] at taken
    split at taken
    next queued =>
      obtain ⟨kind, made, ran⟩ := Option.bind_eq_some_iff.mp taken
      obtain ⟨attempt, done, rfl⟩ := Option.map_eq_some_iff.mp ran
      have settles := meets kind made
      cases selling : saleOf before.order with
      | none =>
        rw [selling] at settles
        exact other_held held queued selling settles done
      | some sale =>
        rw [selling] at settles
        exact sale_held held queued selling settles done
    next => cases taken
  | cancel request transId =>
    simp only [Step, Life.step] at taken
    split at taken
    next queued =>
      obtain ⟨updated, done, rfl⟩ := Option.map_eq_some_iff.mp taken
      exact cancel_held held queued.1 queued.2 meets done
    next => cases taken

end Steps

section Preparation

variable {env : Env} {order : OrderMessage} {cache : StockCache} {prepared : Prepared}

/-- What a preparation that succeeds has frozen is on the order's record. -/
structure Prepares (env : Env) (order : OrderMessage) (cache : StockCache) (prepared : Prepared) : Prop where
  counts : ∀ stockID bucket, frozen env.db order.accountId prepared.cache stockID bucket =
    frozen env.db order.accountId cache stockID bucket + share prepared.order stockID bucket
  bounded : ∀ sale, saleOf prepared.order = some sale → reserved sale prepared.order ≤ order.leavesQty.toNat

/-- The order after its preparation; what was frozen before it is the others'. -/
def Life.started (env : Env) (order : OrderMessage) (cache : StockCache) (prepared : Prepared) : Life where
  order := prepared.order
  cache := prepared.cache
  others := fun stockID bucket => frozen env.db order.accountId cache stockID bucket

end Preparation

/-- A Shenzhen sell of fifteen shares, matched without a quote. -/
def divertedSell (mode : SysMatchMode) : OrderMessage :=
  { sampleSell with
    tradeMarket := tradeMarketSz
    applID := "010"
    tradePolicy := { checkAssets := true, matchMode := mode } }

/-- Ten of them are redeemed shares, the others come out of the available balance. -/
def divertedEnv : Env := sampleEnv ⟨30, 0, 0, 10, 0, 20, 0⟩

def divertedRound : Round := ⟨.averagePrice, none, false, "", "000000000000001"⟩

/-- The sell is refused by the match instead: its fifteen shares stay frozen. -/
theorem refused_sell_stays_frozen :
    ¬ ∀ (env : Env) (order : OrderMessage) (cache : StockCache) (prepared : Prepared) (events : List Event)
        (last : Life), order.tradePolicy.checkAssets = true → tradePrep env order cache = some prepared →
      prepared.code = 0 → Run (Step env.db) (.started env order cache prepared) events last → Released env.db last := by
  intro always
  have released := always divertedEnv (divertedSell .simulErrMatch) (fun _ _ => none) _
    [.queue, .work divertedRound true] _ rfl rfl rfl (.of_foldlM rfl)
  have total := released rfl "000001" .stk
  revert total
  decide

end Simutgw.Proofs.FrozenRelease
