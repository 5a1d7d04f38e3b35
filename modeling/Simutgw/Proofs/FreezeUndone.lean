import Simutgw.Proofs.Holdings
import Simutgw.Proofs.Preparation

/-! Where a preparation that fails leaves shares frozen. A refused sell puts back what
it drew; a refused redemption does not; a creation draws only after every component
has been asked for, and can then stop halfway. -/

namespace Simutgw.Proofs.FreezeUndone
open PreTrade UserStockHelper UserStockVolume VolumeFreeze VolumeLedger Holdings QuoteMatching Preparation

/-- No security of the account has more or less frozen than before. -/
def Untouched (db : StockDb) (account : String) (before after : StockCache) : Prop :=
  ∀ stockID bucket, frozen db account after stockID bucket = frozen db account before stockID bucket

/-- The preparation ends, and has frozen nothing where it fails. -/
def Clean (db : StockDb) (account : String) (cache : StockCache) (prepared : Option Prepared) : Prop :=
  ∃ done, prepared = some done ∧ (done.code < 0 → Untouched db account cache done.cache)

/-- It succeeds with the order not yet matched, or fails. -/
def Coded (prepared : Option Prepared) : Prop :=
  ∀ done, prepared = some done → done.code = 0 ∧ done.order.matchType = .notMatch ∨ done.code < 0

variable {db : StockDb} {cache : StockCache} {account stockID : String}

theorem Untouched.of_holding {after : StockCache}
    (same : ∀ other, holding db after account other = holding db cache account other) :
    Untouched db account cache after := by
  intro other bucket
  unfold frozen
  rw [same]

theorem Untouched.refl (db : StockDb) (account : String) (cache : StockCache) : Untouched db account cache cache :=
  fun _ _ => rfl

section Freezes

theorem froze_code (kind : Kind) (volume : UserStockVolume) (amount : UInt64) :
    (kind.froze volume amount).code = 0 ∨ (kind.froze volume amount).code = -1 := by
  rw [kind.froze_eq, frozeFrom_code kind.avl_ne_first kind.avl_ne_rollback]
  split
  next => exact .inr rfl
  next => exact .inl rfl

end Freezes

section Creation

/-- What creations' freezes do to the two counters they draw on: shares move from the
free part to the frozen part, and never back. -/
structure Moved (before after : UserStockVolume) (bucket : Bucket) : Prop where
  drains : (after.get bucket).unFrozeVolume ≤ (before.get bucket).unFrozeVolume
  worth : (after.get bucket).unFrozeVolume + (after.get bucket).forzeVolume =
    (before.get bucket).unFrozeVolume + (before.get bucket).forzeVolume

theorem Moved.refl (volume : UserStockVolume) (bucket : Bucket) : Moved volume volume bucket :=
  ⟨UInt64.le_refl _, rfl⟩

theorem Moved.trans {first second third : UserStockVolume} {bucket : Bucket} (one : Moved first second bucket)
    (two : Moved second third bucket) : Moved first third bucket :=
  ⟨UInt64.le_trans two.drains one.drains, two.worth.trans one.worth⟩

theorem froze_moves (counter : FrozeVolume) (amount : UInt64) :
    (counter.froze amount).volume.unFrozeVolume ≤ counter.unFrozeVolume ∧
      (counter.froze amount).volume.unFrozeVolume + (counter.froze amount).volume.forzeVolume =
        counter.unFrozeVolume + counter.forzeVolume := by
  have drawn := counter.froze_unfrozen amount
  constructor
  · rw [UInt64.le_iff_toNat_le]
    omega
  · simp only [FrozeVolume.froze]
    rw [UInt64.add_comm counter.forzeVolume, ← UInt64.add_assoc, UInt64.sub_add_cancel]

theorem creationQuery_code (volume : UserStockVolume) (wanted : UInt64) :
    (volume.creationQuery wanted).code = 0 ↔ wanted.toNat ≤ free .actPch volume := by
  have act : volume.stkActPchBalance = volume.get .actPch := rfl
  have avl : volume.stkAvlBalance = volume.get .avl := rfl
  unfold UserStockVolume.creationQuery free
  simp only [act, avl, FrozeVolume.query]
  rcases UInt64.lt_or_le (volume.get .actPch).unFrozeVolume wanted with short | covered
  · have rest := UInt64.toNat_sub_of_le _ _ (UInt64.le_of_lt short)
    rw [if_pos short]
    simp only [Int.reduceNeg, Int.reduceEq, if_false]
    split
    next lacking =>
      rw [UInt64.lt_iff_toNat_lt, rest] at lacking
      exact iff_of_false (by simp) (by omega)
    next enough =>
      rw [UInt64.lt_iff_toNat_lt, rest] at enough
      exact iff_of_true rfl (by omega)
  · rw [if_neg (UInt64.not_lt.mpr covered)]
    rw [UInt64.le_iff_toNat_le] at covered
    exact iff_of_true rfl (by omega)

/-- What the asking has found of a component: cash alone, or a holding that covers it or
is helped out with cash at a quotation. -/
def Asked (db : StockDb) (quot : StaticQuot) (account : String) (times : UInt64) (cache : StockCache)
    (component : SzEtfComponent) : Prop :=
  component.substituteFlag = onlyCash ∨ ∃ volume,
    holding db cache account component.underlyingSecurityID = some volume ∧
      ((times * component.componentShare).toNat ≤ free .actPch volume ∨
        quot component.underlyingSecurityID ≠ none)

variable {quot : StaticQuot} {times : UInt64}

theorem queryComponent_asks (cache : StockCache) (maxCash : Rat) (component : SzEtfComponent) :
    (∀ other, holding db (queryComponent db quot account times (cache, maxCash) component).1 account other =
        holding db cache account other) ∧
      ((queryComponent db quot account times (cache, maxCash) component).2 ≠ none →
        Asked db quot account times cache component) := by
  obtain ⟨answers, same⟩ := lookUp_eq db cache account component.underlyingSecurityID
  unfold queryComponent
  simp only
  split
  next cash => exact ⟨fun _ => rfl, fun _ => .inl cash⟩
  next =>
    cases read : lookUp db cache account component.underlyingSecurityID with
    | mk loaded answer =>
      rw [read] at answers same
      cases answer with
      | none => exact ⟨same, fun found => absurd rfl found⟩
      | some volume =>
        simp only
        split
        next covered => exact ⟨same, fun _ => .inr ⟨volume, answers.symm, .inl ((creationQuery_code _ _).mp covered)⟩⟩
        next =>
          split
          next => exact ⟨same, fun found => absurd rfl found⟩
          next =>
            cases quoted : quot component.underlyingSecurityID with
            | none => exact ⟨same, fun found => absurd rfl found⟩
            | some quote =>
              simp only
              split
              next => exact ⟨same, fun found => absurd rfl found⟩
              next => exact ⟨same, fun _ => .inr ⟨volume, answers.symm, .inr (by simp [quoted])⟩⟩

theorem queryComponents_asks (cache : StockCache) (maxCash : Rat) (components : List SzEtfComponent) :
    (∀ other, holding db (queryComponents db quot account times cache maxCash components).2 account other =
        holding db cache account other) ∧
      ((queryComponents db quot account times cache maxCash components).1 = 0 ∧
          (∀ component ∈ components, Asked db quot account times cache component) ∨
        (queryComponents db quot account times cache maxCash components).1 = -1) := by
  induction components generalizing cache maxCash with
  | nil => exact ⟨fun _ => rfl, .inl ⟨rfl, fun _ member => nomatch member⟩⟩
  | cons component components ih =>
    have asks := @queryComponent_asks db account quot times cache maxCash component
    simp only [queryComponents]
    cases read : queryComponent db quot account times (cache, maxCash) component with
    | mk loaded answer =>
      rw [read] at asks
      obtain ⟨same, asked⟩ := asks
      cases answer with
      | none => exact ⟨same, .inr rfl⟩
      | some left =>
        obtain ⟨later, ends⟩ := ih loaded left
        refine ⟨fun other => (later other).trans (same other), ?_⟩
        rcases ends with ⟨code, rest⟩ | code
        · refine .inl ⟨code, List.forall_mem_cons.mpr ⟨asked (by simp), fun other member => ?_⟩⟩
          have known := rest other member
          unfold Asked at known ⊢
          rwa [same] at known
        · exact .inr code

/-- What the freezing has done so far to the holdings it found. -/
def Drawing (db : StockDb) (account : String) (before after : StockCache) : Prop :=
  ∀ other volume, holding db before account other = some volume → ∃ drawn,
    holding db after account other = some drawn ∧ Moved volume drawn .actPch ∧ Moved volume drawn .avl

theorem Drawing.of_holding {before after : StockCache}
    (same : ∀ other, holding db after account other = holding db before account other) :
    Drawing db account before after :=
  fun other volume held => ⟨volume, (same other).trans held, .refl _ _, .refl _ _⟩

/-- Some counter of a security's holding has more or less frozen than before. -/
def Touched (db : StockDb) (account : String) (before after : StockCache) (stockID : String) : Prop :=
  ∃ bucket, frozen db account after stockID bucket ≠ frozen db account before stockID bucket

end Creation

section Preparations

variable {env : Env} {order : OrderMessage}

theorem checkOrderByQuotation_cases (env : Env) (order : OrderMessage) :
    checkOrderByQuotation env order = (0, order) ∨ ∃ refused, checkOrderByQuotation env order = (-1, refused) := by
  unfold checkOrderByQuotation
  split
  next => exact .inl rfl
  next quote _ =>
    rcases checkTPBZ_cases order quote.tpbz with ⟨_, passed⟩ | ⟨_, refused, found, _⟩
    · simp only [PreTrade.checkTPBZ, passed]
      split
      next =>
        rcases checkMaxGainAndMinFall_cases order quote with ⟨_, passed⟩ | ⟨_, refused, found, _⟩
        · exact .inl passed
        · exact .inr ⟨refused, found⟩
      next => exact .inl rfl
    · simp only [PreTrade.checkTPBZ, found]
      exact .inr ⟨refused, rfl⟩

/-- The fund takes the order: its side is open, and it asks for a unit at least. -/
def Admits (order : OrderMessage) (etf : SzEtf) : Prop :=
  (if order.side = "D" then etf.creation else etf.redemption) = true ∧
    etf.creationRedemptionUnit ≤ order.orderqtyOrigin

theorem validateETF_cases (env : Env) (order : OrderMessage) :
    (∃ etf, env.etfs order.stockID = some etf ∧ Admits order etf ∧
        validateETF env order = (0, order.markedAs .notMatch)) ∨
      (∃ refused, validateETF env order = (-1, refused)) ∧
        ∀ etf, env.etfs order.stockID = some etf → ¬ Admits order etf := by
  unfold validateETF Admits
  have stock : (order.markedAs .notMatch).stockID = order.stockID := rfl
  have side : (order.markedAs .notMatch).side = order.side := rfl
  have asked : (order.markedAs .notMatch).orderqtyOrigin = order.orderqtyOrigin := rfl
  simp only [stock, side, asked]
  cases known : env.etfs order.stockID with
  | none => exact .inr ⟨⟨_, rfl⟩, fun _ found => nomatch found⟩
  | some etf =>
    by_cases closed : (if order.side = "D" then etf.creation else etf.redemption) = false
    · refine .inr ⟨⟨_, if_pos closed⟩, ?_⟩
      rintro _ ⟨⟩ admits
      exact absurd (closed.symm.trans admits.1) (by decide)
    · simp only [if_neg closed]
      by_cases few : etf.creationRedemptionUnit > order.orderqtyOrigin
      · refine .inr ⟨⟨_, if_pos few⟩, ?_⟩
        rintro _ ⟨⟩ admits
        exact UInt64.not_le.mpr few admits.2
      · exact .inl ⟨etf, rfl, ⟨Bool.not_eq_false _ ▸ closed, UInt64.not_lt.mp few⟩, if_neg few⟩

end Preparations

end Simutgw.Proofs.FreezeUndone
