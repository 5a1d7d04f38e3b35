import Simutgw.Proofs.CreationPaths
import Mathlib.Algebra.Order.BigOperators.Group.List
import Mathlib.Algebra.Order.Ring.Rat
import Mathlib.Tactic.Linarith

/-! The cash a creation notes for the shares it does not get, against the fund's cap.
Asking and freezing keep different accounts of the same holdings: the asking meets
every component with the whole of its security, the freezing with what earlier
components have left of it. -/

namespace Simutgw.Proofs.CashCap
open UserStockHelper UserStockVolume VolumeFreeze VolumeLedger Holdings CreationFreeze CreationPaths

/-- What a creation can draw on of a security, in the order it does. -/
structure Pots where
  act : Nat
  avl : Nat
  deriving DecidableEq

namespace Pots

def all (pots : Pots) : Nat := pots.act + pots.avl

def missing (pots : Pots) (wanted : Nat) : Nat := wanted - pots.all

/-- What is there in full is taken out of the bought shares first; of what is not, the
bought shares are gone and the available balance is given back. -/
def draw (pots : Pots) (wanted : Nat) : Pots :=
  if wanted ≤ pots.all then ⟨pots.act - wanted, pots.avl - (wanted - pots.act)⟩ else ⟨0, pots.avl⟩

end Pots

def potsOf (volume : UserStockVolume) : Pots := ⟨loose volume .actPch, loose volume .avl⟩

/-- The pots of the account's securities; there are none of a security it does not hold. -/
def potsIn (db : StockDb) (account : String) (cache : StockCache) (stockID : String) : Pots :=
  ((holding db cache account stockID).map potsOf).getD ⟨0, 0⟩

/-- The pots after a component has been drawn. -/
def drawnFrom (times : UInt64) (pots : String → Pots) (component : SzEtfComponent) : String → Pots :=
  if component.substituteFlag = onlyCash then pots
  else fun stockID =>
    if stockID = component.underlyingSecurityID then (pots stockID).draw (wanted times component).toNat
    else pots stockID

/-- The price of the shares missing of a component that cash may stand in for, as a word. -/
def price (quot : StaticQuot) (times : UInt64) (pots : Pots) (component : SzEtfComponent) : Nat :=
  if component.substituteFlag = securityAndCash then
    match quot component.underlyingSecurityID with
    | none => 0
    | some (zrsp, _) =>
      pots.missing (wanted times component).toNat * unitCash zrsp component.premiumRatio % 2 ^ 64
  else 0

/-- The price of all that is missing, every component drawing on what those before it left. -/
def shortfall (quot : StaticQuot) (times : UInt64) : (String → Pots) → List SzEtfComponent → Nat
  | _, [] => 0
  | pots, component :: rest =>
    price quot times (pots component.underlyingSecurityID) component +
      shortfall quot times (drawnFrom times pots component) rest

/-- The cash of a note where cash may stand in for shares. -/
def substituted (component : SzEtfComponent) (note : EtfCrtFrozeComponent) : Nat :=
  if component.substituteFlag = securityAndCash then note.cash.toNat else 0

def recorded (components : List SzEtfComponent) (notes : List EtfCrtFrozeComponent) : Nat :=
  (List.zipWith substituted components notes).sum

/-- What the fund lets cash stand in for: units, times their value, times the ratio. -/
def cap (etf : SzEtf) (etfQty : UInt64) : Rat :=
  ((etfQty.toNat / etf.creationRedemptionUnit.toNat : Nat) : Rat) * (etf.navPerCU.toNat : Rat) * etf.maxCashRatio

section Draws

variable {db : StockDb} {quot : StaticQuot} {account : String} {times : UInt64} {now : StockCache}
  {component : SzEtfComponent} {components : List SzEtfComponent} {volume : UserStockVolume}

/-- A freeze draws on the two counters as on the two pots, and reports what they lack. -/
theorem creationFroze_pots (volume : UserStockVolume) (wanted : UInt64) :
    potsOf (volume.creationFroze wanted).volume = (potsOf volume).draw wanted.toNat ∧
      ((volume.creationFroze wanted).code = 0 ↔ wanted.toNat ≤ (potsOf volume).all) ∧
      (wanted - (volume.creationFroze wanted).first - (volume.creationFroze wanted).avl).toNat =
        (potsOf volume).missing wanted.toNat := by
  have total : free .actPch volume = loose volume .actPch + loose volume .avl := rfl
  obtain ⟨code, act, avl, sum⟩ := creationFroze_draws volume wanted
  have one := UInt64.toNat_sub_of_le wanted (volume.creationFroze wanted).first (by rw [UInt64.le_iff_toNat_le]; omega)
  have lacks := UInt64.toNat_sub_of_le (wanted - (volume.creationFroze wanted).first) (volume.creationFroze wanted).avl
    (by rw [UInt64.le_iff_toNat_le, one]; omega)
  unfold potsOf Pots.draw Pots.missing Pots.all
  rw [lacks, one, code, act, avl, ← total]
  dsimp only
  by_cases enough : wanted.toNat ≤ free .actPch volume
  · rw [if_pos enough, if_pos enough]
    exact ⟨rfl, Iff.rfl, by omega⟩
  · rw [if_neg enough, if_neg enough, Pots.mk.injEq]
    exact ⟨⟨by omega, rfl⟩, Iff.rfl, by omega⟩

theorem potsIn_held {volume : UserStockVolume} {stockID : String} (held : holding db now account stockID = some volume) :
    potsIn db account now stockID = potsOf volume := by
  simp only [potsIn, held, Option.map_some, Option.getD_some]

theorem potsIn_eq {other : StockCache}
    (same : ∀ stockID, holding db other account stockID = holding db now account stockID) :
    potsIn db account other = potsIn db account now := by
  funext stockID
  unfold potsIn
  rw [same]

theorem substituteCash_toNat (missing zrsp : UInt64) (premiumRatio : Rat) :
    (substituteCash missing zrsp premiumRatio).toNat = missing.toNat * unitCash zrsp premiumRatio % 2 ^ 64 := by
  unfold substituteCash unitCash
  rw [UInt64.toNat_mul, UInt64.toNat_ofNat', Nat.mul_mod_mod]

theorem noted_price {note : EtfCrtFrozeComponent}
    (made : noted quot times component (volume.creationFroze (wanted times component)) = some note) :
    substituted component note = price quot times (potsOf volume) component := by
  obtain ⟨-, covers, lacks⟩ := creationFroze_pots volume (wanted times component)
  unfold substituted price
  by_cases may : component.substituteFlag = securityAndCash
  · rw [if_pos may, if_pos may]
    unfold noted at made
    simp only [may, and_true] at made
    split at made
    next refused =>
      obtain ⟨quote, quoted, rfl⟩ := Option.map_eq_some_iff.mp made
      simp only [quoted, substituteCash_toNat, lacks]
    next taken =>
      have enough := covers.mp (not_not.mp taken)
      have none : (potsOf volume).missing (wanted times component).toNat = 0 := Nat.sub_eq_zero_of_le enough
      cases made
      rw [none]
      split
      next => rfl
      next => rw [Nat.zero_mul]; rfl
  · rw [if_neg may, if_neg may]

theorem frozeComponent_price {after : StockCache} {note : EtfCrtFrozeComponent}
    (done : frozeComponent db quot account times now component = some (after, some note)) :
    substituted component note =
        price quot times (potsIn db account now component.underlyingSecurityID) component ∧
      potsIn db account after = drawnFrom times (potsIn db account now) component := by
  by_cases cash : component.substituteFlag = onlyCash
  · rw [frozeComponent_cash cash] at done
    cases done
    have apart : component.substituteFlag ≠ securityAndCash := by
      rw [cash]
      decide
    unfold substituted price drawnFrom
    rw [if_neg apart, if_neg apart, if_pos cash]
    exact ⟨rfl, rfl⟩
  · cases held : holding db now account component.underlyingSecurityID with
    | none =>
      rw [frozeComponent_missing cash held] at done
      cases done
    | some volume =>
      obtain ⟨stored, froze, holdings⟩ := @frozeComponent_found db quot account times now component cash volume held
      rw [froze] at done
      obtain ⟨rfl, made⟩ := Prod.mk.inj (Option.some.inj done)
      have here := potsIn_held held
      refine ⟨by rw [here, noted_price made], ?_⟩
      funext stockID
      unfold drawnFrom
      rw [if_neg cash]
      by_cases own : stockID = component.underlyingSecurityID
      · rw [if_pos own, own, here, ← (creationFroze_pots volume (wanted times component)).1]
        simp only [potsIn, holdings, if_true, Option.map_some, Option.getD_some]
      · simp only [potsIn, holdings, if_neg own]

/-- The freezing, from any holdings: the substitute cash it notes is the shortfall. -/
theorem frozeComponents_shortfall {records : List EtfCrtFrozeComponent} {code : Int} {after : StockCache}
    {made : List EtfCrtFrozeComponent}
    (done : frozeComponents db quot account times now records components = some (code, after, made))
    (success : code = 0) :
    ∃ notes, made = records ++ notes ∧
      recorded components notes = shortfall quot times (potsIn db account now) components := by
  induction components generalizing now records with
  | nil =>
    cases done
    exact ⟨[], (List.append_nil _).symm, rfl⟩
  | cons component components ih =>
    unfold frozeComponents at done
    split at done
    next => cases done
    next =>
      cases done
      cases success
    next next note froze =>
      obtain ⟨notes, rfl, rest⟩ := ih done
      obtain ⟨here, drawn⟩ := frozeComponent_price froze
      refine ⟨note :: notes, by simp, ?_⟩
      rw [shortfall, ← drawn, ← rest, ← here]
      rfl

end Draws

section Asking

variable {db : StockDb} {quot : StaticQuot} {account : String} {times : UInt64} {now : StockCache} {maxCash : Rat}
  {component : SzEtfComponent} {components : List SzEtfComponent} {volume : UserStockVolume} {pots seen : String → Pots}

/-- What the asking takes off the cash for a component: the price without the premium,
on the whole of what is held. -/
def deducted (quot : StaticQuot) (times : UInt64) (pots : Pots) (component : SzEtfComponent) : Nat :=
  if component.substituteFlag = onlyCash then 0
  else
    match quot component.underlyingSecurityID with
    | none => 0
    | some (zrsp, _) => pots.missing (wanted times component).toNat * zrsp.toNat % 2 ^ 64

theorem creationQuery_lacks {wanted : UInt64} (short : (volume.creationQuery wanted).code ≠ 0) :
    (wanted - (volume.creationQuery wanted).max).toNat = (potsOf volume).missing wanted.toNat := by
  have beyond := mt (FreezeUndone.creationQuery_code volume wanted).mpr short
  have act : volume.stkActPchBalance = volume.get .actPch := rfl
  have avl : volume.stkAvlBalance = volume.get .avl := rfl
  unfold UserStockVolume.creationQuery at short ⊢
  unfold free at beyond
  simp only [act, avl, FrozeVolume.query] at short ⊢
  rcases UInt64.lt_or_le (volume.get .actPch).unFrozeVolume wanted with less | covered
  · have rest := UInt64.toNat_sub_of_le _ _ (UInt64.le_of_lt less)
    simp only [if_pos less, Int.reduceNeg, Int.reduceEq, if_false] at short ⊢
    split at short
    next lacking =>
      rw [if_pos lacking]
      have sum : ((volume.get .actPch).unFrozeVolume + (volume.get .avl).unFrozeVolume).toNat =
          loose volume .actPch + loose volume .avl := by
        have bound := wanted.toNat_lt
        rw [UInt64.toNat_add]
        exact Nat.mod_eq_of_lt (by omega)
      rw [UInt64.toNat_sub_of_le _ _ (by rw [UInt64.le_iff_toNat_le, sum]; unfold loose; omega), sum]
      rfl
    next => exact absurd rfl short
  · rw [if_neg (UInt64.not_lt.mpr covered)] at short
    exact absurd rfl short

theorem queryComponent_passed (shares : component.substituteFlag ≠ onlyCash) {loaded : StockCache} {left : Rat}
    (passed : queryComponent db quot account times (now, maxCash) component = (loaded, some left)) :
    ∃ volume, holding db now account component.underlyingSecurityID = some volume ∧
      ((volume.creationQuery (wanted times component)).code = 0 ∧ left = maxCash ∨
        ∃ zrsp tpbz, quot component.underlyingSecurityID = some (zrsp, tpbz) ∧
          (volume.creationQuery (wanted times component)).code ≠ 0 ∧
          left = maxCash -
            (((wanted times component - (volume.creationQuery (wanted times component)).max) * zrsp).toNat : Rat) ∧
          0 ≤ left) := by
  have answers := (lookUp_eq db now account component.underlyingSecurityID).1
  simp only [queryComponent, if_neg shares] at passed
  cases read : lookUp db now account component.underlyingSecurityID with
  | mk other answer =>
    rw [read] at answers
    simp only [read] at passed
    cases answer with
    | none => cases passed
    | some volume =>
      refine ⟨volume, answers.symm, ?_⟩
      simp only at passed
      split at passed
      next covered =>
        cases passed
        exact .inl ⟨covered, rfl⟩
      next refused =>
        split at passed
        next => cases passed
        next =>
          split at passed
          next => cases passed
          next zrsp tpbz quoted =>
            split at passed
            next => cases passed
            next =>
              obtain ⟨-, kept⟩ := Prod.mk.inj passed
              split at kept
              next => cases kept
              next enough =>
                cases kept
                exact .inr ⟨zrsp, tpbz, quoted, refused, rfl, not_lt.mp enough⟩

theorem queryComponent_deducts {loaded : StockCache} {left : Rat}
    (passed : queryComponent db quot account times (now, maxCash) component = (loaded, some left)) :
    left + (deducted quot times (potsIn db account now component.underlyingSecurityID) component : Rat) = maxCash ∧
      (0 ≤ maxCash → 0 ≤ left) := by
  by_cases cash : component.substituteFlag = onlyCash
  · rw [queryComponent_cash cash] at passed
    obtain ⟨-, kept⟩ := Prod.mk.inj passed
    split at kept
    next => cases kept
    next =>
      cases kept
      unfold deducted
      rw [if_pos cash]
      exact ⟨by simp, id⟩
  · obtain ⟨volume, held, answer⟩ := queryComponent_passed cash passed
    have here := potsIn_held held
    unfold deducted
    rw [here, if_neg cash]
    obtain ⟨covered, rfl⟩ | ⟨zrsp, tpbz, quoted, refused, rfl, enough⟩ := answer
    · have held := (FreezeUndone.creationQuery_code volume (wanted times component)).mp covered
      have none : (potsOf volume).missing (wanted times component).toNat = 0 := Nat.sub_eq_zero_of_le held
      rw [none]
      simp only [Nat.zero_mul, Nat.zero_mod]
      split <;> exact ⟨by simp, id⟩
    · rw [quoted, ← creationQuery_lacks refused]
      refine ⟨?_, fun _ => enough⟩
      simp only
      rw [← UInt64.toNat_mul, sub_add_cancel]

theorem queryComponents_deducts
    (passed : (queryComponents db quot account times now maxCash components).1 = 0) (some : 0 ≤ maxCash) :
    ((components.map fun component =>
      deducted quot times (potsIn db account now component.underlyingSecurityID) component).sum : Rat) ≤ maxCash := by
  induction components generalizing now maxCash with
  | nil => exact some
  | cons component components ih =>
    have asks := @FreezeUndone.queryComponent_asks db account quot times now maxCash component
    simp only [queryComponents] at passed
    cases read : queryComponent db quot account times (now, maxCash) component with
    | mk loaded answer =>
      rw [read] at asks passed
      cases answer with
      | none => cases passed
      | some left =>
        obtain ⟨here, owes⟩ := queryComponent_deducts read
        have rest := ih passed (owes some)
        rw [potsIn_eq asks.1] at rest
        rw [List.map_cons, List.sum_cons, Nat.cast_add]
        linarith

/-- With no security in two components, every component meets the whole of its own. -/
theorem shortfall_apart
    (apart : components.Pairwise fun one two => one.substituteFlag ≠ onlyCash → two.substituteFlag ≠ onlyCash →
      one.underlyingSecurityID ≠ two.underlyingSecurityID)
    (same : ∀ component ∈ components, component.substituteFlag ≠ onlyCash →
      pots component.underlyingSecurityID = seen component.underlyingSecurityID) :
    shortfall quot times pots components =
      (components.map fun component => price quot times (seen component.underlyingSecurityID) component).sum := by
  induction components generalizing pots with
  | nil => rfl
  | cons component components ih =>
    obtain ⟨others, apart⟩ := List.pairwise_cons.mp apart
    obtain ⟨here, rest⟩ := List.forall_mem_cons.mp same
    rw [shortfall, List.map_cons, List.sum_cons]
    congr 1
    · by_cases cash : component.substituteFlag = onlyCash
      · have none : component.substituteFlag ≠ securityAndCash := by
          rw [cash]
          decide
        unfold price
        rw [if_neg none, if_neg none]
      · rw [here cash]
    · apply ih apart
      intro other member shares
      unfold drawnFrom
      split
      next => exact rest other member shares
      next cash =>
        have differs := (others other member cash shares).symm
        exact (if_neg differs).trans (rest other member shares)

theorem price_le_deducted {left : Pots}
    (plain : ∀ zrsp tpbz, quot component.underlyingSecurityID = some (zrsp, tpbz) →
      unitCash zrsp component.premiumRatio ≤ zrsp.toNat ∧
        left.missing (wanted times component).toNat * zrsp.toNat < 2 ^ 64) :
    price quot times left component ≤ deducted quot times left component := by
  unfold price deducted
  split
  next may =>
    have shares : component.substituteFlag ≠ onlyCash := by
      rw [may]
      decide
    rw [if_neg shares]
    cases quoted : quot component.underlyingSecurityID with
    | none => exact Nat.le_refl 0
    | some quote =>
      obtain ⟨cheap, fits⟩ := plain quote.1 quote.2 quoted
      change _ % _ ≤ _ % _
      rw [Nat.mod_eq_of_lt fits]
      exact (Nat.mod_le ..).trans (Nat.mul_le_mul_left _ cheap)
  next => exact Nat.zero_le _

end Asking

section Query

variable {db : StockDb} {quot : StaticQuot} {cache : StockCache} {account : String} {etfQty : UInt64} {etf : SzEtf}
  {records made : List EtfCrtFrozeComponent} {after : StockCache}

theorem creationQuery_ran
    (ran : creationQuery db quot cache account etfQty etf records = some (0, after, made)) :
    ∃ loaded, queryComponents db quot account (creationTerms etf etfQty).times cache (creationTerms etf etfQty).maxCash
        etf.components = (0, loaded) ∧
      frozeComponents db quot account (creationTerms etf etfQty).times loaded records etf.components =
        some (0, after, made) := by
  unfold UserStockHelper.creationQuery at ran
  split at ran
  next => cases ran
  next =>
    simp only at ran
    split at ran
    next loaded asked => exact ⟨loaded, asked, ran⟩
    next => cases ran

theorem creationQuery_shortfall
    (ran : creationQuery db quot cache account etfQty etf records = some (0, after, made)) :
    recorded etf.components (made.drop records.length) =
      shortfall quot (etfQty / etf.creationRedemptionUnit) (potsIn db account cache) etf.components := by
  obtain ⟨loaded, asked, froze⟩ := creationQuery_ran ran
  have same := (@FreezeUndone.queryComponents_asks db account quot (creationTerms etf etfQty).times cache
    (creationTerms etf etfQty).maxCash etf.components).1
  rw [asked] at same
  obtain ⟨notes, rfl, cash⟩ := frozeComponents_shortfall froze rfl
  rw [List.drop_left, cash, potsIn_eq same]
  rfl

/-- The substitute cash of a creation that succeeds is within the fund's cap exactly where
the price of what the holdings lack is. -/
theorem substitutes_capped_iff
    (ran : creationQuery db quot cache account etfQty etf records = some (0, after, made)) :
    (recorded etf.components (made.drop records.length) : Rat) ≤ cap etf etfQty ↔
      (shortfall quot (etfQty / etf.creationRedemptionUnit) (potsIn db account cache) etf.components : Rat) ≤
        cap etf etfQty := by
  rw [creationQuery_shortfall ran]

/-- Cash may stand in for half of what a unit of this fund is worth; its one component is
a hundred shares at ten. -/
def halfFund (value : UInt64) : SzEtf where
  creationRedemptionUnit := 1000
  maxCashRatio := 1 / 2
  creation := true
  navPerCU := value
  components := [{ underlyingSecurityID := "000001", componentShare := 100, substituteFlag := securityAndCash }]

def emptyRow : StockDb := fun _ _ => some ⟨0, 0, 0, 0, 0, 0, 0⟩

def tenEach : StaticQuot := fun _ => some (10, "F")

theorem halfFund_runs {value : UInt64} {code : Int} {notes : List EtfCrtFrozeComponent}
    (runs : (creationQuery emptyRow tenEach (fun _ _ => none) "A" 1000 (halfFund value) []).map
      (fun done => (done.1, done.2.2)) = some (code, notes)) :
    ∃ after, creationQuery emptyRow tenEach (fun _ _ => none) "A" 1000 (halfFund value) [] =
      some (code, after, notes) := by
  obtain ⟨⟨_, after, _⟩, ran, ⟨⟩⟩ := Option.map_eq_some_iff.mp runs
  exact ⟨after, ran⟩

/-- A thousand in cash, for a unit worth two thousand. -/
theorem substitutes_capped_two_thousand : ∃ after made,
    creationQuery emptyRow tenEach (fun _ _ => none) "A" 1000 (halfFund 2000) [] = some (0, after, made) ∧
      (recorded (halfFund 2000).components (made.drop 0) : Rat) ≤ cap (halfFund 2000) 1000 := by
  obtain ⟨after, ran⟩ := @halfFund_runs 2000 0
    [{ securityID := "000001", cash := 1000 }] (by decide +kernel)
  refine ⟨after, _, ran, (substitutes_capped_iff ran).mpr ?_⟩
  decide +kernel

/-- A thousand in cash is noted for a unit worth a hundred. -/
theorem cap_exceeded : ¬ ∀ (db : StockDb) (quot : StaticQuot) (cache : StockCache) (account : String) (etfQty : UInt64)
    (etf : SzEtf) (records made : List EtfCrtFrozeComponent) (after : StockCache),
    creationQuery db quot cache account etfQty etf records = some (0, after, made) →
      (recorded etf.components (made.drop records.length) : Rat) ≤ cap etf etfQty := by
  intro capped
  obtain ⟨after, ran⟩ := @halfFund_runs 100 0
    [{ securityID := "000001", cash := 1000 }] (by decide +kernel)
  have within := capped _ _ _ _ _ _ _ _ _ ran
  revert within
  decide +kernel

/-- Nothing sets the two loops of a creation apart: the guard is not above the cap, no
security is in two components, and no premium or product beyond a word comes in. -/
structure Plain (db : StockDb) (quot : StaticQuot) (cache : StockCache) (account : String) (etfQty : UInt64)
    (etf : SzEtf) : Prop where
  guarded : (creationTerms etf etfQty).maxCash ≤ cap etf etfQty
  positive : 0 ≤ (creationTerms etf etfQty).maxCash
  apart : etf.components.Pairwise fun one two => one.substituteFlag ≠ onlyCash → two.substituteFlag ≠ onlyCash →
    one.underlyingSecurityID ≠ two.underlyingSecurityID
  priced : ∀ component ∈ etf.components, ∀ zrsp tpbz,
    quot component.underlyingSecurityID = some (zrsp, tpbz) → unitCash zrsp component.premiumRatio ≤ zrsp.toNat ∧
      (potsIn db account cache component.underlyingSecurityID).missing
        (wanted (etfQty / etf.creationRedemptionUnit) component).toNat * zrsp.toNat < 2 ^ 64

/-- With such a fund the guard of the first loop bounds what the second one notes. -/
theorem plain_capped (plain : Plain db quot cache account etfQty etf)
    (ran : creationQuery db quot cache account etfQty etf records = some (0, after, made)) :
    (recorded etf.components (made.drop records.length) : Rat) ≤ cap etf etfQty := by
  obtain ⟨loaded, asked, -⟩ := creationQuery_ran ran
  have passed : (queryComponents db quot account (creationTerms etf etfQty).times cache
      (creationTerms etf etfQty).maxCash etf.components).1 = 0 := congrArg Prod.fst asked
  have guard := queryComponents_deducts passed plain.positive
  have each : (etf.components.map fun component => price quot (creationTerms etf etfQty).times
        (potsIn db account cache component.underlyingSecurityID) component).sum ≤
      (etf.components.map fun component => deducted quot (creationTerms etf etfQty).times
        (potsIn db account cache component.underlyingSecurityID) component).sum := by
    apply List.sum_le_sum
    intro component member
    exact price_le_deducted (plain.priced component member)
  rw [creationQuery_shortfall ran, shortfall_apart plain.apart fun _ _ _ => rfl]
  exact (Nat.cast_le.mpr each).trans (guard.trans plain.guarded)

end Query

end Simutgw.Proofs.CashCap
