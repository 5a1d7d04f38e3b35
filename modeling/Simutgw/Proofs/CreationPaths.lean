import Simutgw.Proofs.CreationFreeze

/-! The arithmetic an accepted creation or redemption rests on, and the two ways a
creation's components are worked out: with the holdings asked and frozen, and without.
The acceptance looks at the size of the order only, and the two ways read other fields
of a component. -/

namespace Simutgw.Proofs.CreationPaths
open UserStockHelper UserStockVolume PreTrade VolumeFreeze VolumeLedger Holdings EtfSettlement FreezeUndone CreationFreeze

/-- What a note asks of a security: its shares, wherever they come from, and its cash. -/
def asked (note : EtfCrtFrozeComponent) : String × Nat × UInt64 :=
  (note.securityID, note.actPchCount.toNat + note.avlCount.toNat, note.cash)

/-- What the way that asks the holdings requests of a component it finds in full. -/
def requestChecked (times : UInt64) (component : SzEtfComponent) : String × Nat × UInt64 :=
  if component.substituteFlag = onlyCash then
    (component.underlyingSecurityID, 0, times * component.creationCashSubstitute)
  else (component.underlyingSecurityID, (wanted times component).toNat, 0)

/-- What the way that asks nothing requests of it. -/
def requestUnchecked (times : UInt64) (component : SzEtfComponent) : String × Nat × UInt64 :=
  (component.underlyingSecurityID, (component.componentShare * times).toNat, component.redemptionCashSubstitute * times)

/-- The account holds what all components together want of every security. -/
def Covered (db : StockDb) (account : String) (times : UInt64) (cache : StockCache) (components : List SzEtfComponent) :
    Prop :=
  ∀ component ∈ components, component.substituteFlag ≠ onlyCash → ∃ volume,
    holding db cache account component.underlyingSecurityID = some volume ∧
      demand times components component.underlyingSecurityID ≤ free .actPch volume

/-- The amounts of a component that are multiplied by the number of units. -/
def amounts (component : SzEtfComponent) : List UInt64 :=
  [component.componentShare, component.creationCashSubstitute, component.redemptionCashSubstitute]

def units (order : OrderMessage) (etf : SzEtf) : UInt64 := order.orderqtyOrigin / etf.creationRedemptionUnit

/-- What an accepted order can count on: a number of units that gives the quantity back,
products that are words, and for a creation two ways that request the same. -/
structure Lawful (env : Env) (cache : StockCache) (order : OrderMessage) (etf : SzEtf) : Prop where
  defined : 0 < etf.creationRedemptionUnit
  exact : (units order etf).toNat * etf.creationRedemptionUnit.toNat = order.orderqtyOrigin.toNat
  fits : ∀ component ∈ etf.components, ∀ amount ∈ amounts component,
    (units order etf).toNat * amount.toNat < 2 ^ 64
  agree : order.side = "D" → Covered env.db order.accountId (units order etf) cache etf.components →
    ∃ after checked unchecked,
      creationQuery env.db env.staticQuot cache order.accountId order.orderqtyOrigin etf order.frozeComponents =
          some (0, after, checked) ∧
        addCreationComponent order etf = some unchecked ∧
        checked.map asked = unchecked.frozeComponents.map asked

/-- The fund's figures and the order's quantity suit each other, and what a creation
multiplies is told apart by the flag: shares alone, or cash that is the same both ways. -/
structure Regular (env : Env) (cache : StockCache) (order : OrderMessage) (etf : SzEtf) : Prop where
  unit : 0 < etf.creationRedemptionUnit
  divides : etf.creationRedemptionUnit.toNat ∣ order.orderqtyOrigin.toNat
  small : ∀ component ∈ etf.components, ∀ amount ∈ amounts component,
    order.orderqtyOrigin.toNat * amount.toNat < 2 ^ 64 * etf.creationRedemptionUnit.toNat
  plain : order.side = "D" → Covered env.db order.accountId (units order etf) cache etf.components →
    ∀ component ∈ etf.components,
      if component.substituteFlag = onlyCash then
        0 ≤ (creationTerms etf order.orderqtyOrigin).maxCash ∧ component.componentShare = 0 ∧
          component.redemptionCashSubstitute = component.creationCashSubstitute
      else component.redemptionCashSubstitute = 0

section Asking

variable {db : StockDb} {quot : StaticQuot} {account : String} {times : UInt64} {cache : StockCache} {maxCash : Rat}
  {component : SzEtfComponent} {components : List SzEtfComponent}

theorem demand_cons (component : SzEtfComponent) (components : List SzEtfComponent) (stockID : String) :
    demand times (component :: components) stockID =
      (if component.underlyingSecurityID = stockID ∧ component.substituteFlag ≠ onlyCash then
        (wanted times component).toNat else 0) + demand times components stockID := by
  simp [demand]

theorem Covered.tail (covered : Covered db account times cache (component :: components)) :
    Covered db account times cache components := by
  intro other member shares
  obtain ⟨volume, held, enough⟩ := covered other (List.mem_cons_of_mem _ member) shares
  rw [demand_cons] at enough
  exact ⟨volume, held, by omega⟩

theorem Covered.of_holding {other : StockCache} (covered : Covered db account times cache components)
    (same : ∀ stockID, holding db other account stockID = holding db cache account stockID) :
    Covered db account times other components := by
  intro component member shares
  rw [same]
  exact covered component member shares

theorem Covered.head (covered : Covered db account times cache (component :: components))
    (shares : component.substituteFlag ≠ onlyCash) : ∃ volume,
      holding db cache account component.underlyingSecurityID = some volume ∧
        (wanted times component).toNat + demand times components component.underlyingSecurityID ≤
          free .actPch volume := by
  obtain ⟨volume, held, enough⟩ := covered component List.mem_cons_self shares
  rw [demand_cons, if_pos ⟨rfl, shares⟩] at enough
  exact ⟨volume, held, enough⟩

theorem queryComponent_cash (cash : component.substituteFlag = onlyCash) :
    queryComponent db quot account times (cache, maxCash) component =
      (cache, if 0 > maxCash then none else some maxCash) := by
  simp only [queryComponent, cash, if_true]

theorem queryComponent_found (shares : component.substituteFlag ≠ onlyCash) {volume : UserStockVolume}
    (held : holding db cache account component.underlyingSecurityID = some volume)
    (enough : (wanted times component).toNat ≤ free .actPch volume) :
    ∃ loaded, queryComponent db quot account times (cache, maxCash) component = (loaded, some maxCash) := by
  have answers := (lookUp_eq db cache account component.underlyingSecurityID).1
  rw [held] at answers
  have covers := (creationQuery_code volume (wanted times component)).mpr enough
  unfold wanted at covers
  cases read : lookUp db cache account component.underlyingSecurityID with
  | mk loaded answer =>
    rw [read] at answers
    subst answers
    refine ⟨loaded, ?_⟩
    simp only [queryComponent, shares, if_false, read, covers, if_true]

/-- The asking of what is held passes unless something is paid in cash alone and the cap is negative. -/
theorem queryComponents_covered (covered : Covered db account times cache components) :
    (queryComponents db quot account times cache maxCash components).1 = 0 ↔
      ∀ component ∈ components, component.substituteFlag = onlyCash → 0 ≤ maxCash := by
  induction components generalizing cache with
  | nil => exact iff_of_true rfl fun _ member => nomatch member
  | cons component components ih =>
    rw [List.forall_mem_cons]
    simp only [queryComponents]
    by_cases cash : component.substituteFlag = onlyCash
    · rw [queryComponent_cash cash]
      by_cases broke : 0 > maxCash
      · rw [if_pos broke]
        exact iff_of_false (by simp) fun fine => absurd (fine.1 cash) (Rat.not_le.mpr broke)
      · rw [if_neg broke, ih covered.tail]
        exact (and_iff_right fun _ => Rat.not_lt.mp broke).symm
    · obtain ⟨volume, held, enough⟩ := covered.head cash
      obtain ⟨loaded, found⟩ := @queryComponent_found db quot account times cache maxCash component cash volume held
        (by omega)
      have same := (@queryComponent_asks db account quot times cache maxCash component).1
      rw [found] at same ⊢
      rw [ih (covered.tail.of_holding same)]
      exact (and_iff_right fun only => absurd only cash).symm

/-- What a freeze leaves of the two counters, and what it reports as taken. What the two do
not have is not taken out of the available balance. -/
theorem creationFroze_draws (volume : UserStockVolume) (wanted : UInt64) :
    ((volume.creationFroze wanted).code = 0 ↔ wanted.toNat ≤ free .actPch volume) ∧
      loose (volume.creationFroze wanted).volume .actPch = loose volume .actPch - wanted.toNat ∧
      loose (volume.creationFroze wanted).volume .avl =
        (if wanted.toNat ≤ free .actPch volume then loose volume .avl - (wanted.toNat - loose volume .actPch)
          else loose volume .avl) ∧
      (volume.creationFroze wanted).first.toNat + (volume.creationFroze wanted).avl.toNat =
        min wanted.toNat (free .actPch volume) := by
  have total : free .actPch volume = loose volume .actPch + loose volume .avl := rfl
  have leastAct := actualFroze_bucket volume .actPch wanted
  rw [total]
  cases creationFroze_cases volume wanted with
  | covered within code first avl after =>
    have act := @loose_froze volume wanted _ .actPch (by rw [after, get_set_same])
    have same : loose (volume.creationFroze wanted).volume .avl = loose volume .avl := by
      unfold loose
      rw [after, get_set_other _ _ (by decide)]
    have enough : wanted.toNat ≤ loose volume .actPch + loose volume .avl := by omega
    rw [if_pos enough, first, avl, UInt64.toNat_zero]
    exact ⟨iff_of_true code enough, by omega, by omega, by omega⟩
  | drained short enough code first avl act available _ _ =>
    have actLoose := loose_froze act
    have avlLoose := loose_froze available
    have leastAvl := actualFroze_bucket volume .avl (volume.creationFroze wanted).avl
    have both : wanted.toNat ≤ loose volume .actPch + loose volume .avl := by omega
    rw [if_pos both]
    exact ⟨iff_of_true code both, by omega, by omega, by omega⟩
  | refused short code first avl act available _ _ =>
    have actLoose := loose_froze act
    have same : loose (volume.creationFroze wanted).volume .avl = loose volume .avl := by
      unfold loose
      rw [available]
    have lacks : ¬ wanted.toNat ≤ loose volume .actPch + loose volume .avl := by omega
    rw [if_neg lacks, code]
    exact ⟨iff_of_false (by decide) lacks, by omega, by omega, by omega⟩

theorem creationFroze_enough {volume : UserStockVolume} {wanted : UInt64} (enough : wanted.toNat ≤ free .actPch volume) :
    (volume.creationFroze wanted).code = 0 ∧
      (volume.creationFroze wanted).first.toNat + (volume.creationFroze wanted).avl.toNat = wanted.toNat ∧
      free .actPch (volume.creationFroze wanted).volume + wanted.toNat = free .actPch volume := by
  have total (volume : UserStockVolume) : free .actPch volume = loose volume .actPch + loose volume .avl := rfl
  obtain ⟨code, act, avl, sum⟩ := creationFroze_draws volume wanted
  rw [if_pos enough] at avl
  refine ⟨code.mpr enough, by omega, ?_⟩
  rw [total] at enough ⊢
  rw [total]
  omega

theorem asked_noted (shares : component.substituteFlag ≠ onlyCash) {volume : UserStockVolume}
    (enough : (wanted times component).toNat ≤ free .actPch volume) :
    ∃ note, noted quot times component (volume.creationFroze (wanted times component)) = some note ∧
      asked note = requestChecked times component := by
  obtain ⟨code, sum, -⟩ := creationFroze_enough enough
  refine ⟨_, if_neg fun refused => refused.1 code, ?_⟩
  simp only [asked, requestChecked, if_neg shares, sum]

theorem frozeComponents_covered (covered : Covered db account times cache components)
    (records : List EtfCrtFrozeComponent) :
    ∃ after notes, frozeComponents db quot account times cache records components = some (0, after, records ++ notes) ∧
      notes.map asked = components.map (requestChecked times) := by
  induction components generalizing cache records with
  | nil => exact ⟨cache, [], by rw [List.append_nil]; rfl, rfl⟩
  | cons component components ih =>
    simp only [frozeComponents]
    by_cases cash : component.substituteFlag = onlyCash
    · rw [frozeComponent_cash cash]
      obtain ⟨after, notes, loop, same⟩ := ih covered.tail
        (records ++ [{ securityID := component.underlyingSecurityID
                       cash := times * component.creationCashSubstitute }])
      refine ⟨after, _ :: notes, loop.trans (by rw [List.append_assoc]; rfl), ?_⟩
      rw [List.map_cons, List.map_cons, same]
      simp only [asked, requestChecked, if_pos cash]
      rfl
    · obtain ⟨volume, held, enough⟩ := covered.head cash
      obtain ⟨stored, froze, holdings⟩ := @frozeComponent_found db quot account times cache component cash volume held
      obtain ⟨note, made, requests⟩ := @asked_noted quot times component cash volume (by omega)
      have left := (@creationFroze_enough volume (wanted times component) (by omega)).2.2
      have later : Covered db account times stored components := by
        intro other member shares
        rw [holdings]
        by_cases here : other.underlyingSecurityID = component.underlyingSecurityID
        · rw [if_pos here, here]
          exact ⟨_, rfl, by omega⟩
        · rw [if_neg here]
          exact covered.tail other member shares
      rw [froze, made]
      obtain ⟨after, notes, loop, same⟩ := ih later (records ++ [note])
      refine ⟨after, note :: notes, loop.trans (by rw [List.append_assoc]; rfl), ?_⟩
      rw [List.map_cons, List.map_cons, same, requests]

end Asking

section Paths

variable {env : Env} {cache : StockCache} {order : OrderMessage} {etf : SzEtf}

theorem addCreationComponent_asked (unit : etf.creationRedemptionUnit ≠ 0) :
    ∃ unchecked, addCreationComponent order etf = some unchecked ∧ unchecked.frozeComponents.map asked =
      order.frozeComponents.map asked ++ etf.components.map (requestUnchecked (units order etf)) := by
  refine ⟨_, if_neg unit, ?_⟩
  rw [List.map_append, List.map_map]
  rfl

/-- On holdings that cover the creation the two ways request the same exactly where they
do so of every component, and the cap is not below zero where it is looked at. -/
theorem paths_agree_iff (unit : etf.creationRedemptionUnit ≠ 0)
    (covered : Covered env.db order.accountId (units order etf) cache etf.components) :
    (∃ after checked unchecked,
      creationQuery env.db env.staticQuot cache order.accountId order.orderqtyOrigin etf order.frozeComponents =
          some (0, after, checked) ∧
        addCreationComponent order etf = some unchecked ∧
        checked.map asked = unchecked.frozeComponents.map asked) ↔
      (∀ component ∈ etf.components, component.substituteFlag = onlyCash →
        0 ≤ (creationTerms etf order.orderqtyOrigin).maxCash) ∧
      ∀ component ∈ etf.components,
        requestChecked (units order etf) component = requestUnchecked (units order etf) component := by
  obtain ⟨plain, added, lists⟩ := @addCreationComponent_asked order etf unit
  have passes := @queryComponents_covered env.db env.staticQuot order.accountId (units order etf) cache
    (creationTerms etf order.orderqtyOrigin).maxCash etf.components covered
  have same := (@queryComponents_asks env.db order.accountId env.staticQuot (units order etf) cache
    (creationTerms etf order.orderqtyOrigin).maxCash etf.components).1
  rw [← passes, ← List.map_inj_left]
  unfold UserStockHelper.creationQuery
  rw [if_neg unit]
  simp only
  have terms : (creationTerms etf order.orderqtyOrigin).times = units order etf := rfl
  rw [terms]
  cases read : queryComponents env.db env.staticQuot order.accountId (units order etf) cache
      (creationTerms etf order.orderqtyOrigin).maxCash etf.components with
  | mk code loaded =>
    rw [read] at same
    by_cases success : code = 0
    · subst success
      obtain ⟨after, notes, loop, requests⟩ := @frozeComponents_covered env.db env.staticQuot order.accountId
        (units order etf) loaded etf.components (covered.of_holding same) order.frozeComponents
      simp only [loop, added, true_and]
      constructor
      · rintro ⟨_, _, _, ⟨⟩, ⟨⟩, maps⟩
        rw [lists, List.map_append, List.append_cancel_left_eq, requests] at maps
        exact maps
      · intro maps
        refine ⟨_, _, _, rfl, rfl, ?_⟩
        rw [lists, List.map_append, requests, maps]
    · refine iff_of_false ?_ fun agree => success agree.1
      rintro ⟨_, _, _, failed, -⟩
      split at failed
      next same => exact success (Prod.mk.inj same).1
      next => cases failed

theorem mul_eq_zero_of_fits {times amount : UInt64} (some : times ≠ 0) (fits : times.toNat * amount.toNat < 2 ^ 64) :
    amount * times = 0 ↔ amount = 0 := by
  rw [← UInt64.toNat_inj, ← UInt64.toNat_inj, UInt64.toNat_mul, Nat.mul_comm, Nat.mod_eq_of_lt fits, UInt64.toNat_zero,
    Nat.mul_eq_zero]
  exact or_iff_right fun none => some (UInt64.toNat_inj.mp none)

theorem mul_inj_of_fits {times one two : UInt64} (some : times ≠ 0) (fitsOne : times.toNat * one.toNat < 2 ^ 64)
    (fitsTwo : times.toNat * two.toNat < 2 ^ 64) : times * one = two * times ↔ two = one := by
  have positive : 0 < times.toNat :=
    Nat.pos_of_ne_zero fun none => some (UInt64.toNat_inj.mp none)
  rw [← UInt64.toNat_inj, ← UInt64.toNat_inj, UInt64.toNat_mul, UInt64.toNat_mul, Nat.mul_comm two.toNat,
    Nat.mod_eq_of_lt fitsOne, Nat.mod_eq_of_lt fitsTwo]
  exact ⟨fun same => (Nat.eq_of_mul_eq_mul_left positive same).symm, fun same => by rw [same]⟩

theorem requests_eq_iff {times : UInt64} {component : SzEtfComponent} (some : times ≠ 0)
    (fits : ∀ amount ∈ amounts component, times.toNat * amount.toNat < 2 ^ 64) :
    requestChecked times component = requestUnchecked times component ↔
      if component.substituteFlag = onlyCash then
        component.componentShare = 0 ∧ component.redemptionCashSubstitute = component.creationCashSubstitute
      else component.redemptionCashSubstitute = 0 := by
  have share := fits component.componentShare (by simp [amounts])
  have creation := fits component.creationCashSubstitute (by simp [amounts])
  have redemption := fits component.redemptionCashSubstitute (by simp [amounts])
  unfold requestChecked requestUnchecked
  split
  next =>
    simp only [Prod.mk.injEq, true_and]
    rw [mul_inj_of_fits some creation redemption, ← UInt64.toNat_zero, UInt64.toNat_inj, eq_comm,
      mul_eq_zero_of_fits some share]
  next =>
    simp only [Prod.mk.injEq, true_and, wanted, UInt64.mul_comm times, true_and]
    rw [eq_comm, mul_eq_zero_of_fits some redemption]

theorem units_toNat : (units order etf).toNat = order.orderqtyOrigin.toNat / etf.creationRedemptionUnit.toNat :=
  UInt64.toNat_div ..

theorem units_ne_zero (unit : 0 < etf.creationRedemptionUnit)
    (few : etf.creationRedemptionUnit ≤ order.orderqtyOrigin) : units order etf ≠ 0 := by
  rw [UInt64.lt_iff_toNat_lt, UInt64.toNat_zero] at unit
  rw [UInt64.le_iff_toNat_le] at few
  have positive := Nat.div_pos few unit
  rw [← units_toNat] at positive
  intro none
  rw [none] at positive
  cases positive

/-- What is multiplied by the units is a word exactly where the whole quantity's share of it is. -/
theorem fits_iff (unit : 0 < etf.creationRedemptionUnit)
    (divides : etf.creationRedemptionUnit.toNat ∣ order.orderqtyOrigin.toNat) (amount : UInt64) :
    (units order etf).toNat * amount.toNat < 2 ^ 64 ↔
      order.orderqtyOrigin.toNat * amount.toNat < 2 ^ 64 * etf.creationRedemptionUnit.toNat := by
  rw [UInt64.lt_iff_toNat_lt, UInt64.toNat_zero] at unit
  obtain ⟨count, whole⟩ := divides
  rw [units_toNat, whole, Nat.mul_div_cancel_left _ unit, Nat.mul_assoc, Nat.mul_comm (2 ^ 64)]
  exact (Nat.mul_lt_mul_left unit).symm

/-- An accepted order can count on its arithmetic, and a creation on its two ways, exactly
where the fund and the quantity are regular. -/
theorem arithmetic_lawful_iff (accepted : (validateETF env order).1 = 0) (known : env.etfs order.stockID = some etf) :
    Lawful env cache order etf ↔ Regular env cache order etf := by
  have few : etf.creationRedemptionUnit ≤ order.orderqtyOrigin := by
    rcases validateETF_cases env order with ⟨found, listed, admits, -⟩ | ⟨⟨refused, failed⟩, -⟩
    · cases known.symm.trans listed
      exact admits.2
    · rw [failed] at accepted
      cases accepted
  have ne_zero (unit : 0 < etf.creationRedemptionUnit) : etf.creationRedemptionUnit ≠ 0 :=
    fun zero => absurd unit (by rw [zero]; decide)
  have split (unit : 0 < etf.creationRedemptionUnit) (fits : ∀ component ∈ etf.components, ∀ amount ∈ amounts component,
      (units order etf).toNat * amount.toNat < 2 ^ 64) :
      ((∀ component ∈ etf.components, component.substituteFlag = onlyCash →
          0 ≤ (creationTerms etf order.orderqtyOrigin).maxCash) ∧
        ∀ component ∈ etf.components,
          requestChecked (units order etf) component = requestUnchecked (units order etf) component) ↔
      ∀ component ∈ etf.components,
        if component.substituteFlag = onlyCash then
          0 ≤ (creationTerms etf order.orderqtyOrigin).maxCash ∧ component.componentShare = 0 ∧
            component.redemptionCashSubstitute = component.creationCashSubstitute
        else component.redemptionCashSubstitute = 0 := by
    rw [← forall₂_and]
    apply forall₂_congr
    intro component member
    rw [requests_eq_iff (units_ne_zero unit few) (fits component member)]
    by_cases cash : component.substituteFlag = onlyCash <;> simp [cash]
  constructor
  · rintro ⟨defined, exact, fits, agree⟩
    have divides : etf.creationRedemptionUnit.toNat ∣ order.orderqtyOrigin.toNat := ⟨_, (Nat.mul_comm .. ▸ exact).symm⟩
    refine ⟨defined, divides, fun component member amount one => ?_, fun creation covered => ?_⟩
    · exact (fits_iff defined divides amount).mp (fits component member amount one)
    · exact (split defined fits).mp ((paths_agree_iff (ne_zero defined) covered).mp (agree creation covered))
  · rintro ⟨unit, divides, small, plain⟩
    have fits : ∀ component ∈ etf.components, ∀ amount ∈ amounts component,
        (units order etf).toNat * amount.toNat < 2 ^ 64 :=
      fun component member amount one => (fits_iff unit divides amount).mpr (small component member amount one)
    refine ⟨unit, ?_, fits, fun creation covered => ?_⟩
    · rw [units_toNat]
      exact Nat.div_mul_cancel divides
    · exact (paths_agree_iff (ne_zero unit) covered).mpr ((split unit fits).mpr (plain creation covered))

/-- A fund of a thousand to the unit, one of whose components is paid in cash. -/
def cashFund (redemption : UInt64) : SzEtf where
  creationRedemptionUnit := 1000
  creation := true
  components := [{ underlyingSecurityID := "159900", substituteFlag := onlyCash, creationCashSubstitute := 5000,
                   redemptionCashSubstitute := redemption }]

def cashEnv (redemption : UInt64) : Env where
  db _ _ := none
  quot _ _ := none
  etfs _ := some (cashFund redemption)
  staticQuot _ := none

/-- The creation of two units of it. -/
def twoUnits : OrderMessage where
  orderqtyOrigin := 2000
  side := "D"
  stockID := "159901"

theorem arithmetic_lawful_two_units : Lawful (cashEnv 5000) (fun _ _ => none) twoUnits (cashFund 5000) := by
  apply (arithmetic_lawful_iff (by decide) rfl).mpr
  refine ⟨by decide, ⟨2, rfl⟩, by simp [cashFund, amounts, twoUnits], fun _ _ component member => ?_⟩
  have none : (creationTerms (cashFund 5000) twoUnits.orderqtyOrigin).maxCash = 0 := Rat.mul_zero _
  rw [List.mem_singleton.mp member, none]
  exact ⟨Rat.le_refl, rfl, rfl⟩

/-- Without the holdings a creation is charged what a redemption would pay. -/
theorem redemption_cash_charged : ¬ ∀ (env : Env) (cache : StockCache) (order : OrderMessage) (etf : SzEtf),
    (validateETF env order).1 = 0 → env.etfs order.stockID = some etf → Lawful env cache order etf := by
  intro lawful
  have agree := (lawful (cashEnv 7000) (fun _ _ => none) twoUnits (cashFund 7000) (by decide) rfl).agree rfl
  have covered : Covered (cashEnv 7000).db twoUnits.accountId (units twoUnits (cashFund 7000)) (fun _ _ => none)
      (cashFund 7000).components := by
    intro component member shares
    rw [List.mem_singleton.mp member] at shares
    exact absurd rfl shares
  have requests := ((paths_agree_iff (by decide) covered).mp (agree covered)).2 _ List.mem_cons_self
  exact absurd requests (by decide)

end Paths

end Simutgw.Proofs.CreationPaths
