import Simutgw.MatchTask
import Simutgw.Proofs.QuoteMatching

/-! What one run of an order's task comes to, read off the order and what the run
meets: the quantity it trades, if any, and whether the order is queued again. The
holdings change by that trade's update and by nothing else. -/

namespace Simutgw.Proofs.MatchVerdict
open ABStockMatch UserStockHelper QuoteMatching

/-- The quantity traded, and whether the order is queued again. -/
structure Verdict where
  traded : Option UInt64
  again : Bool
  deriving DecidableEq

/-- A quote that is not taken leaves the order waiting, unless it is suspended or out
of range, or the order has no side. -/
def Waits (order : OrderMessage) (quote : Quote) : Prop :=
  quote.tpbz = "F" ∧ (quote.cjsl = 0 ∨ quote.cjje = 0 ∨
    (limits order = true → WithinLimits order quote) ∧ (order.iSide = 1 ∨ order.iSide = 2))

instance (order : OrderMessage) (quote : Quote) : Decidable (Waits order quote) :=
  inferInstanceAs (Decidable (_ ∧ _))

def quoteVerdict (round : Round) (order : OrderMessage) : Verdict :=
  match round.quote with
  | none => ⟨none, true⟩
  | some quote =>
    if Takes order quote then
      if quote.cjsl < order.leavesQty then
        ⟨some quote.cjsl, !cancelsRemainder order.delType && (!round.stored || holdsRemainder order.delType)⟩
      else ⟨some order.leavesQty, !round.stored⟩
    else ⟨none, Waits order quote⟩

/-- A trade of the divided modes. -/
def dividedVerdict (order : OrderMessage) (matched : UInt64) : Verdict :=
  ⟨some matched, order.leavesQty - matched ≠ 0⟩

def ordinaryVerdict (round : Round) (order : OrderMessage) : Verdict :=
  match order.tradePolicy.matchMode with
  | .enAbleQuta => quoteVerdict round order
  | .simulMatchAll => ⟨some order.leavesQty, false⟩
  | .simulMatchByDivide =>
    let part := order.orderqtyOrigin / UInt64.ofNat order.tradePolicy.partMatchNum.toNat
    dividedVerdict order (if part ≠ 0 ∧ order.leavesQty ≥ 2 * part then part else order.leavesQty)
  | .simulNotMatch => ⟨none, true⟩
  | .simulErrMatch => ⟨none, order.leavesQty ≠ order.orderqtyOrigin⟩
  | .simulMatchPart =>
    if order.leavesQty ≠ order.orderqtyOrigin then ⟨none, true⟩
    else dividedVerdict order (if order.orderqtyOrigin = 1 then order.orderqtyOrigin else order.orderqtyOrigin / 2)

/-- The fields a match neither reads its trade from nor writes. -/
structure Alike (before after : OrderMessage) : Prop where
  accountId : after.accountId = before.accountId
  stockID : after.stockID = before.stockID
  side : after.side = before.side
  tradeType : after.tradeType = before.tradeType
  tradePolicy : after.tradePolicy = before.tradePolicy
  tradeMarket : after.tradeMarket = before.tradeMarket
  senderCompID : after.senderCompID = before.senderCompID
  applID : after.applID = before.applID
  frozeComponents : after.frozeComponents = before.frozeComponents
  rdpEtfCps : after.rdpEtfCps = before.rdpEtfCps

theorem Alike.refl (order : OrderMessage) : Alike order order := by constructor <;> rfl

theorem Alike.trans {first second third : OrderMessage} (one : Alike first second) (two : Alike second third) :
    Alike first third where
  accountId := two.accountId.trans one.accountId
  stockID := two.stockID.trans one.stockID
  side := two.side.trans one.side
  tradeType := two.tradeType.trans one.tradeType
  tradePolicy := two.tradePolicy.trans one.tradePolicy
  tradeMarket := two.tradeMarket.trans one.tradeMarket
  senderCompID := two.senderCompID.trans one.senderCompID
  applID := two.applID.trans one.applID
  frozeComponents := two.frozeComponents.trans one.frozeComponents
  rdpEtfCps := two.rdpEtfCps.trans one.rdpEtfCps

/-- And the record of what is frozen and what is left is the same too. -/
structure Unmoved (before after : OrderMessage) : Prop where
  alike : Alike before after
  sellCps : after.sellCps = before.sellCps
  sellEtfCps : after.sellEtfCps = before.sellEtfCps
  leavesQty : after.leavesQty = before.leavesQty

/-- The order a trade's update is asked with. -/
structure Asks (before asked : OrderMessage) (qty : UInt64) : Prop where
  alike : Alike before asked
  sellCps : asked.sellCps = before.sellCps
  sellEtfCps : asked.sellEtfCps = before.sellEtfCps
  matched : asked.orderqtyMatched = qty
  leaves : before.leavesQty.toNat ≤ asked.leavesQty.toNat + qty.toNat

/-- A run ends as its verdict says. -/
structure Comes (db : StockDb) (cache : StockCache) (order : OrderMessage) (verdict : Verdict) (attempt : Attempt) :
    Prop where
  again : attempt.requeued = verdict.again
  nothing : verdict.traded = none → attempt.cache = cache ∧ Unmoved order attempt.order
  something : ∀ qty, verdict.traded = some qty → ∃ asked updated, Asks order asked qty ∧
    updateAfterTrade db cache asked = some updated ∧ attempt.cache = updated.cache ∧ Unmoved updated.order attempt.order

theorem unmoved_refused {before after : OrderMessage} (refused : Refused before after) : Unmoved before after := by
  obtain ⟨_, _, _, _, rfl, _⟩ := refused
  exact ⟨by constructor <;> rfl, rfl, rfl, rfl⟩

/-- What is left and what was traded make up what was left before, or more. -/
theorem leaves_sub (leaves qty : UInt64) : leaves.toNat ≤ (leaves - qty).toNat + qty.toNat := by
  have bound := leaves.toNat_lt
  rw [UInt64.toNat_sub]
  have lower := qty.toNat_lt
  omega

section Simulated

variable {db : StockDb} {round : Round} {cache : StockCache} {order : OrderMessage} {attempt : Attempt}

theorem simulated_comes {asked : OrderMessage} {qty : UInt64} {requeue : Bool} (asks : Asks order asked qty)
    (done : simulated db cache asked requeue = some attempt) : Comes db cache order ⟨some qty, requeue⟩ attempt := by
  obtain ⟨updated, books, rfl⟩ := Option.map_eq_some_iff.mp done
  refine ⟨rfl, nofun, ?_⟩
  rintro _ ⟨⟩
  exact ⟨asked, updated, asks, books, rfl, .refl _, rfl, rfl, rfl⟩

theorem dividedFilled_asks (order : OrderMessage) (matchType : MatchType) (matched : UInt64) (transId : String) :
    Asks order (withTransId (dividedFilled order matchType matched) transId) matched :=
  ⟨by constructor <;> rfl, rfl, rfl, rfl, leaves_sub order.leavesQty matched⟩

theorem divided_comes {matchType : MatchType} {matched : UInt64}
    (done : divided db round cache order matchType matched = some attempt) :
    Comes db cache order (dividedVerdict order matched) attempt :=
  simulated_comes (dividedFilled_asks order matchType matched round.transId) done

theorem allFilled_asks (order : OrderMessage) (price : UInt64) (transId : String) :
    Asks order (withTransId (allFilled order price) transId) order.leavesQty :=
  ⟨by constructor <;> rfl, rfl, rfl, rfl, Nat.le_add_right _ _⟩

theorem declines_comes {again : Bool} {declined : Attempt} (same : declined.cache = cache)
    (unmoved : Unmoved order declined.order) (requeued : declined.requeued = again) :
    Comes db cache order ⟨none, again⟩ declined :=
  ⟨requeued, fun _ => ⟨same, unmoved⟩, nofun⟩

end Simulated

section Quoted

variable {db : StockDb} {round : Round} {cache : StockCache} {order : OrderMessage} {quote : Quote}
  {attempt : Attempt}

/-- The order is marked as not matched exactly where it waits on. -/
structure Declined (order : OrderMessage) (waits : Prop) (declined : OrderMessage) : Prop where
  refused : Refused order declined
  waits : declined.matchType = .notMatch ↔ waits

theorem checkTPBZ_declines {tpbz : String} (suspended : tpbz ≠ "F") :
    ∃ refused, MatchUtil.checkTPBZ order tpbz = (-1, refused) ∧ Refused order refused ∧
      refused.matchType = .stopTrans := by
  obtain ⟨_, refused, found, refusal⟩ := (checkTPBZ_cases order tpbz).resolve_left fun passed => suspended passed.1
  refine ⟨refused, found, refusal, ?_⟩
  unfold MatchUtil.checkTPBZ at found
  rw [if_pos suspended] at found
  cases found
  obtain ⟨errorCode, wrote⟩ := withErrorCode_eq { order with
    matchType := .stopTrans, dataError := true, error := "该股已停牌" } SzErrCode.c20007 ShErrCode.c203
  rw [wrote]

theorem checkMatchMethod_declines {limit : Bool} {cjsl cjje : UInt64} (refuses : ¬ TakesPrice limit order (cjje / cjsl)) :
    ∃ refused, MatchUtil.checkMatchMethod order cjsl cjje limit = (-1, refused) ∧
      Declined order (order.iSide = 1 ∨ order.iSide = 2) refused := by
  obtain ⟨_, refused, found, refusal⟩ :=
    (checkMatchMethod_cases order cjsl cjje limit).resolve_left fun takes => refuses takes.1
  refine ⟨refused, found, refusal, ?_⟩
  unfold MatchUtil.checkMatchMethod at found
  simp only at found
  split at found
  next buys =>
    split at found <;> cases found
    exact iff_of_true rfl (.inl buys)
  next other =>
    split at found
    next sells =>
      split at found <;> cases found
      exact iff_of_true rfl (.inr sells)
    next neither =>
      cases found
      exact iff_of_false (by simp) (by simp [other, neither])

theorem matchWith_declines {limit remainderCancel : Bool}
    (refuses : ¬ TakesPrice limit order (quote.cjje / quote.cjsl)) :
    ∃ refused, matchWith limit remainderCancel db round cache (order.markedAs .notMatch) quote.cjsl quote.cjje =
      some ⟨refused, cache, [], 0, 0⟩ ∧ Declined order (order.iSide = 1 ∨ order.iSide = 2) refused := by
  have unmarked : ¬ TakesPrice limit (order.markedAs .notMatch) (quote.cjje / quote.cjsl) := refuses
  obtain ⟨refused, found, refusal, waits⟩ := checkMatchMethod_declines unmarked
  exact ⟨refused, by simp only [matchWith, found], refusal.of_marked, waits⟩

theorem quotMatchByMarket_declines (db : StockDb) (round : Round) (cache : StockCache) (refuses : ¬ Takes order quote) :
    ∃ declined, quotMatchByMarket db round cache order quote = some ⟨declined, cache, [], 0, 0⟩ ∧
      Declined order (Waits order quote) declined := by
  unfold quotMatchByMarket Waits
  by_cases trading : quote.tpbz = "F"
  · have passed : MatchUtil.checkTPBZ (order.markedAs .notMatch) quote.tpbz = (0, order.markedAs .notMatch) :=
      ((checkTPBZ_cases _ _).resolve_right fun suspended => suspended.1 trading).2
    simp only [passed]
    split
    next nothing =>
      refine ⟨_, rfl, refused_refl order, iff_of_true rfl ⟨trading, ?_⟩⟩
      exact nothing.imp_right .inl
    next some =>
      rw [not_or] at some
      obtain ⟨volume, turnover⟩ := some
      simp only [trading, volume, turnover, true_and, false_or]
      have beyond (within : limits order = true → WithinLimits order quote) :
          ¬ TakesPrice (limits order) order (quote.cjje / quote.cjsl) :=
        fun price => refuses ⟨trading, volume, turnover, within, price⟩
      cases type : order.delType with
      | ordinaryLimit =>
        have limited : limits order = true := by simp [limits, type]
        have typed : (order.markedAs .notMatch).delType = .ordinaryLimit := type
        simp only [typed]
        rw [limited] at beyond
        rcases checkMaxGainAndMinFall_cases (order.markedAs .notMatch) quote with
          ⟨within, passed⟩ | ⟨outside, refused, found, refusal⟩
        · have within : WithinLimits order quote := within
          simp only [passed, limited, within, implies_true, true_and]
          exact matchWith_declines (beyond fun _ => within)
        · have outside : ¬ WithinLimits order quote := outside
          simp only [found, limited, outside, forall_const, false_and]
          exact ⟨_, rfl, refusal.of_marked.marked _ (by decide), iff_of_false (by simp [OrderMessage.markedAs]) id⟩
      | _ =>
        have market : limits order = false := by simp [limits, type]
        have typed : (order.markedAs .notMatch).delType = order.delType := rfl
        rw [market] at beyond
        simp only [typed, type, market, Bool.false_eq_true, false_implies, true_and]
        exact matchWith_declines (beyond (by simp))
  · obtain ⟨refused, found, refusal, stopped⟩ := @checkTPBZ_declines (order.markedAs .notMatch) _ trading
    simp only [found, trading, false_and]
    exact ⟨refused, rfl, refusal.of_marked, iff_of_false (by simp [stopped]) id⟩

theorem answer_unmoved (attempt : Attempt) :
    (answer attempt).cache = attempt.cache ∧ Unmoved attempt.order (answer attempt).order := by
  unfold answer
  split <;> exact ⟨rfl, by constructor <;> rfl, rfl, rfl, rfl⟩

theorem answer_declines {declined : OrderMessage} {waits : Prop} [Decidable waits]
    (declines : Declined order waits declined) :
    Comes db cache order ⟨none, waits⟩ (answer { order := declined, cache }) := by
  obtain ⟨refusal, waits⟩ := declines
  obtain ⟨same, unmoved⟩ := answer_unmoved { order := declined, cache }
  have refuses := unmoved_refused refusal
  refine declines_comes same ⟨refuses.alike.trans unmoved.alike, unmoved.sellCps.trans refuses.sellCps,
    unmoved.sellEtfCps.trans refuses.sellEtfCps, unmoved.leavesQty.trans refuses.leavesQty⟩ ?_
  have type : declined.matchType ≠ .matchAll ∧ declined.matchType ≠ .matchPart ∧ declined.matchType ≠ .cancelMatch := by
    obtain ⟨_, _, _, _, rfl, different⟩ := refusal
    exact different
  unfold answer
  simp only
  split
  next all => exact absurd all type.1
  next cancelled => exact absurd cancelled type.2.2
  next part => exact absurd part type.2.1
  next again => exact (decide_eq_true (waits.mp again)).symm
  all_goals
    rename_i ends
    refine (decide_eq_false fun going => ?_).symm
    rw [waits.mpr going] at ends
    cases ends

theorem quoted_cache {matched : Matched} (read : round.quote = some quote)
    (found : quotMatchByMarket db round cache order quote = some matched)
    (done : enableQuoMatch db round cache order = some attempt) :
    attempt.cache = matched.cache ∧ Unmoved matched.order attempt.order := by
  obtain ⟨tried, ran, rfl⟩ := Option.map_eq_some_iff.mp done
  obtain ⟨cacheSame, unmoved⟩ := answer_unmoved tried
  have tries : tried.cache = matched.cache ∧ Unmoved matched.order tried.order := by
    simp only [quotMatchOrder, read, found, Option.bind_eq_bind, Option.bind_some] at ran
    split at ran
    · cases ran
      exact ⟨rfl, .refl _, rfl, rfl, rfl⟩
    · split at ran <;> cases ran <;> exact ⟨rfl, by constructor <;> rfl, rfl, rfl, rfl⟩
  exact ⟨cacheSame.trans tries.1, tries.2.alike.trans unmoved.alike, unmoved.sellCps.trans tries.2.sellCps,
    unmoved.sellEtfCps.trans tries.2.sellEtfCps, unmoved.leavesQty.trans tries.2.leavesQty⟩

theorem fill_asks (remainderCancel : Bool) (cjsl cjje : UInt64) :
    Asks order (fill remainderCancel round cache order cjsl cjje).order
      (if cjsl < order.leavesQty then cjsl else order.leavesQty) ∧
    (fill remainderCancel round cache order cjsl cjje).cache = cache := by
  unfold fill
  simp only
  split
  · split <;> exact ⟨⟨by constructor <;> rfl, rfl, rfl, rfl, leaves_sub order.leavesQty cjsl⟩, rfl⟩
  · exact ⟨⟨by constructor <;> rfl, rfl, rfl, rfl, Nat.le_add_right _ _⟩, rfl⟩

theorem traded_comes (read : round.quote = some quote) (takes : Takes order quote)
    (done : enableQuoMatch db round cache order = some attempt) : ∃ asked updated,
      Asks order asked (if quote.cjsl < order.leavesQty then quote.cjsl else order.leavesQty) ∧
      updateAfterTrade db cache asked = some updated ∧ attempt.cache = updated.cache ∧
      Unmoved updated.order attempt.order := by
  cases found : quotMatchByMarket db round cache order quote with
  | none => simp [enableQuoMatch, quotMatchOrder, read, found] at done
  | some matched =>
    obtain ⟨same, unmoved⟩ := quoted_cache read found done
    rw [quotMatchByMarket_takes takes] at found
    obtain ⟨updated, books, rfl⟩ := Option.map_eq_some_iff.mp found
    obtain ⟨asks, own⟩ := @fill_asks round cache order (cancelsRemainder order.delType) quote.cjsl quote.cjje
    rw [own] at books
    exact ⟨_, updated, asks, books, same, ⟨unmoved.alike.accountId, unmoved.alike.stockID, unmoved.alike.side,
      unmoved.alike.tradeType, unmoved.alike.tradePolicy, unmoved.alike.tradeMarket, unmoved.alike.senderCompID,
      unmoved.alike.applID, unmoved.alike.frozeComponents, unmoved.alike.rdpEtfCps⟩, unmoved.sellCps,
      unmoved.sellEtfCps, unmoved.leavesQty⟩

theorem quoted_comes (done : enableQuoMatch db round cache order = some attempt) :
    Comes db cache order (quoteVerdict round order) attempt := by
  unfold quoteVerdict
  cases read : round.quote with
  | none =>
    simp only [enableQuoMatch, quotMatchOrder, read, Option.map_some, Option.some.injEq] at done
    subst attempt
    exact declines_comes rfl (unmoved_refused (refused_refl order)) rfl
  | some quote =>
    simp only
    by_cases takes : Takes order quote
    · rw [if_pos takes]
      obtain ⟨asked, updated, asks, books, same, unmoved⟩ := traded_comes read takes done
      have trades {again : Bool} (requeued : attempt.requeued = again) : Comes db cache order
          ⟨some (if quote.cjsl < order.leavesQty then quote.cjsl else order.leavesQty), again⟩ attempt := by
        refine ⟨requeued, fun untraded => ?_, ?_⟩
        · cases untraded
        · rintro _ ⟨⟩
          exact ⟨asked, updated, asks, books, same, unmoved⟩
      cases enableQuoMatch_outcome done with
      | refused untaken => exact absurd takes (untaken quote read)
      | part here _ short holds booked closed =>
        cases read.symm.trans here
        rw [if_pos short] at trades ⊢
        refine trades ?_
        obtain ⟨_, _, _, rfl⟩ := booked
        rw [closed.requeued, holds]
        cases round.stored <;> rfl
      | cut here _ short cancels _ _ _ _ ends =>
        cases read.symm.trans here
        rw [if_pos short] at trades ⊢
        refine trades ?_
        rw [ends, cancels]
        rfl
      | whole here _ enough booked closed =>
        cases read.symm.trans here
        rw [if_neg (UInt64.not_lt.mpr enough)] at trades ⊢
        refine trades ?_
        obtain ⟨_, _, _, rfl⟩ := booked
        rw [closed.requeued]
        cases round.stored <;> rfl
    · rw [if_neg takes]
      obtain ⟨declined, found, declines⟩ := quotMatchByMarket_declines db round cache takes
      have untraded : declined.matchType ≠ .matchAll ∧ declined.matchType ≠ .matchPart := by
        obtain ⟨_, _, _, _, rfl, notAll, notPart, _⟩ := declines.refused
        exact ⟨notAll, notPart⟩
      simp only [enableQuoMatch, quotMatchOrder, read, found, Option.bind_eq_bind, Option.bind_some, untraded,
        ne_eq, not_false_eq_true, and_self, if_true, Option.map_some, Option.some.injEq] at done
      subst attempt
      exact answer_declines declines

theorem matchOrder_comes (done : matchOrder db round cache order = some attempt) :
    Comes db cache order (ordinaryVerdict round order) attempt := by
  unfold matchOrder at done
  unfold ordinaryVerdict
  cases mode : order.tradePolicy.matchMode with
  | enAbleQuta =>
    rw [mode] at done
    exact quoted_comes done
  | simulMatchAll =>
    rw [mode] at done
    exact simulated_comes (allFilled_asks order order.orderPrice round.transId) done
  | simulMatchByDivide =>
    rw [mode] at done
    simp only [simulMatchByDivide] at done
    split at done
    · cases done
    · simp only
      split at done
      next parts =>
        rw [if_pos parts]
        exact divided_comes done
      next whole =>
        rw [if_neg whole]
        exact divided_comes done
  | simulNotMatch =>
    rw [mode] at done
    cases done
    exact declines_comes rfl ⟨.refl order, rfl, rfl, rfl⟩ rfl
  | simulErrMatch =>
    rw [mode] at done
    cases done
    by_cases untouched : order.leavesQty = order.orderqtyOrigin
    · obtain ⟨errorCode, wrote⟩ := withErrorCode_eq { order with
        matchType := .errorMatch, dataError := true, error := "模拟错误应答" } SzErrCode.c20001 ShErrCode.c215
      simp only [simulErrMatch, if_pos untouched, wrote]
      exact declines_comes rfl ⟨by constructor <;> rfl, rfl, rfl, rfl⟩ (by simp [untouched])
    · simp only [simulErrMatch, if_neg untouched]
      exact declines_comes rfl ⟨.refl order, rfl, rfl, rfl⟩ (by simp [simulNotMatch, untouched])
  | simulMatchPart =>
    rw [mode] at done
    simp only [simulMatchPart] at done
    simp only
    split at done
    next touched =>
      rw [if_pos touched]
      cases done
      exact declines_comes rfl ⟨.refl order, rfl, rfl, rfl⟩ rfl
    next untouched =>
      rw [if_neg untouched]
      split at done
      next single =>
        rw [if_pos single]
        exact divided_comes done
      next many =>
        rw [if_neg many]
        exact divided_comes done

end Quoted

end Simutgw.Proofs.MatchVerdict
