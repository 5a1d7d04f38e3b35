import Simutgw.ABStockMatch

/-! What one run of the match task does in the quote mode, said once: which quotes
an order takes, and the four ways the run can end. -/

namespace Simutgw.Proofs.QuoteMatching
open ABStockMatch MarketInfoHelper OutMemoryManage SofString UserStockHelper

/-- The price limits of a limit order; both zero stand for none. -/
def WithinLimits (order : OrderMessage) (quote : Quote) : Prop :=
  quote.maxGain = 0 ∧ quote.minFall = 0 ∨ order.orderPrice ≤ quote.maxGain ∧ quote.minFall ≤ order.orderPrice

/-- Which prices an order takes: any for a market order of a known side. -/
def TakesPrice (limit : Bool) (order : OrderMessage) (price : UInt64) : Prop :=
  order.iSide = 1 ∧ (limit = true → price ≤ order.orderPrice) ∨
    order.iSide = 2 ∧ (limit = true → order.orderPrice ≤ price)

instance (order : OrderMessage) (quote : Quote) : Decidable (WithinLimits order quote) :=
  inferInstanceAs (Decidable (_ ∨ _))

instance (limit : Bool) (order : OrderMessage) (price : UInt64) : Decidable (TakesPrice limit order price) :=
  inferInstanceAs (Decidable (_ ∨ _))

def limits (order : OrderMessage) : Bool := order.delType == .ordinaryLimit

/-- The order takes the quote. -/
structure Takes (order : OrderMessage) (quote : Quote) : Prop where
  trading : quote.tpbz = "F"
  volume : quote.cjsl ≠ 0
  turnover : quote.cjje ≠ 0
  within : limits order = true → WithinLimits order quote
  price : TakesPrice (limits order) order (quote.cjje / quote.cjsl)

theorem takes_iff (order : OrderMessage) (quote : Quote) :
    Takes order quote ↔ quote.tpbz = "F" ∧ quote.cjsl ≠ 0 ∧ quote.cjje ≠ 0 ∧
      (limits order = true → WithinLimits order quote) ∧
      TakesPrice (limits order) order (quote.cjje / quote.cjsl) :=
  ⟨fun takes => ⟨takes.1, takes.2, takes.3, takes.4, takes.5⟩, fun ⟨one, two, three, four, five⟩ =>
    ⟨one, two, three, four, five⟩⟩

instance (order : OrderMessage) (quote : Quote) : Decidable (Takes order quote) :=
  decidable_of_iff' _ (takes_iff order quote)

/-- A refusal writes its reason on the order and nothing else. -/
def Refused (before after : OrderMessage) : Prop :=
  ∃ matchType dataError error errorCode, after = { before with matchType, dataError, error, errorCode } ∧
    matchType ≠ .matchAll ∧ matchType ≠ .matchPart ∧ matchType ≠ .cancelMatch

theorem withErrorCode_eq (order : OrderMessage) (sz sh : String) :
    ∃ errorCode, MatchUtil.withErrorCode order sz sh = { order with errorCode } := by
  unfold MatchUtil.withErrorCode
  split
  · exact ⟨_, rfl⟩
  split
  · exact ⟨_, rfl⟩
  · exact ⟨order.errorCode, rfl⟩

theorem checkTPBZ_cases (order : OrderMessage) (tpbz : String) :
    tpbz = "F" ∧ MatchUtil.checkTPBZ order tpbz = (0, order) ∨
      tpbz ≠ "F" ∧ ∃ refused, MatchUtil.checkTPBZ order tpbz = (-1, refused) ∧ Refused order refused := by
  unfold MatchUtil.checkTPBZ
  split
  next suspended =>
    obtain ⟨errorCode, wrote⟩ := withErrorCode_eq { order with
      matchType := .stopTrans, dataError := true, error := "该股已停牌" } SzErrCode.c20007 ShErrCode.c203
    refine Or.inr ⟨suspended, _, rfl, ?_⟩
    rw [wrote]
    exact ⟨.stopTrans, true, _, errorCode, rfl, by decide, by decide, by decide⟩
  next trading => exact Or.inl ⟨Decidable.not_not.mp trading, rfl⟩

theorem checkMaxGainAndMinFall_cases (order : OrderMessage) (quote : Quote) :
    WithinLimits order quote ∧ MatchUtil.checkMaxGainAndMinFall order quote.maxGain quote.minFall = (0, order) ∨
      ¬ WithinLimits order quote ∧
        ∃ refused, MatchUtil.checkMaxGainAndMinFall order quote.maxGain quote.minFall = (-1, refused) ∧
          Refused order refused := by
  unfold MatchUtil.checkMaxGainAndMinFall WithinLimits
  split
  next none => exact Or.inl ⟨Or.inl none, rfl⟩
  next some =>
    split
    next beyond =>
      refine Or.inr ⟨?_, _, rfl, ?_⟩
      · rintro (none | ⟨upper, lower⟩)
        · exact some none
        · rcases beyond with above | below
          · exact absurd above (UInt64.not_lt.mpr upper)
          · exact absurd below (UInt64.not_lt.mpr lower)
      · obtain ⟨errorCode, wrote⟩ := withErrorCode_eq { order with
          matchType := .outOfRange
          error := "超涨跌价位.max" ++ itostr quote.maxGain ++ ".min" ++ itostr quote.minFall
          dataError := true } SzErrCode.c20009 ShErrCode.c212
        rw [wrote]
        exact ⟨.outOfRange, true, _, errorCode, rfl, by decide, by decide, by decide⟩
    next inside =>
      rw [not_or, UInt64.not_lt, UInt64.not_lt] at inside
      exact Or.inl ⟨Or.inr inside, rfl⟩

theorem checkMatchMethod_cases (order : OrderMessage) (cjsl cjje : UInt64) (limit : Bool) :
    TakesPrice limit order (cjje / cjsl) ∧ MatchUtil.checkMatchMethod order cjsl cjje limit = (0, order) ∨
      ¬ TakesPrice limit order (cjje / cjsl) ∧
        ∃ refused, MatchUtil.checkMatchMethod order cjsl cjje limit = (-1, refused) ∧ Refused order refused := by
  unfold MatchUtil.checkMatchMethod TakesPrice
  simp only
  split
  next buys =>
    split
    next dear =>
      refine Or.inr ⟨?_, _, rfl, .notMatch, order.dataError, _, order.errorCode, rfl, by decide, by decide, by decide⟩
      rintro (⟨_, takes⟩ | ⟨sells, _⟩)
      · exact absurd dear.2 (UInt64.not_lt.mpr (takes dear.1))
      · rw [buys] at sells
        exact absurd sells (by decide)
    next fair =>
      exact Or.inl ⟨Or.inl ⟨buys, fun isLimit => UInt64.not_lt.mp fun dear => fair ⟨isLimit, dear⟩⟩, rfl⟩
  next notBuys =>
    split
    next sells =>
      split
      next cheap =>
        refine Or.inr ⟨?_, _, rfl, .notMatch, order.dataError, _, order.errorCode, rfl, by decide, by decide, by decide⟩
        rintro (⟨buys, _⟩ | ⟨_, takes⟩)
        · exact notBuys buys
        · exact absurd cheap.2 (UInt64.not_lt.mpr (takes cheap.1))
      next fair =>
        exact Or.inl ⟨Or.inr ⟨sells, fun isLimit => UInt64.not_lt.mp fun cheap => fair ⟨isLimit, cheap⟩⟩, rfl⟩
    next notSells =>
      refine Or.inr ⟨?_, _, rfl, .errorMatch, true, _, order.errorCode, rfl, by decide, by decide, by decide⟩
      rintro (⟨buys, _⟩ | ⟨sells, _⟩)
      · exact notBuys buys
      · exact notSells sells

/-- The declaration types whose remainder the matcher cancels itself. -/
def cancelsRemainder : DeclarationType → Bool
  | .matchAtMarketAndRemainderCancel | .matchAtMarketInFiveAndRemainderCancel | .allMatchAtMarketOrCancel => true
  | _ => false

theorem settled_order {order : OrderMessage} {changed : Option Changed} {updated : Updated}
    (done : settled order changed = some updated) : updated.order = order := by
  obtain ⟨_, _, rfl⟩ := Option.map_eq_some_iff.mp done
  rfl

/-- A trade's update of the holdings writes only the order's record of its reserve. -/
theorem updateTrade_order {db : StockDb} {cache : StockCache} {order : OrderMessage} {updated : Updated}
    (done : updateTrade db cache order = some updated) :
    ∃ sellCps sellEtfCps, updated.order = { order with sellCps, sellEtfCps } := by
  unfold updateTrade at done
  split at done
  · cases done
    exact ⟨order.sellCps, order.sellEtfCps, rfl⟩
  split at done
  · split at done
    · exact ⟨_, order.sellEtfCps, settled_order done⟩
    split at done
    · exact ⟨order.sellCps, order.sellEtfCps, settled_order done⟩
    · exact ⟨order.sellCps, order.sellEtfCps, settled_order done⟩
  · split at done
    · exact ⟨_, order.sellEtfCps, settled_order done⟩
    split at done
    · exact ⟨order.sellCps, order.sellEtfCps, settled_order done⟩
    · exact ⟨order.sellCps, order.sellEtfCps, settled_order done⟩
  · exact ⟨order.sellCps, _, settled_order done⟩
  · exact ⟨order.sellCps, order.sellEtfCps, settled_order done⟩
  · exact ⟨order.sellCps, order.sellEtfCps, settled_order done⟩

theorem updateCancel_order {cache : StockCache} {order : OrderMessage} {updated : Updated}
    (done : updateCancel cache order = some updated) : updated.order = order := by
  unfold updateCancel at done
  split at done
  · cases done
    rfl
  split at done
  · cases done
    rfl
  split at done
  · split at done
    · exact settled_order done
    · cases done
      rfl
  · split at done
    · exact settled_order done
    · cases done
      rfl
  · exact settled_order done
  · cases done
    rfl

theorem updateAfterCancel_order {cache : StockCache} {order : OrderMessage} {updated : Updated}
    (done : updateAfterCancel cache order = some updated) : updated.order = order := by
  unfold updateAfterCancel at done
  split at done
  · split at done
    · exact updateCancel_order done
    · cases done
      rfl
  split at done
  · exact updateCancel_order done
  · cases done
    rfl

theorem updateETFCrtRdp_order {db : StockDb} {cache : StockCache} {order : OrderMessage} {updated : Updated}
    (done : updateETFCrtRdp db cache order = some updated) : updated.order = order := by
  unfold updateETFCrtRdp at done
  split at done
  · obtain ⟨_, _, done⟩ := Option.bind_eq_some_iff.mp done
    split at done
    · obtain ⟨_, _, done⟩ := Option.bind_eq_some_iff.mp done
      cases done
      rfl
    · cases done
      rfl
  · split at done <;>
    · obtain ⟨_, _, done⟩ := Option.bind_eq_some_iff.mp done
      obtain ⟨_, _, done⟩ := Option.bind_eq_some_iff.mp done
      cases done
      rfl
  · cases done
    rfl

theorem updateAfterTrade_order {db : StockDb} {cache : StockCache} {order : OrderMessage} {updated : Updated}
    (done : updateAfterTrade db cache order = some updated) :
    ∃ sellCps sellEtfCps, updated.order = { order with sellCps, sellEtfCps } := by
  unfold updateAfterTrade at done
  split at done
  · split at done
    · exact updateTrade_order done
    split at done
    · exact ⟨order.sellCps, order.sellEtfCps, updateETFCrtRdp_order done⟩
    · cases done
      exact ⟨order.sellCps, order.sellEtfCps, rfl⟩
  split at done
  · exact updateTrade_order done
  · cases done
    exact ⟨order.sellCps, order.sellEtfCps, rfl⟩

section Answer

variable {attempt : Attempt}

theorem answer_matchAll (outcome : attempt.order.matchType = .matchAll) : answer attempt = attempt := by
  simp only [answer, outcome]

theorem answer_cancelMatch (outcome : attempt.order.matchType = .cancelMatch) : answer attempt = attempt := by
  simp only [answer, outcome]

theorem answer_matchPart (outcome : attempt.order.matchType = .matchPart) :
    answer attempt = { attempt with requeued := holdsRemainder attempt.order.delType } := by
  simp only [answer, outcome]

theorem answer_notMatch (outcome : attempt.order.matchType = .notMatch) :
    answer attempt = { attempt with requeued := true } := by
  simp only [answer, outcome]

end Answer

section Matching

variable {db : StockDb} {round : Round} {cache : StockCache} {order : OrderMessage} {quote : Quote}

/-- The trade on a quote the order takes. -/
def traded (db : StockDb) (round : Round) (cache : StockCache) (order : OrderMessage) (quote : Quote) :
    Option Matched :=
  let matched := fill (cancelsRemainder order.delType) round cache order quote.cjsl quote.cjje
  (updateAfterTrade db matched.cache matched.order).map fun updated =>
    { matched with order := withTransId updated.order round.transId, cache := updated.cache }

theorem fill_marked (remainderCancel : Bool) (matchType : MatchType) (cjsl cjje : UInt64) :
    fill remainderCancel round cache (order.markedAs matchType) cjsl cjje =
      fill remainderCancel round cache order cjsl cjje :=
  rfl

theorem matchWith_takes {limit : Bool} (remainderCancel : Bool)
    (takes : TakesPrice limit order (quote.cjje / quote.cjsl))
    (cancels : cancelsRemainder order.delType = remainderCancel) :
    matchWith limit remainderCancel db round cache (order.markedAs .notMatch) quote.cjsl quote.cjje =
      traded db round cache order quote := by
  have method := ((checkMatchMethod_cases (order.markedAs .notMatch) quote.cjsl quote.cjje limit).resolve_right
    fun refuses => refuses.1 takes).2
  simp only [matchWith, method, fill_marked, traded, cancels]

theorem quotMatchByMarket_takes (takes : Takes order quote) :
    quotMatchByMarket db round cache order quote = traded db round cache order quote := by
  obtain ⟨trading, volume, turnover, within, price⟩ := takes
  have tpbz : MatchUtil.checkTPBZ (order.markedAs .notMatch) quote.tpbz = (0, order.markedAs .notMatch) :=
    ((checkTPBZ_cases _ _).resolve_right fun suspended => suspended.1 trading).2
  simp only [quotMatchByMarket, tpbz, volume, turnover, or_self, if_false]
  cases type : order.delType with
  | ordinaryLimit =>
    have limited : limits order = true := by simp [limits, type]
    have typed : (order.markedAs .notMatch).delType = .ordinaryLimit := type
    have range := ((checkMaxGainAndMinFall_cases (order.markedAs .notMatch) quote).resolve_right
      fun beyond => beyond.1 (within limited)).2
    rw [limited] at price
    simp only [typed, range]
    exact matchWith_takes false price (by rw [type]; rfl)
  | _ =>
    have market : limits order = false := by simp [limits, type]
    have typed : (order.markedAs .notMatch).delType = order.delType := rfl
    rw [market] at price
    simp only [typed, type]
    exact matchWith_takes _ price (by rw [type]; rfl)

theorem refused_refl (order : OrderMessage) : Refused order (order.markedAs .notMatch) :=
  ⟨.notMatch, order.dataError, order.error, order.errorCode, rfl, by decide, by decide, by decide⟩

theorem Refused.of_marked {before after : OrderMessage} {matchType : MatchType}
    (refused : Refused (before.markedAs matchType) after) : Refused before after := by
  obtain ⟨type, dataError, error, errorCode, wrote, different⟩ := refused
  exact ⟨type, dataError, error, errorCode, wrote, different⟩

theorem Refused.marked {before after : OrderMessage} (refused : Refused before after) (matchType : MatchType)
    (different : matchType ≠ .matchAll ∧ matchType ≠ .matchPart ∧ matchType ≠ .cancelMatch) :
    Refused before (after.markedAs matchType) := by
  obtain ⟨_, dataError, error, errorCode, rfl, _⟩ := refused
  exact ⟨matchType, dataError, error, errorCode, rfl, different⟩

theorem matchWith_refuses {limit : Bool} (remainderCancel : Bool) {cjsl cjje : UInt64}
    (refuses : ¬ TakesPrice limit order (cjje / cjsl)) :
    ∃ refused, matchWith limit remainderCancel db round cache (order.markedAs .notMatch) cjsl cjje =
        some ⟨refused, cache, [], 0, 0⟩ ∧ Refused order refused := by
  obtain ⟨_, refused, found, refusal⟩ :=
    (checkMatchMethod_cases (order.markedAs .notMatch) cjsl cjje limit).resolve_left fun takes => refuses takes.1
  exact ⟨refused, by simp only [matchWith, found], refusal.of_marked⟩

theorem quotMatchByMarket_refuses (db : StockDb) (round : Round) (cache : StockCache) (refuses : ¬ Takes order quote) :
    ∃ refused, quotMatchByMarket db round cache order quote = some ⟨refused, cache, [], 0, 0⟩ ∧
      Refused order refused := by
  unfold quotMatchByMarket
  rcases checkTPBZ_cases (order.markedAs .notMatch) quote.tpbz with ⟨trading, passed⟩ | ⟨_, refused, found, refusal⟩
  · simp only [passed]
    split
    next => exact ⟨_, rfl, refused_refl order⟩
    next some =>
      rw [not_or] at some
      have beyond : ¬ ((limits order = true → WithinLimits order quote) ∧
          TakesPrice (limits order) order (quote.cjje / quote.cjsl)) :=
        fun ⟨within, price⟩ => refuses ⟨trading, some.1, some.2, within, price⟩
      cases type : order.delType with
      | ordinaryLimit =>
        have limited : limits order = true := by simp [limits, type]
        have typed : (order.markedAs .notMatch).delType = .ordinaryLimit := type
        simp only [typed]
        rcases checkMaxGainAndMinFall_cases (order.markedAs .notMatch) quote with
          ⟨within, passed⟩ | ⟨_, refused, found, refusal⟩
        · simp only [passed]
          exact matchWith_refuses false fun price => beyond ⟨fun _ => within, by rw [limited]; exact price⟩
        · simp only [found]
          exact ⟨_, rfl, refusal.of_marked.marked _ (by decide)⟩
      | _ =>
        have market : limits order = false := by simp [limits, type]
        have typed : (order.markedAs .notMatch).delType = order.delType := rfl
        simp only [typed, type]
        exact matchWith_refuses _ fun price => beyond ⟨by simp [market], by rw [market]; exact price⟩
  · simp only [found]
    exact ⟨refused, rfl, refusal.of_marked⟩

/-- A trade as the task leaves it: the holdings' update has written the reserve
and the task its ids. -/
def Booked (filled after : OrderMessage) : Prop :=
  ∃ sellCps sellEtfCps transId, after = withTransId { filled with sellCps, sellEtfCps } transId

theorem traded_booked {matched : Matched} (done : traded db round cache order quote = some matched) :
    let filled := fill (cancelsRemainder order.delType) round cache order quote.cjsl quote.cjje
    Booked filled.order matched.order ∧ matched.pushed = filled.pushed ∧ matched.cjslRemain = filled.cjslRemain ∧
      matched.cjjeRemain = filled.cjjeRemain := by
  obtain ⟨updated, found, rfl⟩ := Option.map_eq_some_iff.mp done
  obtain ⟨sellCps, sellEtfCps, wrote⟩ := updateAfterTrade_order found
  exact ⟨⟨sellCps, sellEtfCps, round.transId, by simp only [wrote]⟩, rfl, rfl, rfl⟩

/-- How a trade ends: it is pushed, and then the quote is written back, or where
that fails the order is marked as not matched and queued again. -/
structure Closes (round : Round) (order : OrderMessage) (hqsj : String) (after : OrderMessage) (cjsl cjje : UInt64)
    (attempt : Attempt) : Prop where
  report : attempt.pushed = pushed after
  left : attempt.order = if round.stored then after else after.markedAs .notMatch
  written : attempt.written = if round.stored then
    setCurrQuotGapByCircle round.quotationType after (MatchUtil.getOrderCircleID order) cjsl cjje hqsj else []
  requeued : attempt.requeued = if round.stored then decide (after.matchType = .matchPart) && holdsRemainder after.delType
    else true

/-- What one run of the quote mode does to an order: nothing but a refusal, or a
trade that leaves something, that is cut short, or that completes the order. -/
inductive Outcome (round : Round) (order : OrderMessage) : Attempt → Prop
  | refused {attempt : Attempt} (untaken : ∀ quote, round.quote = some quote → ¬ Takes order quote)
      (refused : Refused order attempt.order) (unwritten : attempt.written = [])
      (quiet : attempt.pushed = [] ∨ attempt.order.matchType = .errorMatch ∧ attempt.pushed = pushed attempt.order) :
      Outcome round order attempt
  | part {quote : Quote} {attempt : Attempt} {after : OrderMessage} (read : round.quote = some quote)
      (takes : Takes order quote) (short : quote.cjsl < order.leavesQty)
      (holds : cancelsRemainder order.delType = false)
      (booked : Booked (partFilled order quote.cjsl (quote.cjje / quote.cjsl)) after)
      (closed : Closes round order quote.hqsj after 0 0 attempt) : Outcome round order attempt
  | cut {quote : Quote} {attempt : Attempt} {cancelled : OrderMessage} (read : round.quote = some quote)
      (takes : Takes order quote) (short : quote.cjsl < order.leavesQty)
      (cancels : cancelsRemainder order.delType = true)
      (cancel : cancelled = ProcCancelOrder.procSingleCancelOrderWithoutRequest
        (partFilled order quote.cjsl (quote.cjje / quote.cjsl)) round.cancelId)
      (booked : Booked cancelled attempt.order) (report : attempt.pushed = pushed cancelled)
      (unwritten : attempt.written = []) (ends : attempt.requeued = false) : Outcome round order attempt
  | whole {quote : Quote} {attempt : Attempt} {after : OrderMessage} (read : round.quote = some quote)
      (takes : Takes order quote) (enough : order.leavesQty ≤ quote.cjsl)
      (booked : Booked (allFilled order (quote.cjje / quote.cjsl)) after)
      (closed : Closes round order quote.hqsj after (quote.cjsl - order.leavesQty)
        (quote.cjje - order.leavesQty * (quote.cjje / quote.cjsl)) attempt) : Outcome round order attempt

theorem quotMatchOrder_trade {matched : Matched} (read : round.quote = some quote)
    (done : quotMatchByMarket db round cache order quote = some matched)
    (trade : matched.order.matchType = .matchAll ∨ matched.order.matchType = .matchPart) (silent : matched.pushed = [])
    {attempt : Attempt} (ran : enableQuoMatch db round cache order = some attempt) :
    Closes round order quote.hqsj matched.order matched.cjslRemain matched.cjjeRemain attempt := by
  unfold enableQuoMatch quotMatchOrder at ran
  have passed : ¬ (matched.order.matchType ≠ .matchAll ∧ matched.order.matchType ≠ .matchPart) := by
    rintro ⟨notAll, notPart⟩
    rcases trade with all | part
    · exact notAll all
    · exact notPart part
  simp only [read, done, Option.bind_eq_bind, Option.bind_some, passed, if_false, silent, List.nil_append] at ran
  cases stored : round.stored with
  | true =>
    simp only [stored, if_true, Option.map_some, Option.some.injEq] at ran
    subst attempt
    rcases trade with all | part
    · rw [answer_matchAll all]
      constructor <;> simp [stored, all]
    · rw [answer_matchPart part]
      constructor <;> simp [stored, part]
  | false =>
    simp only [stored, Bool.false_eq_true, if_false, Option.map_some, Option.some.injEq] at ran
    subst attempt
    rw [answer_notMatch rfl]
    constructor <;> simp [stored]

/-- The task's answer to a refusal pushes nothing but a rejection. -/
theorem answer_refused {refused : OrderMessage} (refusal : Refused order refused)
    (untaken : ∀ quote, round.quote = some quote → ¬ Takes order quote) :
    Outcome round order (answer { order := refused, cache }) := by
  unfold answer
  have different := refusal
  obtain ⟨_, _, _, _, rfl, notAll, notPart, notCancel⟩ := different
  simp only
  split
  next => exact absurd rfl notAll
  next => exact absurd rfl notCancel
  next => exact absurd rfl notPart
  next => exact .refused untaken refusal rfl (Or.inl rfl)
  all_goals exact .refused untaken (refusal.marked .errorMatch (by decide)) rfl (Or.inr ⟨rfl, rfl⟩)

theorem enableQuoMatch_outcome {attempt : Attempt} (ran : enableQuoMatch db round cache order = some attempt) :
    Outcome round order attempt := by
  cases read : round.quote with
  | none =>
    simp only [enableQuoMatch, quotMatchOrder, read, Option.map_some, Option.some.injEq] at ran
    subst attempt
    exact answer_refused (refused_refl order) (by simp [read])
  | some quote =>
    by_cases takes : Takes order quote
    · cases found : quotMatchByMarket db round cache order quote with
      | none => simp [enableQuoMatch, quotMatchOrder, read, found] at ran
      | some matched =>
        rw [quotMatchByMarket_takes takes] at found
        obtain ⟨booked, silent, cjsl, cjje⟩ := traded_booked found
        rw [← quotMatchByMarket_takes takes] at found
        by_cases short : quote.cjsl < order.leavesQty
        · cases cancels : cancelsRemainder order.delType with
          | false =>
            simp only [fill, short, cancels, if_true, Bool.false_eq_true, if_false] at booked silent cjsl cjje
            obtain ⟨_, _, _, wrote⟩ := booked
            have closed := quotMatchOrder_trade read found (Or.inr (by rw [wrote]; rfl)) silent ran
            rw [cjsl, cjje] at closed
            exact .part read takes short cancels ⟨_, _, _, wrote⟩ closed
          | true =>
            simp only [fill, short, cancels, if_true] at booked silent
            have outcome : matched.order.matchType = .cancelMatch := by
              obtain ⟨_, _, _, wrote⟩ := booked
              rw [wrote]
              rfl
            simp only [enableQuoMatch, quotMatchOrder, read, found, Option.bind_eq_bind, Option.bind_some, outcome,
              ne_eq, reduceCtorEq, not_false_eq_true, and_self, if_true, Option.map_some, Option.some.injEq] at ran
            rw [answer_cancelMatch outcome] at ran
            subst attempt
            exact .cut read takes short cancels rfl booked silent rfl rfl
        · simp only [fill, short, if_false] at booked silent cjsl cjje
          obtain ⟨_, _, _, wrote⟩ := booked
          have closed := quotMatchOrder_trade read found (Or.inl (by rw [wrote]; rfl)) silent ran
          rw [cjsl, cjje] at closed
          exact .whole read takes (UInt64.not_lt.mp short) ⟨_, _, _, wrote⟩ closed
    · obtain ⟨refused, found, refusal⟩ := quotMatchByMarket_refuses db round cache takes
      have untraded : refused.matchType ≠ .matchAll ∧ refused.matchType ≠ .matchPart := by
        obtain ⟨_, _, _, _, rfl, notAll, notPart, _⟩ := refusal
        exact ⟨notAll, notPart⟩
      simp only [enableQuoMatch, quotMatchOrder, read, found, Option.bind_eq_bind, Option.bind_some, untraded,
        ne_eq, not_false_eq_true, and_self, if_true, Option.map_some, Option.some.injEq] at ran
      subst attempt
      exact answer_refused refusal (by simp [read, takes])

end Matching

end Simutgw.Proofs.QuoteMatching
