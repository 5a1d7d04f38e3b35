import Simutgw.Proofs.OrderQuantities
import Simutgw.Proofs.QuoteConservation

/-! The trades of the four matchers on one quote: what one of them takes of its volume and
turnover, and what any number of orders take of it in turn. The price is the quotient
of what is left of both, so that a floor is lost at every match and never gained. -/

namespace Simutgw.Proofs.QuoteTrades
open Logic ABStockMatch UserStockHelper QuoteMatching SofString OrderQuantities

/-- Both amounts a match takes are those of the quote; the price keeps an order's limit. -/
structure Exact (order : OrderMessage) (quote : Quote) (matched : Matched) : Prop where
  divided : quote.cjsl ≠ 0
  volume : matched.cjslRemain.toNat + matched.order.orderqtyMatched.toNat = quote.cjsl.toNat
  turnover : matched.cjjeRemain.toNat + matched.order.orderqtyMatched.toNat * matched.order.priceMatched.toNat ≤
    quote.cjje.toNat
  leaves : matched.order.orderqtyUnmatched.toNat + matched.order.orderqtyMatched.toNat = order.leavesQty.toNat
  cash : matched.order.cashorderqtyMatched.toNat =
    matched.order.orderqtyMatched.toNat * matched.order.priceMatched.toNat
  buys : order.delType = .ordinaryLimit → order.iSide = 1 → matched.order.priceMatched ≤ order.orderPrice
  sells : order.delType = .ordinaryLimit → order.iSide = 2 → order.orderPrice ≤ matched.order.priceMatched

def isMatch : MatchType → Bool
  | .matchAll | .matchPart | .cancelMatch => true
  | _ => false

/-- What is left of a quote, and what the orders matched so far have taken. -/
structure Tally where
  quote : Quote
  qty : Nat := 0
  cash : Nat := 0

namespace Tally

/-- What a match leaves is written back; an order that is not matched leaves the quote. -/
def after (tally : Tally) (matched : Matched) : Tally :=
  if isMatch matched.order.matchType then
    { quote := { tally.quote with cjsl := matched.cjslRemain, cjje := matched.cjjeRemain }
      qty := tally.qty + matched.order.orderqtyMatched.toNat
      cash := tally.cash + matched.order.orderqtyMatched.toNat * matched.order.priceMatched.toNat }
  else tally

end Tally

/-- One order is matched against what the orders before it have left. -/
def Step : Steps Tally OrderMessage := fun before order after =>
  ∃ db round cache matched, quotMatchByMarket db round cache order before.quote = some matched ∧
    after = before.after matched

section Matches

variable {db : StockDb} {round : Round} {cache : StockCache} {order : OrderMessage} {quote : Quote}
  {matched : Matched} {cjsl cjje : UInt64}

end Matches

/-- What was taken and what is left are the quote's volume, and no more than its turnover. -/
structure Within (start : Quote) (tally : Tally) : Prop where
  volume : tally.qty + tally.quote.cjsl.toNat = start.cjsl.toNat
  turnover : tally.cash + tally.quote.cjje.toNat ≤ start.cjje.toNat

/-- The order is filled to its last share by one trade, and nothing is cancelled. -/
structure Fills (order : OrderMessage) (matched : Matched) : Prop where
  type : matched.order.matchType = .matchAll
  status : matched.order.ordStatus = Step.ordStatusFill
  quantity : matched.order.orderqtyMatched = order.leavesQty
  text : matched.order.lastQty = itostr order.leavesQty
  silent : matched.pushed = []

/-- All that is left of the order is cancelled, and nothing is traded. -/
structure CancelsAll (cache : StockCache) (order : OrderMessage) (matched : Matched) : Prop where
  type : matched.order.matchType = .cancelMatch
  quantity : matched.order.lastQty = itostr order.leavesQty
  untraded : matched.cache = cache ∧ matched.order.orderqtyMatched = order.orderqtyMatched

/-- All or nothing, so that a trade it writes is never of less than the leaves. -/
structure AllOrNothing (cache : StockCache) (order : OrderMessage) (matched : Matched) : Prop where
  decided : Fills order matched ∨ CancelsAll cache order matched
  whole : matched.order.orderqtyMatched ≠ order.orderqtyMatched → order.leavesQty ≤ matched.order.orderqtyMatched

section Whole

variable {db : StockDb} {round : Round} {cache : StockCache} {order : OrderMessage} {matched : Matched}
  {cjsl cjje : UInt64}

theorem takesPrice_market (order : OrderMessage) (price : UInt64) :
    TakesPrice false order price ↔ order.iSide = 1 ∨ order.iSide = 2 := by
  simp [TakesPrice]

/-- The matcher of these orders cancels whatever the quote does not cover, after it has
traded what it covers: it is all or nothing exactly where the quote covers the leaves. -/
theorem all_or_nothing_iff (volume : cjsl ≠ 0)
    (done : matchAllMarketOrCancel db round cache order cjsl cjje = some matched) :
    AllOrNothing cache order matched ↔ (order.iSide = 1 ∨ order.iSide = 2) ∧ order.leavesQty ≤ cjsl := by
  unfold matchAllMarketOrCancel matchWith at done
  rw [← takesPrice_market order (cjje / cjsl)]
  rcases checkMatchMethod_cases order cjsl cjje false with ⟨takes, passed⟩ | ⟨refuses, refused, found, refusal⟩
  · rw [passed] at done
    obtain ⟨updated, books, rfl⟩ := Option.map_eq_some_iff.mp done
    obtain ⟨_, _, wrote⟩ := updateAfterTrade_order books
    simp only [takes, true_and]
    by_cases short : cjsl < order.leavesQty
    · simp only [fill, short, if_true] at wrote books ⊢
      refine iff_of_false ?_ (UInt64.not_le.mpr short)
      rintro ⟨fills | cancels, -⟩
      · have type := fills.type
        rw [wrote] at type
        cases type
      · have quantity := cancels.quantity
        rw [wrote] at quantity
        have rest : order.leavesQty - cjsl = order.leavesQty := itostr_inj quantity
        have less := UInt64.toNat_sub_of_le _ _ (UInt64.le_of_lt short)
        rw [rest] at less
        rw [UInt64.lt_iff_toNat_lt] at short
        rw [ne_eq, ← UInt64.toNat_inj, UInt64.toNat_zero] at volume
        omega
    · simp only [fill, short, if_false] at wrote ⊢
      refine iff_of_true ⟨.inl ?_, fun _ => ?_⟩ (UInt64.not_lt.mp short)
      · constructor <;> first | rfl | (rw [wrote]; rfl)
      · rw [wrote]
        exact UInt64.le_refl _
  · rw [found] at done
    cases done
    refine iff_of_false ?_ fun both => refuses both.1
    obtain ⟨_, _, _, _, rfl, notAll, -, notCancel⟩ := refusal
    rintro ⟨fills | cancels, -⟩
    · exact notAll fills.type
    · exact notCancel cancels.type

end Whole

/-- A hundred shares against sixty: sixty are traded before the forty are cancelled. -/
theorem all_or_nothing_trades_part :
    ¬ ∀ (db : StockDb) (round : Round) (cache : StockCache) (order : OrderMessage) (cjsl cjje : UInt64)
        (matched : Matched), order.delType = .allMatchAtMarketOrCancel → cjsl ≠ 0 → cjje ≠ 0 →
      matchAllMarketOrCancel db round cache order cjsl cjje = some matched → AllOrNothing cache order matched := by
  intro always
  have whole := (always (fun _ _ => none) QuoteConservation.sampleRound (fun _ _ => none)
    (QuoteConservation.sampleBuy .allMatchAtMarketOrCancel) 60 600000 _ rfl (by decide) (by decide) rfl).whole
  revert whole
  decide

theorem all_or_nothing_covered : ∃ matched, AllOrNothing (fun _ _ => none)
    { QuoteConservation.sampleBuy .allMatchAtMarketOrCancel with leavesQty := 60 } matched :=
  ⟨_, (@all_or_nothing_iff (fun _ _ => none) QuoteConservation.sampleRound (fun _ _ => none)
    { QuoteConservation.sampleBuy .allMatchAtMarketOrCancel with leavesQty := 60 } _ 60 600000 (by decide)
    (Eq.refl (some _))).mpr ⟨.inl rfl, by decide⟩⟩

end Simutgw.Proofs.QuoteTrades
