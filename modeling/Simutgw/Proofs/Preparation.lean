import Simutgw.PreTrade
import Simutgw.Proofs.QuoteMatching

/-! What the preparation of an order leaves as it was. -/

namespace Simutgw.Proofs.Preparation
open PreTrade QuoteMatching

/-- The fields of an order no step of the preparation writes. -/
structure Kept (before after : OrderMessage) : Prop where
  tradePolicy : after.tradePolicy = before.tradePolicy
  accountId : after.accountId = before.accountId
  clOrdId : after.clOrdId = before.clOrdId
  stockID : after.stockID = before.stockID
  tradeMarket : after.tradeMarket = before.tradeMarket
  applID : after.applID = before.applID
  side : after.side = before.side
  senderCompID : after.senderCompID = before.senderCompID
  leavesQty : after.leavesQty = before.leavesQty
  orderqtyOrigin : after.orderqtyOrigin = before.orderqtyOrigin
  tradeType : after.tradeType = before.tradeType
  msgType : after.msgType = before.msgType
  origClOrdId : after.origClOrdId = before.origClOrdId

theorem Kept.refl (order : OrderMessage) : Kept order order := by constructor <;> rfl

theorem Kept.trans {first second third : OrderMessage} (one : Kept first second) (two : Kept second third) :
    Kept first third where
  tradePolicy := two.tradePolicy.trans one.tradePolicy
  accountId := two.accountId.trans one.accountId
  clOrdId := two.clOrdId.trans one.clOrdId
  stockID := two.stockID.trans one.stockID
  tradeMarket := two.tradeMarket.trans one.tradeMarket
  applID := two.applID.trans one.applID
  side := two.side.trans one.side
  senderCompID := two.senderCompID.trans one.senderCompID
  leavesQty := two.leavesQty.trans one.leavesQty
  orderqtyOrigin := two.orderqtyOrigin.trans one.orderqtyOrigin
  tradeType := two.tradeType.trans one.tradeType
  msgType := two.msgType.trans one.msgType
  origClOrdId := two.origClOrdId.trans one.origClOrdId

theorem kept_marked (order : OrderMessage) (matchType : MatchType) : Kept order (order.markedAs matchType) :=
  by constructor <;> rfl

theorem kept_refused {before after : OrderMessage} (refused : Refused before after) : Kept before after := by
  obtain ⟨_, _, _, _, rfl, _⟩ := refused
  constructor <;> rfl

/-- The switch's type is noted on the order, and nothing else is written. -/
theorem getTradeType_eq (order : OrderMessage) :
    ∃ tradeType, (getTradeType order).2 = { order with tradeType } ∧
      ((getTradeType order).1 = .error ∨ (getTradeType order).1 = tradeType) := by
  unfold getTradeType
  split
  · exact ⟨order.tradeType, rfl, Or.inl rfl⟩
  · exact ⟨_, rfl, Or.inr rfl⟩

section Steps

variable {env : Env} {order : OrderMessage} {cache : StockCache} {prepared : Prepared}

theorem checkOrderByQuotation_kept (env : Env) (order : OrderMessage) : Kept order (checkOrderByQuotation env order).2 := by
  unfold checkOrderByQuotation
  split
  · exact .refl order
  next quote _ =>
    rcases checkTPBZ_cases order quote.tpbz with ⟨_, passed⟩ | ⟨_, refused, found, refusal⟩
    · simp only [PreTrade.checkTPBZ, passed]
      split
      · rcases checkMaxGainAndMinFall_cases order quote with ⟨_, passed⟩ | ⟨_, refused, found, refusal⟩
        · simp only [PreTrade.checkMaxGainAndMinFall, passed]
          exact .refl order
        · simp only [PreTrade.checkMaxGainAndMinFall, found]
          exact kept_refused refusal
      · exact .refl order
    · simp only [PreTrade.checkTPBZ, found]
      exact kept_refused refusal

theorem finish_kept {code : Int} (done : finish code order cache = some prepared) : Kept order prepared.order := by
  unfold finish at done
  split at done
  · cases done
    exact kept_marked order _
  · cases done
    exact .refl order

theorem frozeSell_kept (done : frozeSell env order cache = some prepared) : Kept order prepared.order := by
  unfold frozeSell at done
  split at done
  · have later := finish_kept done
    refine Kept.trans ?_ later
    constructor <;> rfl
  · exact finish_kept done

theorem frozeSellEtf_kept (done : frozeSellEtf env order cache = some prepared) : Kept order prepared.order := by
  unfold frozeSellEtf at done
  split at done
  · have later := finish_kept done
    refine Kept.trans ?_ later
    constructor <;> rfl
  · exact finish_kept done

theorem afterQuotation_kept {froze : OrderMessage → StockCache → Option Prepared}
    (kept : ∀ {order : OrderMessage}, froze order cache = some prepared → Kept order prepared.order)
    (done : afterQuotation env order cache froze = some prepared) : Kept order prepared.order := by
  unfold afterQuotation at done
  have checked := checkOrderByQuotation_kept env order
  split at done
  · split at done
    next answer =>
      rw [answer] at checked
      exact checked.trans (kept done)
    next answer =>
      rw [answer] at checked
      cases done
      exact checked
  · exact kept done

theorem validateETF_kept (env : Env) (order : OrderMessage) : Kept order (validateETF env order).2 := by
  have twice := (kept_marked order .notMatch).trans (kept_marked (order.markedAs .notMatch) .errorMatch)
  simp only [validateETF]
  split
  · exact kept_marked order _
  · split <;> split
    · exact twice
    · split
      · exact twice
      · exact kept_marked order _
    · exact twice
    · split
      · exact twice
      · exact kept_marked order _

theorem addCreationComponent_kept {etf : SzEtf} {after : OrderMessage}
    (done : addCreationComponent order etf = some after) : Kept order after := by
  unfold addCreationComponent at done
  split at done
  · exact nomatch done
  · cases done
    constructor <;> rfl

theorem addRedeptionComponent_kept {etf : SzEtf} {after : OrderMessage}
    (done : addRedeptionComponent order etf = some after) : Kept order after := by
  unfold addRedeptionComponent at done
  split at done
  · exact nomatch done
  · cases done
    constructor <;> rfl

theorem prepCreation_kept (done : prepCreation env order cache = some prepared) : Kept order prepared.order := by
  unfold prepCreation at done
  have valid := validateETF_kept env order
  split at done
  next answer =>
    rw [answer] at valid
    refine valid.trans ?_
    split at done
    · cases done
      exact kept_marked _ _
    split at done
    · obtain ⟨⟨code, loaded, components⟩, _, done⟩ := Option.bind_eq_some_iff.mp done
      have later := finish_kept done
      refine Kept.trans ?_ later
      constructor <;> rfl
    · obtain ⟨noted, found, done⟩ := Option.bind_eq_some_iff.mp done
      exact (addCreationComponent_kept found).trans (finish_kept done)
  next answer =>
    rw [answer] at valid
    cases done
    exact valid

theorem prepRedemption_kept (done : prepRedemption env order cache = some prepared) : Kept order prepared.order := by
  unfold prepRedemption at done
  have valid := validateETF_kept env order
  split at done
  next answer =>
    rw [answer] at valid
    refine valid.trans ?_
    split at done
    · cases done
      exact kept_marked _ _
    split at done
    · obtain ⟨noted, found, done⟩ := Option.bind_eq_some_iff.mp done
      refine Kept.trans ?_ (finish_kept done)
      have added := addRedeptionComponent_kept found
      refine Kept.trans ?_ added
      constructor <;> rfl
    · obtain ⟨noted, found, done⟩ := Option.bind_eq_some_iff.mp done
      exact (addRedeptionComponent_kept found).trans (finish_kept done)
  next answer =>
    rw [answer] at valid
    cases done
    exact valid

theorem tradePrep_kept (done : tradePrep env order cache = some prepared) :
    Kept (getTradeType order).2 prepared.order := by
  unfold tradePrep at done
  split at done <;> rename_i answer <;> rw [answer]
  · cases done
    exact .refl _
  · exact afterQuotation_kept frozeSell_kept done
  · exact afterQuotation_kept frozeSell_kept done
  · exact afterQuotation_kept frozeSell_kept done
  · exact afterQuotation_kept frozeSellEtf_kept done
  · exact prepCreation_kept done
  · exact prepRedemption_kept done
  · exact finish_kept done

end Steps

end Simutgw.Proofs.Preparation
