import Simutgw.MatchTask
import Simutgw.PreTrade
import Simutgw.Proofs.CancelLookup
import Simutgw.Proofs.DecimalText

/-! Whether a cancel reaches the order it names. Both are sent to a worker by a
key, and only the ordinary match makes its key the way the cancel does. -/

namespace Simutgw.Proofs.CancelRouting
open TgwStringUtil TaskPriorityBase GenTaskHelper CancelLookup DecimalText Logic

/-- A security code of six digits. -/
structure Coded (stockID : String) : Prop where
  length : stockID.toList.length = 6
  digits : ∀ char ∈ stockID.toList, char.isDigit

theorem string2IntAtoi_coded {stockID : String} (coded : Coded stockID) :
    string2IntAtoi stockID = Nat.ofDigitChars 10 stockID.toList 0 ∧ Nat.ofDigitChars 10 stockID.toList 0 < 1000000 := by
  have small := ofDigitChars_lt coded.digits
  rw [coded.length] at small
  have some : stockID.toList ≠ [] := by
    intro none
    have length := coded.length
    rw [none] at length
    cases length
  have shown : stockID.isEmpty = false := by
    rw [← Bool.not_eq_true, String.isEmpty_iff]
    intro empty
    exact some (by rw [empty]; rfl)
  refine ⟨?_, by omega⟩
  rw [string2IntAtoi, shown, strtoll_digits coded.digits (by omega), if_neg (by decide)]
  rw [Int.bmod_eq_of_le (by omega) (by omega)]

theorem string2IntAtoi_inj {one two : String} (ones : Coded one) (twos : Coded two)
    (same : string2IntAtoi one = string2IntAtoi two) : one = two := by
  rw [(string2IntAtoi_coded ones).1, (string2IntAtoi_coded twos).1, Int.natCast_inj] at same
  exact String.toList_inj.mp (ofDigitChars_inj ones.digits twos.digits (ones.length.trans twos.length.symm) same)

/-- The same side, in either market's letters, or the same text. -/
def SameSide (one two : OrderMessage) : Prop :=
  (one.buys ∧ two.buys) ∨ (one.sells ∧ two.sells) ∨ one.side = two.side

/-- An order as it is queued: its code, the kind of task made for it, and, unless a
rule matches it, the trade type its preparation settled. -/
structure Placed (order : OrderMessage) (kind : TaskKind) : Prop where
  coded : Coded order.stockID
  made : genTaskMatch order = some kind
  typed : order.tradePolicy.ruleId = 0 → order.tradeType = (PreTrade.getTradeType order).1
  matched : kind ≠ .cancelOrder

/-- A cancel request that names the order. -/
structure Aims (request order : OrderMessage) : Prop where
  stockID : request.stockID = order.stockID
  side : request.side = order.side
  id : request.origClOrdId = order.clOrdId

/-- The cancel's task goes to the order's worker under the order's key, finds the
order wherever that worker keeps it, and can process what it finds. -/
structure CancelReaches (hash : String → Int) (kind : TaskKind) (order request : OrderMessage) : Prop where
  key : (Task.setOrderMsg hash .cancelOrder request).key = (Task.setOrderMsg hash kind order).key
  worker : ∀ pool : PriorityThreadPool,
    pool.workerOf (Task.setOrderMsg hash .cancelOrder request).key = pool.workerOf (Task.setOrderMsg hash kind order).key
  found : ∀ (pool : PriorityThreadPool) (queue : TaskPriorityQueue),
    pool[pool.workerOf (Task.setOrderMsg hash kind order).key]? = some queue →
    Task.setOrderMsg hash kind order ∈ searched queue (Task.setOrderMsg hash kind order).key →
    (∀ other ∈ searched queue (Task.setOrderMsg hash kind order).key, other.clOrdId = order.clOrdId →
      other = Task.setOrderMsg hash kind order) →
    ∃ queue rest, pool[pool.workerOf (Task.setOrderMsg hash .cancelOrder request).key]? = some queue ∧
      queue.deleteIfHaveTask (Task.setOrderMsg hash .cancelOrder request).key request.origClOrdId =
        some (Task.setOrderMsg hash kind order, rest)
  processed : TaskCancelOrder.downcasts (Task.setOrderMsg hash kind order)

/-- The keys of two orders tell their securities and sides apart. -/
def KeysTell (hash : String → Int) (kind otherKind : TaskKind) (order other : OrderMessage) : Prop :=
  (Task.setOrderMsg hash kind order).key = (Task.setOrderMsg hash otherKind other).key →
    order.stockID = other.stockID ∧ SameSide order other

section Keys

variable {hash : String → Int} {order : OrderMessage} {kind : TaskKind}

theorem getTradeType_sides (trades : (PreTrade.getTradeType order).1 = .aTrade ∨
    (PreTrade.getTradeType order).1 = .etfBuy ∨ (PreTrade.getTradeType order).1 = .etfSell) :
    order.buys ∨ order.sells := by
  by_cases buys : order.buys
  · exact Or.inl buys
  by_cases sells : order.sells
  · exact Or.inr sells
  simp only [PreTrade.getTradeType, buys, sells] at trades
  split at trades
  · simp at trades
  · simp only at trades
    split at trades
    · simp at trades
    · simp only [Bool.false_eq_true, if_false] at trades
      split at trades
      · split at trades <;> simp at trades
      · split at trades
        · split at trades <;> simp at trades
        · simp at trades

theorem Placed.side (placed : Placed order .aBStockMatch) : order.buys ∨ order.sells := by
  have made := placed.made
  unfold genTaskMatch at made
  split at made
  · split at made
    · cases made
    · split at made <;> cases made
  next unruled =>
    have typed := placed.typed (by simpa using unruled)
    apply getTradeType_sides
    rw [← typed]
    have never : order.tradeType ≠ .bTrade ∧ order.tradeType ≠ .marginCash ∧ order.tradeType ≠ .marginStock := by
      rw [typed]
      unfold PreTrade.getTradeType
      split
      · simp
      · simp only
        repeat' split
        all_goals simp
    split at made <;> simp_all

theorem key_ordinary (placed : Placed order .aBStockMatch) :
    (order.buys ∧ (Task.setOrderMsg hash .aBStockMatch order).key = 10000000 + string2IntAtoi order.stockID) ∨
      (order.sells ∧ (Task.setOrderMsg hash .aBStockMatch order).key = 20000000 + string2IntAtoi order.stockID) := by
  have asks : (Task.setOrderMsg hash .aBStockMatch order).key = generateKey hash order.stockID order.side true := rfl
  have buying : order.buys ↔ order.side = Step.sideBuyB ∨ order.side = Step.sideBuy1 := by
    simp [OrderMessage.buys]
  have selling : order.sells ↔ order.side = Step.sideSellS ∨ order.side = Step.sideSell2 := by
    simp [OrderMessage.sells]
  rw [asks, generateKey, if_pos rfl]
  by_cases buys : order.buys
  · exact Or.inl ⟨buys, by rw [if_pos (buying.mp buys)]; rfl⟩
  · have sells := placed.side.resolve_left buys
    exact Or.inr ⟨sells, by rw [if_neg (mt buying.mpr buys), if_pos (selling.mp sells)]; rfl⟩

theorem key_other (placed : Placed order kind) (other : kind ≠ .aBStockMatch) :
    (Task.setOrderMsg hash kind order).key = string2IntAtoi order.stockID := by
  have made := placed.made
  have matched := placed.matched
  cases kind with
  | aBStockMatch => exact absurd rfl other
  | cancelOrder => exact absurd rfl matched
  | etfMatch | shRuleMatch | szRuleMatch | validOrder => rfl

end Keys

theorem setOrderMsg_kind (hash : String → Int) (kind : TaskKind) (order : OrderMessage) :
    (Task.setOrderMsg hash kind order).kind = kind := by
  cases kind <;> rfl

theorem ordinary_reached {hash : String → Int} {order request : OrderMessage} (aims : Aims request order) :
    CancelReaches hash .aBStockMatch order request := by
  have key : (Task.setOrderMsg hash .cancelOrder request).key = (Task.setOrderMsg hash .aBStockMatch order).key :=
    congrArg₂ (fun stockID side => generateKey hash stockID side true) aims.stockID aims.side
  refine ⟨key, fun pool => by rw [key], fun pool queue held pending unique => ?_, rfl⟩
  rw [key, aims.id]
  have spec := deleteIfHaveTask_spec queue (Task.setOrderMsg hash .aBStockMatch order).key order.clOrdId
  cases taken : queue.deleteIfHaveTask (Task.setOrderMsg hash .aBStockMatch order).key order.clOrdId with
  | none =>
    rw [taken] at spec
    have passes := List.find?_eq_none.mp spec _ pending
    exact absurd (beq_self_eq_true order.clOrdId) passes
  | some result =>
    obtain ⟨task, rest⟩ := result
    rw [taken] at spec
    have named : task.clOrdId = order.clOrdId := by
      simpa [Under] using List.find?_some spec.1
    have same := unique task (List.mem_of_find?_eq_some spec.1) named
    exact ⟨queue, rest, held, by rw [taken, same]⟩

/-- Keys made by the code alone tell the codes apart and nothing else. -/
theorem other_keysTell_iff {hash : String → Int} {order other : OrderMessage} {kind otherKind : TaskKind}
    (placed : Placed order kind) (placedOther : Placed other otherKind) (byCode : kind ≠ .aBStockMatch)
    (otherByCode : otherKind ≠ .aBStockMatch) :
    KeysTell hash kind otherKind order other ↔ ¬ (order.stockID = other.stockID ∧ ¬ SameSide order other) := by
  rw [KeysTell, key_other placed byCode, key_other placedOther otherByCode]
  constructor
  · rintro tells ⟨stockID, sides⟩
    exact sides (tells (by rw [stockID])).2
  · intro apart same
    have stockID := string2IntAtoi_inj placed.coded placedOther.coded same
    exact ⟨stockID, not_not.mp fun sides => apart ⟨stockID, sides⟩⟩

theorem ordinary_keysTell {hash : String → Int} {order other : OrderMessage} {otherKind : TaskKind}
    (placed : Placed order .aBStockMatch) (placedOther : Placed other otherKind) :
    KeysTell hash .aBStockMatch otherKind order other := by
  intro same
  obtain ⟨value, small⟩ := string2IntAtoi_coded placed.coded
  obtain ⟨valueOther, smallOther⟩ := string2IntAtoi_coded placedOther.coded
  by_cases ordinary : otherKind = .aBStockMatch
  · subst ordinary
    have sides := @key_ordinary hash order placed
    have sidesOther := @key_ordinary hash other placedOther
    rw [same] at sides
    have codes : string2IntAtoi order.stockID = string2IntAtoi other.stockID := by omega
    refine ⟨string2IntAtoi_inj placed.coded placedOther.coded codes, ?_⟩
    rcases sides with ⟨buys, key⟩ | ⟨sells, key⟩ <;> rcases sidesOther with ⟨buysOther, keyOther⟩ | ⟨sellsOther, keyOther⟩
    · exact Or.inl ⟨buys, buysOther⟩
    · omega
    · omega
    · exact Or.inr (Or.inl ⟨sells, sellsOther⟩)
  · have sides := @key_ordinary hash order placed
    rw [same, key_other placedOther ordinary] at sides
    omega

theorem KeysTell.symm {hash : String → Int} {order other : OrderMessage} {kind otherKind : TaskKind}
    (tells : KeysTell hash kind otherKind order other) : KeysTell hash otherKind kind other order := by
  intro same
  obtain ⟨stockID, sides⟩ := tells same.symm
  refine ⟨stockID.symm, ?_⟩
  rcases sides with both | both | text
  · exact Or.inl both.symm
  · exact Or.inr (Or.inl both.symm)
  · exact Or.inr (Or.inr text.symm)

/-- A cancel reaches the order it names exactly when an ordinary match was queued
for it, and the keys of two orders tell their securities and sides apart exactly
when they are not both queued by the code alone and of the two sides of one code. -/
theorem cancel_reaches_order_iff (hash : String → Int) {order request : OrderMessage} {kind : TaskKind}
    (placed : Placed order kind) (aims : Aims request order) :
    (CancelReaches hash kind order request ↔ kind = .aBStockMatch) ∧
      ∀ other otherKind, Placed other otherKind → (KeysTell hash kind otherKind order other ↔
        ¬ (kind ≠ .aBStockMatch ∧ otherKind ≠ .aBStockMatch ∧ order.stockID = other.stockID ∧
          ¬ SameSide order other)) := by
  refine ⟨⟨fun reaches => ?_, ?_⟩, fun other otherKind placedOther => ?_⟩
  · have processed := reaches.processed
    rw [TaskCancelOrder.downcasts, setOrderMsg_kind, beq_iff_eq] at processed
    exact processed
  · rintro rfl
    exact ordinary_reached aims
  · by_cases ordinary : kind = .aBStockMatch
    · subst ordinary
      exact iff_of_true (ordinary_keysTell placed placedOther) fun both => both.1 rfl
    · by_cases ordinaryOther : otherKind = .aBStockMatch
      · subst ordinaryOther
        exact iff_of_true (ordinary_keysTell placedOther placed).symm fun both => both.2.1 rfl
      · rw [other_keysTell_iff placed placedOther ordinary ordinaryOther]
        simp only [ne_eq, ordinary, not_false_eq_true, ordinaryOther, true_and]

/-- A fund's order or a stock's. -/
def routedOrder (side stockID : String) : OrderMessage where
  side := side
  stockID := stockID
  clOrdId := "7"
  origClOrdId := "7"
  tradeMarket := tradeMarketSz
  tradeType := if side = "D" then .etfCrt else .aTrade

theorem routedOrder_reached : CancelReaches (fun _ => 0) .aBStockMatch (routedOrder "1" "000001")
    (routedOrder "1" "000001") :=
  (cancel_reaches_order_iff (fun _ => 0) ⟨⟨rfl, by simp [routedOrder]⟩, rfl, fun _ => rfl, by simp⟩
    ⟨rfl, rfl, rfl⟩).1.mpr rfl

/-- The cancel of a creation is keyed by a hash and cannot process what it finds. -/
theorem creation_not_reached :
    ¬ ∀ (hash : String → Int) (order request : OrderMessage) (kind : TaskKind), Placed order kind →
      Aims request order → CancelReaches hash kind order request := by
  intro always
  have reaches := always (fun _ => 0) (routedOrder "D" "159901") (routedOrder "D" "159901") .etfMatch
    ⟨⟨rfl, by simp [routedOrder]⟩, rfl, fun _ => rfl, by simp⟩ ⟨rfl, rfl, rfl⟩
  exact absurd reaches.processed (by decide)

end Simutgw.Proofs.CancelRouting
