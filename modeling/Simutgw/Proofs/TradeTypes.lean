import Simutgw.OrderValide
import Simutgw.Proofs.FreezeUndone

/-! The two classifications of an order. The check of the code settles a type by the
board, the margin and the application; the preparation settles it once more by the kind of
code and the side alone, writes it over the first, and freezes shares by it. -/

namespace Simutgw.Proofs.TradeTypes
open PreTrade StockOrderHelper UserStockHelper

inductive Board where
  | shenzhen
  | shanghai
  | bShare
  deriving DecidableEq

/-- The board that a code is of. -/
def boardOf (stockID : String) : Option Board :=
  let head := String.ofList (stockID.toList.take 3)
  let fundHead := String.ofList (stockID.toList.take 2)
  if head = "000" ∨ head = "001" ∨ head = "002" ∨ head = "300" ∨ fundHead = "15" ∨ fundHead = "16" ∨
      fundHead = "18" then some .shenzhen
  else if head = "600" ∨ head = "601" ∨ head = "603" ∨ fundHead = "50" ∨ fundHead = "51" then some .shanghai
  else if head = "200" ∨ head = "900" then some .bShare
  else none

/-- The order type of Shanghai asks for a loan. -/
def lends (order : OrderMessage) (mark : String) : Bool :=
  order.ordType.length == 3 && String.ofList ((order.ordType.toList.drop 1).take 2) == mark

def Board.type (order : OrderMessage) : Board → TadeType
  | .shenzhen => if buysOnMargin order then .marginCash else if sellsOnMargin order then .marginStock else .aTrade
  | .shanghai => if lends order "RZ" then .marginCash else if lends order "RQ" then .marginStock else .aTrade
  | .bShare => .bTrade

theorem boardType_eq (order : OrderMessage) :
    boardType order = (boardOf order.stockID).map (Board.type order) := by
  unfold boardType boardOf
  simp only
  split
  · simp only [Option.map_some, Board.type, apply_ite some]
  split
  · simp only [Option.map_some, Board.type]
    unfold lends
    split_ifs <;> rfl
  split <;> rfl

/-- The type that the check of a code of this board settles. -/
def assigned (order : OrderMessage) (board : Board) : TadeType :=
  if order.msgType = Step.msgTypeOrderCancel then .cancel
  else if order.applID = "120" ∧ order.side = "D" then .etfCrt
  else if order.applID = "120" ∧ order.side = "E" then .etfRdp
  else board.type order

theorem checkOrderTradeType_assigned {order classified : OrderMessage}
    (checked : checkOrderTradeType order = (0, classified)) :
    order.stockID.length = 6 ∧ ∃ board, boardOf order.stockID = some board ∧
      classified = { order with tradeType := assigned order board } := by
  unfold checkOrderTradeType at checked
  split at checked
  · cases checked
  next sized =>
    rw [boardType_eq] at checked
    refine ⟨not_not.mp sized, ?_⟩
    cases found : boardOf order.stockID with
    | none =>
      rw [found] at checked
      cases checked
    | some board =>
      rw [found] at checked
      cases checked
      refine ⟨board, rfl, ?_⟩
      unfold assigned
      congr 1
      split
      · rfl
      by_cases app : order.applID = "120"
      · simp only [app, if_true, true_and]
      · simp only [app, if_false, false_and]

/-- What the preparation may make of a type: an ordinary trade of a fund's code becomes a
fund's trade. -/
def Refines (stockID : String) (first second : TadeType) : Prop :=
  second = first ∨ first = .aTrade ∧ isEtfCode stockID = true ∧ (second = .etfBuy ∨ second = .etfSell)

/-- The order hands over shares of the customer's own: it sells without a loan, or trades
a basket for a fund's shares. -/
def HandsOver (order : OrderMessage) : Prop :=
  (order.tradeType = .aTrade ∨ order.tradeType = .bTrade) ∧ order.sells = true ∨
    order.tradeType = .etfCrt ∨ order.tradeType = .etfRdp

/-- What should hold of an order that was classified: the preparation keeps the type, and
changes the holdings only where the order hands over shares. -/
structure Lawful (classified : OrderMessage) : Prop where
  kept : Refines classified.stockID classified.tradeType (getTradeType classified).2.tradeType
  frozen : ∀ env cache prepared, tradePrep env classified cache = some prepared → prepared.cache ≠ cache →
    HandsOver classified

/-- An A share's or a fund's code, and no loan asked for. -/
def Unborrowed (order : OrderMessage) : Prop :=
  boardOf order.stockID = some .shenzhen ∧ order.cashMargin ≠ "2" ∧ order.cashMargin ≠ "3" ∨
    boardOf order.stockID = some .shanghai ∧ lends order "RZ" = false ∧ lends order "RQ" = false

/-- A cancel; a fund's creation or redemption that names its application; or an ordinary
trade. -/
def Plain (order : OrderMessage) : Prop :=
  order.msgType = Step.msgTypeOrderCancel ∨
    order.applID = "120" ∧ (order.side = "D" ∨ order.side = "E") ∧ isEtfCode order.stockID = true ∨
    (order.buys = true ∨ order.sells = true) ∧ Unborrowed order

/-- The type that the preparation settles of a code that is six characters long. -/
def settled (order : OrderMessage) : TadeType :=
  if order.msgType = Step.msgTypeOrderCancel then .cancel
  else if order.buys then if isEtfCode order.stockID then .etfBuy else .aTrade
  else if order.sells then if isEtfCode order.stockID then .etfSell else .aTrade
  else if order.side = "D" then if isEtfCode order.stockID then .etfCrt else .error
  else if order.side = "E" then if isEtfCode order.stockID then .etfRdp else .error
  else .error

theorem getTradeType_settled {order : OrderMessage} (sized : order.stockID.length = 6) :
    getTradeType order = (settled order, { order with tradeType := settled order }) := by
  unfold getTradeType settled
  rw [if_neg (not_not.mpr sized)]

theorem buys_of_sells {order : OrderMessage} (sells : order.sells = true) : order.buys = false := by
  simp only [OrderMessage.sells, OrderMessage.buys, Bool.or_eq_true, beq_iff_eq, Bool.or_eq_false_iff,
    beq_eq_false_iff_ne] at sells ⊢
  obtain same | same := sells
  · rw [same]
    decide
  · rw [same]
    decide

theorem trades_of_basket {order : OrderMessage} (basket : order.side = "D" ∨ order.side = "E") :
    order.buys = false ∧ order.sells = false := by
  simp only [OrderMessage.sells, OrderMessage.buys, Bool.or_eq_false_iff, beq_eq_false_iff_ne]
  obtain same | same := basket
  · rw [same]
    decide
  · rw [same]
    decide

theorem type_aTrade_iff {order : OrderMessage} {board : Board} (found : boardOf order.stockID = some board)
    (trades : order.buys = true ∨ order.sells = true) : board.type order = .aTrade ↔ Unborrowed order := by
  cases board with
  | shenzhen =>
    have sides : (order.buys || order.sells) = true := by simpa using trades
    have margin : (buysOnMargin order || sellsOnMargin order) = (order.cashMargin == "2" || order.cashMargin == "3") := by
      unfold buysOnMargin sellsOnMargin
      revert sides
      cases order.buys <;> cases order.sells <;> cases order.cashMargin == "2" <;> cases order.cashMargin == "3" <;> decide
    have none : Board.type order .shenzhen = .aTrade ↔ (buysOnMargin order || sellsOnMargin order) = false := by
      simp only [Board.type]
      cases buysOnMargin order <;> cases sellsOnMargin order <;> decide
    rw [none, margin, Bool.or_eq_false_iff, beq_eq_false_iff_ne, beq_eq_false_iff_ne]
    simp [Unborrowed, found]
  | shanghai =>
    have none : Board.type order .shanghai = .aTrade ↔ lends order "RZ" = false ∧ lends order "RQ" = false := by
      simp only [Board.type]
      cases lends order "RZ" <;> cases lends order "RQ" <;> decide
    rw [none]
    simp [Unborrowed, found]
  | bShare => simp [Board.type, Unborrowed, found]

theorem settled_cases (order : OrderMessage) : settled order ≠ .marginCash ∧ settled order ≠ .marginStock ∧
    settled order ≠ .bTrade := by
  unfold settled
  split_ifs <;> decide

theorem refines_trade_iff {order : OrderMessage} {board : Board} (live : order.msgType ≠ Step.msgTypeOrderCancel)
    (trades : order.buys = true ∨ order.sells = true) :
    Refines order.stockID (assigned order board) (settled order) ↔ board.type order = .aTrade := by
  have plain : order.side ≠ "D" ∧ order.side ≠ "E" := by
    refine ⟨?_, ?_⟩
    · intro basket
      have none := trades_of_basket (.inl basket)
      rw [none.1, none.2] at trades
      simp at trades
    · intro basket
      have none := trades_of_basket (.inr basket)
      rw [none.1, none.2] at trades
      simp at trades
  have first : assigned order board = board.type order := by
    simp only [assigned, live, plain, and_false, if_false]
  have second : settled order = .aTrade ∧ isEtfCode order.stockID = false ∨
      isEtfCode order.stockID = true ∧ (settled order = .etfBuy ∨ settled order = .etfSell) := by
    simp only [settled, live, if_false]
    cases isEtfCode order.stockID <;> obtain buys | sells := trades
    · simp [buys]
    · simp [sells, buys_of_sells sells]
    · simp [buys]
    · simp [sells, buys_of_sells sells]
  rw [first, Refines]
  constructor
  · intro refines
    obtain same | ordinary := refines
    · obtain ⟨type, _⟩ | ⟨_, type⟩ := second
      · rw [← same, type]
      · exfalso
        rw [same] at type
        cases board <;> simp only [Board.type] at type <;> grind
    · exact ordinary.1
  · intro ordinary
    rw [ordinary]
    obtain ⟨type, _⟩ | ⟨fund, type⟩ := second
    · exact .inl type
    · exact .inr ⟨rfl, fund, type⟩

/-- An order that neither buys nor sells keeps its type just where it trades a fund's
basket and says so. -/
theorem refines_basket_iff {order : OrderMessage} {board : Board} (live : order.msgType ≠ Step.msgTypeOrderCancel)
    (idle : order.buys = false ∧ order.sells = false) :
    Refines order.stockID (assigned order board) (settled order) ↔
      order.applID = "120" ∧ (order.side = "D" ∨ order.side = "E") ∧ isEtfCode order.stockID = true := by
  have typed : board.type order ≠ .etfCrt ∧ board.type order ≠ .etfRdp ∧ board.type order ≠ .error := by
    cases board <;> simp only [Board.type] <;> (try split_ifs) <;> decide
  have second : settled order ≠ .etfBuy ∧ settled order ≠ .etfSell ∧ settled order ≠ .aTrade := by
    simp only [settled, live, idle, if_false, Bool.false_eq_true]
    split_ifs <;> decide
  have same : Refines order.stockID (assigned order board) (settled order) ↔ settled order = assigned order board := by
    rw [Refines, or_iff_left]
    intro refined
    exact refined.2.2.elim second.1 second.2.1
  rw [same]
  simp only [settled, assigned, live, idle, if_false, Bool.false_eq_true]
  grind

theorem refines_iff {order : OrderMessage} {board : Board} (found : boardOf order.stockID = some board) :
    Refines order.stockID (assigned order board) (settled order) ↔ Plain order := by
  by_cases cancels : order.msgType = Step.msgTypeOrderCancel
  · simp [Refines, assigned, settled, Plain, cancels]
  · by_cases trades : order.buys = true ∨ order.sells = true
    · rw [refines_trade_iff cancels trades, type_aTrade_iff found trades]
      simp only [Plain, cancels, trades, false_or, true_and]
      constructor
      · exact .inr
      · intro plain
        obtain ⟨_, basket, _⟩ | unborrowed := plain
        · have none := trades_of_basket basket
          rw [none.1, none.2] at trades
          simp at trades
        · exact unborrowed
    · rw [not_or, Bool.not_eq_true, Bool.not_eq_true] at trades
      rw [refines_basket_iff cancels trades]
      simp [Plain, cancels, trades]

/-! ### What is frozen -/

theorem finish_cache {code : Int} {order : OrderMessage} {cache : StockCache} {prepared : Prepared}
    (done : finish code order cache = some prepared) : prepared.cache = cache := by
  unfold finish at done
  split at done
  · cases done
    rfl
  · cases done
    rfl

theorem frozeSell_sells {env : Env} {order : OrderMessage} {cache : StockCache} {prepared : Prepared}
    (done : frozeSell env order cache = some prepared) (moved : prepared.cache ≠ cache) : order.sells = true := by
  unfold frozeSell at done
  split at done
  next sells => exact sells.2
  next => exact absurd (finish_cache done) moved

theorem afterQuotation_moves {env : Env} {order : OrderMessage} {cache : StockCache} {prepared : Prepared}
    {froze : OrderMessage → StockCache → Option Prepared}
    (done : afterQuotation env order cache froze = some prepared) (moved : prepared.cache ≠ cache) :
    froze order cache = some prepared := by
  unfold afterQuotation at done
  split at done
  next =>
    rcases FreezeUndone.checkOrderByQuotation_cases env order with passed | ⟨refused, found⟩
    · rw [passed] at done
      exact done
    · rw [found] at done
      cases done
      exact absurd rfl moved
  next => exact done

/-- The preparation changes the holdings for a sell, a creation or a redemption only. -/
theorem tradePrep_moves {env : Env} {order : OrderMessage} {cache : StockCache} {prepared : Prepared}
    (sized : order.stockID.length = 6) (done : tradePrep env order cache = some prepared)
    (moved : prepared.cache ≠ cache) :
    (settled order = .aTrade ∨ settled order = .etfBuy ∨ settled order = .etfSell) ∧ order.sells = true ∨
      settled order = .etfCrt ∨ settled order = .etfRdp := by
  unfold tradePrep at done
  rw [getTradeType_settled sized] at done
  cases type : settled order with
  | error =>
    rw [type] at done
    cases done
    exact absurd rfl moved
  | aTrade =>
    rw [type] at done
    have quoted : afterQuotation env { order with tradeType := .aTrade } cache (frozeSell env) = some prepared := done
    have sells := frozeSell_sells (afterQuotation_moves quoted moved) moved
    exact .inl ⟨.inl rfl, sells⟩
  | bTrade => exact absurd type (settled_cases order).2.2
  | etfBuy =>
    rw [type] at done
    have quoted : afterQuotation env { order with tradeType := .etfBuy } cache (frozeSell env) = some prepared := done
    have sells := frozeSell_sells (afterQuotation_moves quoted moved) moved
    exact .inl ⟨.inr (.inl rfl), sells⟩
  | etfSell =>
    refine .inl ⟨.inr (.inr rfl), ?_⟩
    unfold settled at type
    split_ifs at type
    all_goals assumption
  | etfCrt => exact .inr (.inl rfl)
  | etfRdp => exact .inr (.inr rfl)
  | marginCash => exact absurd type (settled_cases order).1
  | marginStock => exact absurd type (settled_cases order).2.1
  | cancel =>
    rw [type] at done
    exact absurd (finish_cache done) moved

theorem handsOver_of_moves {order : OrderMessage} {first : TadeType}
    (kept : Refines order.stockID first (settled order))
    (moves : (settled order = .aTrade ∨ settled order = .etfBuy ∨ settled order = .etfSell) ∧ order.sells = true ∨
      settled order = .etfCrt ∨ settled order = .etfRdp)
    (named : first ≠ .etfBuy ∧ first ≠ .etfSell) : HandsOver { order with tradeType := first } := by
  unfold HandsOver
  obtain same | ⟨ordinary, _, fund⟩ := kept
  · rw [same] at moves
    obtain ⟨trade | buy | sell, sells⟩ | basket := moves
    · exact .inl ⟨.inl trade, sells⟩
    · exact absurd buy named.1
    · exact absurd sell named.2
    · exact .inr basket
  · obtain ⟨_, sells⟩ | basket := moves
    · exact .inl ⟨.inl ordinary, sells⟩
    · obtain buy | sell := fund
      · rw [buy] at basket
        obtain creation | redemption := basket
        · cases creation
        · cases redemption
      · rw [sell] at basket
        obtain creation | redemption := basket
        · cases creation
        · cases redemption

theorem assigned_unrefined (order : OrderMessage) (board : Board) :
    assigned order board ≠ .etfBuy ∧ assigned order board ≠ .etfSell := by
  cases board <;> simp only [assigned, Board.type] <;> split_ifs <;> decide

/-- The preparation keeps the type that the check has settled, and freezes by it, just
where the order is a cancel, a fund's basket, or a trade without a loan. -/
theorem classification_kept_iff {order classified : OrderMessage}
    (checked : checkOrderTradeType order = (0, classified)) : Lawful classified ↔ Plain order := by
  obtain ⟨sized, board, found, rfl⟩ := checkOrderTradeType_assigned checked
  have second : (getTradeType { order with tradeType := assigned order board }).2.tradeType = settled order := by
    rw [@getTradeType_settled { order with tradeType := assigned order board } sized]
    rfl
  constructor
  · intro lawful
    have kept := lawful.kept
    rw [second] at kept
    exact (refines_iff found).mp kept
  · intro plain
    have kept := (refines_iff found).mpr plain
    refine ⟨?_, ?_⟩
    · rw [second]
      exact kept
    · intro env cache prepared done moved
      have moves := @tradePrep_moves _ { order with tradeType := assigned order board } _ _ sized done moved
      exact handsOver_of_moves kept moves (assigned_unrefined order board)

/-- A Shenzhen order to sell a hundred shares, with this margin. -/
def sampleSell (cashMargin : String) : OrderMessage where
  stockID := "000001"
  side := "2"
  cashMargin := cashMargin
  accountId := "A"
  leavesQty := 100
  msgType := "D"
  ordType := "2"
  tradePolicy := { checkAssets := true, matchMode := .simulMatchAll }

theorem classification_kept_sell : Lawful (checkOrderTradeType (sampleSell "1")).2 :=
  (@classification_kept_iff (sampleSell "1") _ rfl).mpr
    (.inr (.inr ⟨.inr (by decide), .inl ⟨by decide +kernel, by decide, by decide⟩⟩))

/-- A sale of borrowed shares is prepared as one of the customer's own. -/
theorem short_sale_reclassified :
    (checkOrderTradeType (sampleSell "2")).2.tradeType = .marginStock ∧
      (getTradeType (checkOrderTradeType (sampleSell "2")).2).2.tradeType = .aTrade ∧
      ¬ Lawful (checkOrderTradeType (sampleSell "2")).2 := by
  refine ⟨by decide +kernel, by decide +kernel, ?_⟩
  intro lawful
  have kept := lawful.kept
  revert kept
  unfold Refines
  decide +kernel

end Simutgw.Proofs.TradeTypes
