import Simutgw.ShConnDbfOrder
import Simutgw.SzStepOrderHelper
import Simutgw.Proofs.MoneyText

/-! What the validators promise of an order they accept. The readers of numbers take
the front of any text, so an accepted order has the quantity and the price of its message
where their texts are decimal numbers that fit; and what an order for a basket says of its
side and its type is not looked at. -/

namespace Simutgw.Proofs.AcceptedOrders
open TgwStringUtil SofString DecimalText MoneyText Logic

/-! ### The reader of quantities -/

variable {numeral : Numeral} {text : String}

theorem leadingDigits_numeral {text : List Char} (spells : numeral.Spells text) :
    leadingDigits text = Nat.ofDigitChars 10 numeral.whole 0 := by
  have digits : ∀ char ∈ numeral.whole, char.isDigit := fun char member =>
    numeral.digits char (List.mem_append_left _ member)
  rcases spells with rfl | ⟨none, rfl⟩
  · have stop : ('.' :: numeral.fraction).takeWhile Char.isDigit = [] := rfl
    rw [leadingDigits, List.takeWhile_append_of_pos digits, stop, List.append_nil]
  · exact leadingDigits_digits digits

theorem strtoll_numeral {text : List Char} (spells : numeral.Spells text) :
    strtoll text = min (Nat.ofDigitChars 10 numeral.whole 0 : Int) (2 ^ 63 - 1) := by
  obtain ⟨solid, minus, plus⟩ := unsigned_numeral spells
  simp only [strtoll, solid, leadingDigits_numeral spells]
  have low : ¬ (Nat.ofDigitChars 10 numeral.whole 0 : Int) < -2 ^ 63 := by omega
  rw [if_neg low]
  split <;> omega

theorem string2UInt64_numeral (spells : numeral.Spells text.toList) :
    (string2UInt64 text).toNat = min (Nat.ofDigitChars 10 numeral.whole 0) (2 ^ 63 - 1) := by
  unfold string2UInt64
  split
  next empty =>
    rw [String.isEmpty_iff.mp empty] at spells
    rcases spells with none | ⟨none, front⟩
    · simp at none
    · have front : numeral.whole = [] := by simpa using front.symm
      exact absurd (by rw [front, none]; rfl) numeral.written
  next =>
    rw [strtoll_numeral spells, UInt64.ofInt]
    have word : ((min (Nat.ofDigitChars 10 numeral.whole 0 : Int) (2 ^ 63 - 1)) % 2 ^ 64).toNat =
        min (Nat.ofDigitChars 10 numeral.whole 0) (2 ^ 63 - 1) := by omega
    rw [word, UInt64.toNat_ofNat']
    omega

theorem value_eq_nat_iff {number : Nat} : numeral.value = number ↔
    Nat.ofDigitChars 10 numeral.whole 0 = number ∧ Nat.ofDigitChars 10 numeral.fraction 0 = 0 := by
  have digits : ∀ char ∈ numeral.fraction, char.isDigit := fun char member =>
    numeral.digits char (List.mem_append_right _ member)
  have small := ofDigitChars_lt digits
  have scale : (0 : ℚ) < 10 ^ numeral.fraction.length := by positivity
  constructor
  · intro same
    rw [Numeral.value, add_div_eq_mul_add_div _ _ (ne_of_gt scale), div_eq_iff (ne_of_gt scale)] at same
    have same : Nat.ofDigitChars 10 numeral.whole 0 * 10 ^ numeral.fraction.length +
        Nat.ofDigitChars 10 numeral.fraction 0 = number * 10 ^ numeral.fraction.length := by exact_mod_cast same
    have none := congrArg (· % 10 ^ numeral.fraction.length) same
    simp only [Nat.mul_comm _ (10 ^ _), Nat.mul_add_mod, Nat.mul_mod_right, Nat.mod_eq_of_lt small] at none
    rw [none, Nat.add_zero] at same
    exact ⟨Nat.eq_of_mul_eq_mul_right (by positivity) same, none⟩
  · intro both
    rw [Numeral.value, both.1, both.2]
    simp

/-! ### The orders -/

/-- An order on its way to the validators: a message of Shenzhen's, or a row of
Shanghai's table. -/
inductive Arrival where
  | step (setting : StepSetting) (message : StepMessage)
  | row (setting : OrdwthSetting) (data : RowData)

namespace Arrival

/-- The order that goes to validation, if one does. -/
def received : Arrival → Option OrderMessage
  | step setting message => SzStepOrderHelper.newOrder2Struct setting message
  | row setting data =>
    match ShDbfOrderHelper.handOn setting data with
    | .validation read => some read.order
    | .refusal _ => none

def qty : Arrival → String
  | step _ message => message.field "OrderQty"
  | row _ data => data.value "qty"

def price : Arrival → String
  | step _ message => message.field "Price"
  | row _ data => data.value "price"

end Arrival

/-- What both markets' orders have of their texts. -/
structure Entered (arrival : Arrival) (order : OrderMessage) : Prop where
  qty : order.strOrderqtyOrigin = arrival.qty
  leaves : order.strLeavesQty = arrival.qty
  price : order.orderPrice = string2UInt64MoneyInLi arrival.price
  printed : order.strOrderPrice = itostr order.orderPrice
  market : order.market = ""
  plain : order.isSh = true → order.applID = ""

/-- A validator accepts an order: Shenzhen's orders go by their application, and
Shanghai's to the first. -/
inductive Accepted (order after : OrderMessage) : Prop
  | app010 (app : order.isSh = true ∨ order.applID = "010")
      (accepted : AppId010OrderValide.validateOrder order = (0, after))
  | app120 (app : order.isSz = true ∧ order.applID = "120")
      (accepted : AppId120OrderValide.validateOrder order = (0, after))

/-- What should hold of an accepted order. -/
structure Lawful (arrival : Arrival) (after : OrderMessage) : Prop where
  quantity : ∃ numeral : Numeral, numeral.Spells arrival.qty.toList ∧ numeral.value = after.orderqtyOrigin.toNat ∧
    after.orderqtyOrigin ≠ 0
  leaves : after.leavesQty = after.orderqtyOrigin
  price : ∃ numeral : Numeral, numeral.Spells arrival.price.toList ∧ (after.orderPrice.toNat : ℚ) = numeral.value * 1000
  basket : after.applID = "120" → (after.side = Step.sideCrt ∨ after.side = Step.sideRdp) ∧ after.ordType = "2"

/-- The order types whose price is read once more from the text of its number. -/
def Limits (order : OrderMessage) : Prop :=
  order.applID ≠ "120" ∧
    (order.ordType = "2" ∨ order.ordType = "LPT" ∨ order.ordType = "LRZ" ∨ order.ordType = "LRQ")

/-- The quantity is a positive whole number that fits a signed word, the price a number of
whole thousandths that fits a word, a signed one for a limit, and a basket's order names
its side and its type. -/
structure WellFormed (arrival : Arrival) (order : OrderMessage) : Prop where
  quantity : ∃ (numeral : Numeral) (qty : Nat), numeral.Spells arrival.qty.toList ∧ numeral.value = qty ∧
    0 < qty ∧ qty < 2 ^ 63
  price : ∃ (numeral : Numeral) (li : Nat), numeral.Spells arrival.price.toList ∧ numeral.value * 1000 = li ∧
    li < 2 ^ 64 ∧ (Limits order → li < 2 ^ 63)
  basket : order.applID = "120" → (order.side = Step.sideCrt ∨ order.side = Step.sideRdp) ∧ order.ordType = "2"

variable {arrival : Arrival} {order after : OrderMessage}

theorem checkOrderTradeType_eq (order : OrderMessage) :
    ∃ tradeType, (StockOrderHelper.checkOrderTradeType order).2 = { order with tradeType } := by
  unfold StockOrderHelper.checkOrderTradeType
  split
  · exact ⟨order.tradeType, rfl⟩
  split
  · exact ⟨order.tradeType, rfl⟩
  · exact ⟨_, rfl⟩

theorem checkOrderTradeType_accepts (accepted : StockOrderHelper.checkOrderTradeType order = (0, after)) :
    ∃ tradeType, after = { order with tradeType } := by
  obtain ⟨tradeType, wrote⟩ := checkOrderTradeType_eq order
  rw [accepted] at wrote
  exact ⟨tradeType, wrote⟩

theorem received_entered (received : arrival.received = some order) : Entered arrival order := by
  cases arrival with
  | step setting message =>
    simp only [Arrival.received, SzStepOrderHelper.newOrder2Struct] at received
    split at received
    next =>
      split at received
      next =>
        split at received
        next checked =>
          cases received
          obtain ⟨_, rfl⟩ := checkOrderTradeType_accepts checked
          exact ⟨rfl, rfl, rfl, rfl, rfl, fun sh => nomatch sh⟩
        next => cases received
      next =>
        cases received
        exact ⟨rfl, rfl, rfl, rfl, rfl, fun sh => nomatch sh⟩
    next => cases received
  | row setting data =>
    simp only [Arrival.received, ShDbfOrderHelper.handOn] at received
    split at received
    next read handed =>
      cases received
      split at handed
      next =>
        split at handed
        next checked =>
          cases handed
          obtain ⟨_, rfl⟩ := checkOrderTradeType_accepts checked
          exact ⟨rfl, rfl, rfl, rfl, rfl, fun _ => rfl⟩
        next => cases handed
      next =>
        cases handed
        exact ⟨rfl, rfl, rfl, rfl, rfl, fun _ => rfl⟩
    next => cases received

/-- What a validator writes into an order that it accepts: the numbers, and the price once
more where it is a limit. -/
structure Numbered (order after : OrderMessage) : Prop where
  quantity : after.orderqtyOrigin = string2UInt64 order.strOrderqtyOrigin
  leaves : after.leavesQty = string2UInt64 order.strLeavesQty
  texts : after.applID = order.applID ∧ after.side = order.side ∧ after.ordType = order.ordType
  limited : Limits order → after.orderPrice = string2UInt64 order.strOrderPrice
  unlimited : ¬ Limits order → after.orderPrice = order.orderPrice

theorem declarationType_limit_iff {delType : DeclarationType}
    (declared : AppId010OrderValide.declarationType order = some delType) :
    delType = .ordinaryLimit ↔
      order.ordType = "2" ∨ order.ordType = "LPT" ∨ order.ordType = "LRZ" ∨ order.ordType = "LRQ" := by
  simp only [AppId010OrderValide.declarationType] at declared
  grind

theorem basicValidate_accepts (accepted : AppId010OrderValide.basicValidate order = (0, after)) :
    ∃ iSide minQty, after = { order with
      orderqtyOrigin := string2UInt64 order.strOrderqtyOrigin
      leavesQty := string2UInt64 order.strLeavesQty
      iSide
      minQty } := by
  unfold AppId010OrderValide.basicValidate at accepted
  split at accepted
  · cases accepted
  split at accepted
  · cases accepted
  simp only at accepted
  split at accepted
  · split at accepted
    · cases accepted
    · cases accepted
      exact ⟨_, _, rfl⟩
  · cases accepted

theorem getOrderDelType_accepts (accepted : AppId010OrderValide.getOrderDelType order = (0, after)) :
    ∃ delType, AppId010OrderValide.declarationType order = some delType ∧ after = { order with delType } := by
  unfold AppId010OrderValide.getOrderDelType at accepted
  split at accepted
  · split at accepted
    next delType declared =>
      cases accepted
      exact ⟨delType, declared, rfl⟩
    next => cases accepted
  · cases accepted

theorem app010_numbered (plain : order.applID ≠ "120") (new : order.msgType = Step.msgTypeNewOrder)
    (accepted : AppId010OrderValide.validateOrder order = (0, after)) : Numbered order after := by
  unfold AppId010OrderValide.validateOrder at accepted
  split at accepted
  next basic checked =>
    obtain ⟨iSide, minQty, rfl⟩ := basicValidate_accepts checked
    have notCancel : order.msgType ≠ Step.msgTypeOrderCancel := by
      rw [new]
      decide
    simp only [notCancel, if_false] at accepted
    split at accepted
    next typed checked =>
      obtain ⟨tradeType, rfl⟩ := checkOrderTradeType_accepts checked
      split at accepted
      next declared checked =>
        obtain ⟨delType, declared, rfl⟩ := getOrderDelType_accepts checked
        have limit := declarationType_limit_iff declared
        simp only at limit accepted
        split at accepted
        next isLimit =>
          cases accepted
          exact ⟨rfl, rfl, ⟨rfl, rfl, rfl⟩, fun _ => rfl, fun other => absurd ⟨plain, limit.mp isLimit⟩ other⟩
        next notLimit =>
          cases accepted
          exact ⟨rfl, rfl, ⟨rfl, rfl, rfl⟩, fun limits => absurd (limit.mpr limits.2) notLimit, fun _ => rfl⟩
      next refused => exact absurd accepted (refused _)
    next refused => exact absurd accepted (refused _)
  next refused => exact absurd accepted (refused _)

/-- A basket's order keeps the price of its message: no message names the market where the
other price would be read. -/
theorem app120_numbered (app : order.applID = "120") (unnamed : order.market = "")
    (accepted : AppId120OrderValide.validateOrder order = (0, after)) : Numbered order after := by
  have notLimit : ¬ Limits order := fun limits => limits.1 app
  unfold AppId120OrderValide.validateOrder at accepted
  split at accepted
  · cases accepted
  split at accepted
  · cases accepted
  have elsewhere : order.market ≠ tradeMarketSz := by
    rw [unnamed]
    decide
  simp only [elsewhere, if_false] at accepted
  obtain ⟨tradeType, rfl⟩ := checkOrderTradeType_accepts accepted
  exact ⟨rfl, rfl, ⟨rfl, rfl, rfl⟩, fun limits => absurd limits notLimit, fun _ => rfl⟩

theorem accepted_numbered (entered : Entered arrival order) (new : order.msgType = Step.msgTypeNewOrder)
    (accepted : Accepted order after) : Numbered order after := by
  cases accepted with
  | app010 app accepted =>
    apply app010_numbered _ new accepted
    obtain sh | app := app
    · rw [entered.plain sh]
      decide
    · rw [app]
      decide
  | app120 app accepted => exact app120_numbered app.2 entered.market accepted

/-! ### The law -/

theorem quantity_iff (numbered : Numbered order after) (entered : Entered arrival order) :
    (∃ numeral : Numeral, numeral.Spells arrival.qty.toList ∧ numeral.value = after.orderqtyOrigin.toNat ∧
      after.orderqtyOrigin ≠ 0) ↔
    ∃ (numeral : Numeral) (qty : Nat), numeral.Spells arrival.qty.toList ∧ numeral.value = qty ∧ 0 < qty ∧ qty < 2 ^ 63 := by
  have read : after.orderqtyOrigin = string2UInt64 arrival.qty := by rw [numbered.quantity, entered.qty]
  rw [read]
  constructor
  · intro lawful
    obtain ⟨numeral, spells, value, some⟩ := lawful
    refine ⟨numeral, _, spells, value, ?_, ?_⟩
    · rw [ne_eq, ← UInt64.toNat_inj] at some
      exact Nat.pos_of_ne_zero some
    · rw [string2UInt64_numeral spells]
      omega
  · intro wellFormed
    obtain ⟨numeral, qty, spells, value, some, fits⟩ := wellFormed
    have number := string2UInt64_numeral spells
    rw [(value_eq_nat_iff.mp value).1, Nat.min_eq_left (by omega)] at number
    refine ⟨numeral, spells, by rw [number, value], ?_⟩
    rw [ne_eq, ← UInt64.toNat_inj, number]
    exact Nat.ne_of_gt some

theorem price_toNat (numbered : Numbered order after) (entered : Entered arrival order) :
    (Limits order → after.orderPrice.toNat = min (string2UInt64MoneyInLi arrival.price).toNat (2 ^ 63 - 1)) ∧
      (¬ Limits order → after.orderPrice.toNat = (string2UInt64MoneyInLi arrival.price).toNat) := by
  refine ⟨?_, ?_⟩
  · intro limits
    rw [numbered.limited limits, entered.printed, string2UInt64_itostr_min, entered.price]
  · intro other
    rw [numbered.unlimited other, entered.price]

theorem price_iff (numbered : Numbered order after) (entered : Entered arrival order) :
    (∃ numeral : Numeral, numeral.Spells arrival.price.toList ∧
      (after.orderPrice.toNat : ℚ) = numeral.value * 1000) ↔
    ∃ (numeral : Numeral) (li : Nat), numeral.Spells arrival.price.toList ∧ numeral.value * 1000 = li ∧
      li < 2 ^ 64 ∧ (Limits order → li < 2 ^ 63) := by
  obtain ⟨limited, unlimited⟩ := price_toNat numbered entered
  constructor
  · intro lawful
    obtain ⟨numeral, spells, value⟩ := lawful
    refine ⟨numeral, _, spells, value.symm, after.orderPrice.toNat_lt, ?_⟩
    intro limits
    rw [limited limits]
    omega
  · intro wellFormed
    obtain ⟨numeral, li, spells, value, fits, signed⟩ := wellFormed
    have thousandths : ⌊numeral.value * 10 ^ 3⌋₊ = li := by
      rw [show (10 : ℚ) ^ 3 = 1000 by norm_num, value, Nat.floor_natCast]
    have read := string2UInt64MoneyInLi_numeral spells (by rw [thousandths]; exact fits)
    rw [thousandths] at read
    refine ⟨numeral, spells, ?_⟩
    rw [value]
    congr 1
    by_cases limits : Limits order
    · have below := signed limits
      rw [limited limits, read]
      omega
    · rw [unlimited limits, read]

/-- An accepted order is what its message says just when the texts of the quantity and
the price are decimal numbers that fit, and a basket's order names a side and a type
that are allowed. -/
theorem accepted_lawful_iff (received : arrival.received = some order) (new : order.msgType = Step.msgTypeNewOrder)
    (accepted : Accepted order after) : Lawful arrival after ↔ WellFormed arrival order := by
  have entered := received_entered received
  have numbered := accepted_numbered entered new accepted
  obtain ⟨applID, side, ordType⟩ := numbered.texts
  have leaves : after.leavesQty = after.orderqtyOrigin := by
    rw [numbered.leaves, numbered.quantity, entered.leaves, entered.qty]
  constructor
  · intro lawful
    refine ⟨(quantity_iff numbered entered).mp lawful.quantity, (price_iff numbered entered).mp lawful.price, ?_⟩
    rw [← applID, ← side, ← ordType]
    exact lawful.basket
  · intro wellFormed
    refine ⟨(quantity_iff numbered entered).mpr wellFormed.quantity, leaves,
      (price_iff numbered entered).mpr wellFormed.price, ?_⟩
    rw [applID, side, ordType]
    exact wellFormed.basket

/-- A message for a hundred shares at ten, but for these fields. -/
def sampleMessage (applID qty side ordType : String) : StepMessage where
  sessionId := "FIXT.1.1:A->B"
  beginString := "FIXT.1.1"
  header := fun name =>
    if name = "SenderCompID" then some "A" else if name = "TargetCompID" then some "B"
    else if name = "MsgType" then some "D" else none
  body := fun name =>
    if name = "ClOrdID" then some "0000000001" else if name = "SecurityID" then some "000001"
    else if name = "OrderQty" then some qty else if name = "Price" then some "10.0000"
    else if name = "Side" then some side else if name = "OrdType" then some ordType
    else if name = "TimeInForce" then some "0" else if name = "MaxPriceLevels" then some "0"
    else if name = "ApplID" then some applID else none
  noPartyIDs := []

def sampleSetting : StepSetting where
  globalPolicy := ⟨.normalMode, false, .enAbleQuta, .averagePrice, 2⟩

def sampleArrival (applID qty side ordType : String) : Arrival :=
  .step sampleSetting (sampleMessage applID qty side ordType)

def sampleOrder (applID qty side ordType : String) : OrderMessage :=
  (sampleArrival applID qty side ordType).received.getD {}

def hundred : Numeral := ⟨['1', '0', '0'], [], by simp, by simp⟩

def tenAndZeros : Numeral := ⟨['1', '0'], ['0', '0', '0', '0'], by simp, by simp⟩

theorem accepted_lawful_hundred :
    ∃ after, Accepted (sampleOrder "010" "100" "1" "2") after ∧ Lawful (sampleArrival "010" "100" "1" "2") after := by
  have code : (AppId010OrderValide.validateOrder (sampleOrder "010" "100" "1" "2")).1 = 0 := by decide +kernel
  have accepted : Accepted (sampleOrder "010" "100" "1" "2") _ := .app010 (.inr (by decide +kernel)) (Prod.ext code rfl)
  refine ⟨_, accepted, (accepted_lawful_iff (by decide +kernel) (by decide +kernel) accepted).mpr ?_⟩
  refine ⟨⟨hundred, 100, .inr ⟨rfl, by decide +kernel⟩, ?_, by decide, by decide⟩,
    ⟨tenAndZeros, 10000, .inl (by decide +kernel), ?_, by decide, fun _ => by decide⟩, ?_⟩
  · exact value_eq_nat_iff.mpr (by decide)
  · rw [value_eq_nat_iff.mpr (show _ = 10 ∧ _ by decide)]
    norm_num
  · intro app
    exact absurd app (by decide +kernel)

/-- An order for minus five shares is accepted as one for nearly 2^64. -/
theorem negative_quantity_accepted :
    (sampleArrival "010" "-5" "1" "2").received = some (sampleOrder "010" "-5" "1" "2") ∧
      (sampleOrder "010" "-5" "1" "2").msgType = Step.msgTypeNewOrder ∧
      ∃ after, Accepted (sampleOrder "010" "-5" "1" "2") after ∧ after.orderqtyOrigin = 18446744073709551611 ∧
        ¬ Lawful (sampleArrival "010" "-5" "1" "2") after := by
  have code : (AppId010OrderValide.validateOrder (sampleOrder "010" "-5" "1" "2")).1 = 0 := by decide +kernel
  refine ⟨by decide +kernel, by decide +kernel, _, .app010 (.inr (by decide +kernel)) (Prod.ext code rfl),
    by decide +kernel, ?_⟩
  intro lawful
  obtain ⟨numeral, spells, _⟩ := lawful.quantity
  have minus : '-' ∈ numeral.whole := by
    rw [spells.parts.1]
    decide +kernel
  exact absurd (numeral.digits '-' (List.mem_append_left _ minus)) (by decide)

end Simutgw.Proofs.AcceptedOrders
