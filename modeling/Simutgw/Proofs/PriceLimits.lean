import Simutgw.PreTrade
import Simutgw.Proofs.QuoteIsolation

/-! The price limits of a quote, from the message's texts to the two checks of an order. -/

namespace Simutgw.Proofs.PriceLimits
open TgwStringUtil AStockQuotationHelper Logic MoneyText FlatObjects QuoteIsolation

/-- The exchange's number for no limit, with so many zeros behind it. -/
def noLimit (sign : String) (zeros : Nat) : String :=
  sign ++ "999999999.9999" ++ String.ofList (List.replicate zeros '0')

/-- What a message gives as a limit. -/
inductive PriceLimit where
  | price (numeral : Numeral)
  | none (zeros : Nat)

namespace PriceLimit

def Spells (sign : String) : PriceLimit → String → Prop
  | .price numeral, text => numeral.Spells text.toList ∧ ∀ zeros, text ≠ noLimit sign zeros
  | .none zeros, text => text = noLimit sign zeros

def bound : PriceLimit → Option ℚ
  | .price numeral => some numeral.value
  | .none _ => Option.none

/-! The thousandths a limit leaves to a price. -/

def lowest : PriceLimit → Nat
  | .price numeral => ⌈numeral.value * 1000⌉₊
  | .none _ => 0

def highest : PriceLimit → Nat
  | .price numeral => min ⌊numeral.value * 1000⌋₊ (2 ^ 64 - 1)
  | .none _ => 2 ^ 64 - 1

/-! The words a limit is decoded to. One spelling of no limit is recognised, and the others
are converted like prices. -/

def upperWord : PriceLimit → Nat
  | .price numeral => wrapped numeral
  | .none zeros => if zeros = 2 then 0 else 999999999999

def lowerWord : PriceLimit → Nat
  | .price numeral => wrapped numeral
  | .none zeros => if zeros = 2 then 0 else 2 ^ 64 - 999999998001

end PriceLimit
open PriceLimit

/-- A price between the limits, where there are any. -/
def Within (lower upper : PriceLimit) (price : UInt64) : Prop :=
  (∀ least, lower.bound = some least → least ≤ price.toNat / 1000) ∧
    ∀ most, upper.bound = some most → price.toNat / 1000 ≤ most

theorem within_iff (lower upper : PriceLimit) (price : UInt64) :
    Within lower upper price ↔ lower.lowest ≤ price.toNat ∧ price.toNat ≤ upper.highest := by
  have thousand : (0 : ℚ) < 1000 := by norm_num
  have fits := price.toNat_lt
  refine and_congr ?_ ?_
  · cases lower with
    | none zeros => simp [bound, lowest]
    | price numeral => simp [bound, lowest, Nat.ceil_le, le_div_iff₀ thousand]
  · cases upper with
    | none zeros =>
      simp only [bound, highest, reduceCtorEq, false_implies, implies_true, true_iff]
      omega
    | price numeral =>
      have nonneg : 0 ≤ numeral.value * 1000 := by
        rw [numeral.value_eq]
        positivity
      simp only [bound, highest, Option.some.injEq, forall_eq', div_le_iff₀ thousand, le_min_iff, Nat.le_floor_iff nonneg]
      constructor
      · intro below
        exact ⟨below, by omega⟩
      · intro ⟨below, _⟩
        exact below

/-! The texts converted. -/

theorem noLimit_money {sign : String} (signs : sign = "" ∨ sign = "-") (zeros : Nat) :
    string2UInt64MoneyInLi (noLimit sign zeros) = strtoull (sign ++ "999999999").toList * 1000 + 999 := by
  have text : (noLimit sign zeros).toList =
      (sign ++ "999999999").toList ++ '.' :: ("9999".toList ++ List.replicate zeros '0') := by
    simp [noLimit]
  have before : '.' ∉ (sign ++ "999999999").toList := by
    rcases signs with rfl | rfl <;> decide +kernel
  have after : '.' ∉ "9999".toList ++ List.replicate zeros '0' := by
    simp
  have split : (noLimit sign zeros).toList.splitOn '.' =
      [(sign ++ "999999999").toList, "9999".toList ++ List.replicate zeros '0'] := by
    rw [text, List.splitOn_append_cons_self_of_not_mem before, List.splitOn_eq_singleton after]
  have nine : UInt64.ofInt (strtoll ['9']) = 9 := by decide +kernel
  have nines (place : Nat) (front : place < 3) :
      ("9999".toList ++ List.replicate zeros '0')[place]? = some '9' := by
    interval_cases place <;> rfl
  have first := nines 0 (by decide)
  have second := nines 1 (by decide)
  have third := nines 2 (by decide)
  have digits : (9 : UInt64) * 100 + 9 * 10 + 9 = 999 := by decide
  simp only [string2UInt64MoneyInLi, split, first, second, third, nine, digits]

theorem noLimit_inj {sign : String} {one two : Nat} (same : noLimit sign one = noLimit sign two) : one = two := by
  have length := congrArg (fun text => text.toList.length) same
  simpa [noLimit] using length

theorem upper_word {upper : PriceLimit} {text : String} (spells : upper.Spells "" text) :
    (limitOf noUpperLimit text).toNat = upper.upperWord := by
  have recognised : noUpperLimit = noLimit "" 2 := by decide +kernel
  rw [limitOf, recognised]
  cases upper with
  | price numeral =>
    obtain ⟨digits, other⟩ := spells
    rw [if_neg (other 2), string2UInt64MoneyInLi_wrapped digits, upperWord]
  | none zeros =>
    subst spells
    rw [upperWord, noLimit_money (.inl rfl)]
    by_cases two : zeros = 2
    · rw [if_pos (congrArg (noLimit "") two), if_pos two]
      rfl
    · rw [if_neg (fun same => two (noLimit_inj same)), if_neg two]
      decide +kernel

theorem lower_word {lower : PriceLimit} {text : String} (spells : lower.Spells "-" text) :
    (limitOf noLowerLimit text).toNat = lower.lowerWord := by
  have recognised : noLowerLimit = noLimit "-" 2 := by decide +kernel
  rw [limitOf, recognised]
  cases lower with
  | price numeral =>
    obtain ⟨digits, other⟩ := spells
    rw [if_neg (other 2), string2UInt64MoneyInLi_wrapped digits, lowerWord]
  | none zeros =>
    subst spells
    rw [lowerWord, noLimit_money (.inr rfl)]
    by_cases two : zeros = 2
    · rw [if_pos (congrArg (noLimit "-") two), if_pos two]
      rfl
    · rw [if_neg (fun same => two (noLimit_inj same)), if_neg two]
      decide +kernel

/-! The checks. -/

theorem accepts_iff (order : OrderMessage) (maxgain minfall : UInt64) :
    (MatchUtil.checkMaxGainAndMinFall order maxgain minfall).1 = 0 ↔
      maxgain.toNat = 0 ∧ minfall.toNat = 0 ∨
        minfall.toNat ≤ order.orderPrice.toNat ∧ order.orderPrice.toNat ≤ maxgain.toNat := by
  rw [MatchUtil.checkMaxGainAndMinFall]
  simp only [← UInt64.toNat_inj, UInt64.lt_iff_toNat_lt, gt_iff_lt, UInt64.toNat_zero]
  split
  next none => simp [none]
  next limits =>
    split
    next outside =>
      have inside : ¬ (minfall.toNat ≤ order.orderPrice.toNat ∧ order.orderPrice.toNat ≤ maxgain.toNat) := by omega
      simp [limits, inside]
    next within =>
      have inside : minfall.toNat ≤ order.orderPrice.toNat ∧ order.orderPrice.toNat ≤ maxgain.toNat := by omega
      simp [inside]

/-- Two intervals of words hold the same prices where their ends are the same, or both hold none. -/
theorem intervals_agree_iff {top low high least most : Nat} (highs : high ≤ top) (mosts : most ≤ top) (lows : low ≤ top) :
    (∀ price ≤ top, low ≤ price ∧ price ≤ high ↔ least ≤ price ∧ price ≤ most) ↔
      least = low ∧ most = high ∨ most < least ∧ high < low := by
  constructor
  · intro agree
    have first := agree low lows
    have last := agree high highs
    have start := agree most mosts
    have other := agree (min least top) (Nat.min_le_right _ _)
    omega
  · intro ends price fits
    omega

theorem everything_agree_iff {top least most : Nat} (mosts : most ≤ top) :
    (∀ price ≤ top, least ≤ price ∧ price ≤ most) ↔ least = 0 ∧ most = top := by
  constructor
  · intro all
    have first := all 0 (Nat.zero_le _)
    have last := all top (Nat.le_refl _)
    omega
  · intro ends price fits
    omega

/-! The decoded limits of a message. -/

/-- A message with both limits. -/
def Limited (parse : String → Document) (message : String) (lower upper : PriceLimit) : Prop :=
  ∃ jsonMessage upperText lowerText, parse message = .object jsonMessage ∧
    jsonMessage.lookup "PriceUpperLimit" = some (.text upperText) ∧ upper.Spells "" upperText ∧
    jsonMessage.lookup "PriceLowerLimit" = some (.text lowerText) ∧ lower.Spells "-" lowerText

theorem decoded_words {parse : String → Document} {message : String} {lower upper : PriceLimit}
    (limited : Limited parse message lower upper) {prior quot : QuotContent}
    (decoded : decodeJsonStr parse message prior = .ok quot) :
    quot.maxgain.toNat = upper.upperWord ∧ quot.minfall.toNat = lower.lowerWord := by
  obtain ⟨jsonMessage, upperText, lowerText, object, upperThere, uppers, lowerThere, lowers⟩ := limited
  have nonempty : message.isEmpty = false := by
    cases empty : message.isEmpty with
    | false => rfl
    | true => simp [decodeJsonStr, empty] at decoded
  rw [decode_eq jsonMessage parse nonempty object] at decoded
  cases read : reading jsonMessage with
  | error stop =>
    rw [read] at decoded
    cases decoded
  | ok content =>
    rw [read] at decoded
    obtain ⟨_, upperRead, lowerRead⟩ := reading_others jsonMessage read
    rw [textMember, upperThere] at upperRead
    rw [textMember, lowerThere] at lowerRead
    cases Except.ok.inj decoded
    simp only [filled, ← Except.ok.inj upperRead, ← Except.ok.inj lowerRead, Option.getD_some]
    exact ⟨upper_word uppers, lower_word lowers⟩

/-- Both checks of every order accept just the prices between the limits. -/
def Enforced (lower upper : PriceLimit) (quot : QuotContent) : Prop :=
  ∀ order : OrderMessage,
    ((PreTrade.checkMaxGainAndMinFall order quot.maxgain quot.minfall).1 = 0 ↔ Within lower upper order.orderPrice) ∧
    ((MatchUtil.checkMaxGainAndMinFall order quot.maxgain quot.minfall).1 = 0 ↔ Within lower upper order.orderPrice) ∧
    PreTrade.checkMaxGainAndMinFall order quot.maxgain quot.minfall =
      MatchUtil.checkMaxGainAndMinFall order quot.maxgain quot.minfall

/-- Two words of zero stand for no limits, and there are none; any others are the ends of the
prices that are left, or leave none as the limits do. -/
def Kept (lower upper : PriceLimit) : Prop :=
  if upper.upperWord = 0 ∧ lower.lowerWord = 0 then lower.lowest = 0 ∧ upper.highest = 2 ^ 64 - 1
  else lower.lowest = lower.lowerWord ∧ upper.highest = upper.upperWord ∨
    upper.highest < lower.lowest ∧ upper.upperWord < lower.lowerWord

theorem words_enforced_iff {lower upper : PriceLimit} {quot : QuotContent}
    (maxgain : quot.maxgain.toNat = upper.upperWord) (minfall : quot.minfall.toNat = lower.lowerWord) :
    Enforced lower upper quot ↔ Kept lower upper := by
  have most : upper.highest ≤ 2 ^ 64 - 1 := by
    cases upper with
    | none zeros => exact Nat.le_refl _
    | price numeral => exact Nat.min_le_right _ _
  have high := quot.maxgain.toNat_lt
  have low := quot.minfall.toNat_lt
  rw [maxgain] at high
  rw [minfall] at low
  have prices : Enforced lower upper quot ↔ ∀ price ≤ 2 ^ 64 - 1,
      (upper.upperWord = 0 ∧ lower.lowerWord = 0 ∨ lower.lowerWord ≤ price ∧ price ≤ upper.upperWord ↔
        lower.lowest ≤ price ∧ price ≤ upper.highest) := by
    simp only [Enforced, PreTrade.checkMaxGainAndMinFall, accepts_iff, within_iff, maxgain, minfall]
    constructor
    · intro enforced price fits
      have same := (enforced { orderPrice := UInt64.ofNat price }).1
      rwa [UInt64.toNat_ofNat_of_lt' (by show price < 2 ^ 64; omega)] at same
    · intro agree order
      have fits := order.orderPrice.toNat_lt
      have same := agree order.orderPrice.toNat (by omega)
      exact ⟨same, same, trivial⟩
  rw [prices, Kept]
  split
  next zeros => simp only [zeros, true_and, true_or, true_iff, everything_agree_iff most]
  next words =>
    rw [← intervals_agree_iff (Nat.le_sub_one_of_lt high) most (Nat.le_sub_one_of_lt low)]
    simp only [words, false_or]

/-- Two prices that fit are kept unless both are below a thousandth; the lower one has no
decimals behind its thousandths, or its thousandths are above the upper one's. -/
theorem kept_prices {lower upper : Numeral} (lowers : ⌊lower.value * 10 ^ 3⌋₊ < 2 ^ 64)
    (uppers : ⌊upper.value * 10 ^ 3⌋₊ < 2 ^ 64) : Kept (.price lower) (.price upper) ↔
      ¬ (⌊upper.value * 10 ^ 3⌋₊ = 0 ∧ ⌊lower.value * 10 ^ 3⌋₊ = 0) ∧
        (⌈lower.value * 10 ^ 3⌉₊ = ⌊lower.value * 10 ^ 3⌋₊ ∨ ⌊upper.value * 10 ^ 3⌋₊ < ⌊lower.value * 10 ^ 3⌋₊) := by
  have thousand : (1000 : ℚ) = 10 ^ 3 := by norm_num
  have above := Nat.floor_le_ceil (lower.value * 10 ^ 3)
  simp only [Kept, upperWord, lowerWord, lowest, highest, wrapped_of_fits lowers, wrapped_of_fits uppers, thousand]
  split
  next zeros =>
    rw [zeros.1]
    omega
  next words =>
    simp only [words, not_false_eq_true, true_and]
    omega

/-- What is accepted of the decoded quote is what the limits leave exactly where their words
keep them. -/
theorem limits_enforced_iff {parse : String → Document} {message : String} {lower upper : PriceLimit}
    (limited : Limited parse message lower upper) {prior quot : QuotContent}
    (decoded : decodeJsonStr parse message prior = .ok quot) : Enforced lower upper quot ↔ Kept lower upper := by
  obtain ⟨maxgain, minfall⟩ := decoded_words limited decoded
  exact words_enforced_iff maxgain minfall

/-- A price with four decimals, all of them zeros. -/
def whole (units : Nat) : Numeral := .fixed units 3 0 1

theorem limited_decoded {upper : PriceLimit} {text : String} (plain : Plain text) (spells : upper.Spells "" text) :
    ∃ message quot, Limited flatDocument message (.price (whole 9)) upper ∧
      decodeJsonStr flatDocument message emptied = .ok quot := by
  have some : ("PriceUpperLimit", text) :: unlimited ≠ [] := List.cons_ne_nil _ _
  have plains : ∀ member ∈ ("PriceUpperLimit", text) :: unlimited, Plain member.1 ∧ Plain member.2 :=
    List.forall_mem_cons.mpr ⟨⟨(by decide +kernel : Plain "PriceUpperLimit"), plain⟩, by decide +kernel⟩
  obtain ⟨message, nonempty, object⟩ : ∃ message : String, message.isEmpty = false ∧ flatDocument message =
      .object ((("PriceUpperLimit", text) :: unlimited).map fun member => (member.1, .text member.2)) := by
    refine ⟨_, ?_, flatDocument_flat _ some plains⟩
    rw [← Bool.not_eq_true, String.isEmpty_iff]
    intro empty
    simp [written] at empty
  have readable : Readable ((("PriceUpperLimit", text) :: unlimited).map fun member => (member.1, .text member.2)) := by
    refine ⟨?_, ?_, ?_, ?_⟩ <;> simp [unlimited, Textual, Monetary, IsCount, List.lookup_cons]
  obtain ⟨content, read⟩ := (reading_ok_iff _).mpr readable
  have lower : PriceLimit.Spells "-" (.price (whole 9)) "9.0000" := by
    refine ⟨.inl (by decide +kernel), ?_⟩
    intro zeros same
    have signed := congrArg (fun text => text.toList.head?) same
    simp [noLimit] at signed
  refine ⟨message, filled message emptied content, ?_, ?_⟩
  · exact ⟨_, text, "9.0000", object, by simp, spells, by simp [unlimited, List.lookup_cons], lower⟩
  · rw [decode_eq _ _ nonempty object, read]
    rfl

theorem limits_enforced_whole : ∃ message quot, Limited flatDocument message (.price (whole 9)) (.price (whole 11)) ∧
    decodeJsonStr flatDocument message emptied = .ok quot ∧
    (Enforced (.price (whole 9)) (.price (whole 11)) quot ↔ Kept (.price (whole 9)) (.price (whole 11))) := by
  have spells : PriceLimit.Spells "" (.price (whole 11)) "11.0000" := by
    refine ⟨.inl (by decide +kernel), ?_⟩
    intro zeros same
    have first := congrArg (fun text => text.toList.head?) same
    simp [noLimit] at first
  obtain ⟨message, quot, limited, decoded⟩ := limited_decoded (by decide +kernel) spells
  exact ⟨message, quot, limited, decoded, limits_enforced_iff limited decoded⟩

/-- Without an upper limit, but with a lower one, no price is accepted. -/
theorem one_limit_refuses : ¬ ∀ message lower upper quot, Limited flatDocument message lower upper →
    decodeJsonStr flatDocument message emptied = .ok quot → Enforced lower upper quot := by
  intro enforced
  have spells : PriceLimit.Spells "" (.none 2) "999999999.999900" := by
    show "999999999.999900" = noLimit "" 2
    decide +kernel
  obtain ⟨message, quot, limited, decoded⟩ := limited_decoded (by decide +kernel) spells
  obtain ⟨maxgain, minfall⟩ := decoded_words limited decoded
  have kept := (words_enforced_iff maxgain minfall).mp (enforced message _ _ quot limited decoded)
  have word : (PriceLimit.price (whole 9)).lowerWord = 9000 := by decide +kernel
  have nine : (PriceLimit.price (whole 9)).lowest ≤ 9000 := by
    rw [lowest, Nat.ceil_le, whole, Numeral.value_fixed (by decide) (by decide)]
    norm_num
  have none : (PriceLimit.none 2).upperWord = 0 := rfl
  rw [Kept, word, none, if_neg (by decide)] at kept
  simp only [highest] at kept
  omega

end Simutgw.Proofs.PriceLimits
