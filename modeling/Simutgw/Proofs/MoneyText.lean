import Mathlib.Tactic.IntervalCases
import Simutgw.Logic.Numeral
import Simutgw.Proofs.DecimalText

/-! Money amounts as text. An amount is a count of thousandths, and its text a decimal
numeral in units. -/

namespace Simutgw.Proofs.MoneyText
open SofString TgwStringUtil DecimalText Logic

/-! The reader. -/

theorem unsigned_numeral {numeral : Numeral} {text : List Char} (spells : numeral.Spells text) :
    text.dropWhile isSpace = text ∧ (∀ rest, text ≠ '-' :: rest) ∧ ∀ rest, text ≠ '+' :: rest := by
  have digits : ∀ char ∈ numeral.whole, char.isDigit := fun char member =>
    numeral.digits char (List.mem_append_left _ member)
  rcases spells with rfl | ⟨none, rfl⟩
  · obtain ⟨solid, minus, plus⟩ := digits_unsigned digits
    cases front : numeral.whole with
    | nil =>
      refine ⟨rfl, ?_, ?_⟩
      · intro rest same
        cases same
      · intro rest same
        cases same
    | cons head tail =>
      rw [front] at solid minus plus
      refine ⟨?_, ?_, ?_⟩
      · have kept : isSpace head = false := by
          rw [← Bool.not_eq_true]
          intro blank
          rw [List.dropWhile_cons, if_pos blank] at solid
          have shorter := (List.dropWhile_suffix (l := tail) isSpace).length_le
          rw [solid, List.length_cons] at shorter
          omega
        rw [List.cons_append, List.dropWhile_cons, kept, if_neg Bool.false_ne_true]
      · intro rest same
        cases same
        exact minus tail rfl
      · intro rest same
        cases same
        exact plus tail rfl
  · exact digits_unsigned digits

theorem splitOn_numeral {numeral : Numeral} {text : List Char} (spells : numeral.Spells text) :
    text.splitOn '.' = [numeral.whole, numeral.fraction] ∨
      numeral.fraction = [] ∧ text.splitOn '.' = [numeral.whole] := by
  have solid (part : List Char) (within : ∀ char ∈ part, char ∈ numeral.whole ++ numeral.fraction) : '.' ∉ part := by
    intro member
    exact absurd (numeral.digits '.' (within _ member)) (by decide)
  have before := solid numeral.whole fun _ => List.mem_append_left _
  rcases spells with rfl | ⟨none, rfl⟩
  · left
    rw [List.splitOn_append_cons_self_of_not_mem before,
      List.splitOn_eq_singleton (solid numeral.fraction fun _ => List.mem_append_right _)]
  · exact .inr ⟨none, List.splitOn_eq_singleton before⟩

theorem place_eq {segment : List Char} (digits : ∀ char ∈ segment, char.isDigit) (place : Nat) :
    (match segment[place]? with
      | none => 0
      | some char => UInt64.ofInt (strtoll [char])) =
    UInt64.ofNat (Nat.ofDigitChars 10 ((segment.drop place).take 1) 0) := by
  split
  next none =>
    rw [List.drop_eq_nil_of_le (List.getElem?_eq_none_iff.mp none)]
    rfl
  next char found =>
    have inside := (List.getElem?_eq_some_iff.mp found).choose
    have taken : (segment.drop place).take 1 = [char] := by
      rw [List.drop_eq_getElem_cons inside, (List.getElem?_eq_some_iff.mp found).choose_spec]
      rfl
    have digit : ∀ other ∈ [char], other.isDigit := by
      intro other member
      exact digits other (List.mem_of_mem_drop (List.mem_of_mem_take (taken ▸ member)))
    have small := ofDigitChars_lt digit
    rw [List.length_singleton] at small
    have word : ((Nat.ofDigitChars 10 [char] 0 : Int) % 2 ^ 64).toNat = Nat.ofDigitChars 10 [char] 0 := by omega
    rw [taken, strtoll_digits digit (by omega), UInt64.ofInt, word]

theorem thousandths_eq (segment : List Char) :
    Nat.ofDigitChars 10 ((segment ++ List.replicate 3 '0').take 3) 0 =
      Nat.ofDigitChars 10 ((segment.drop 0).take 1) 0 * 100 + Nat.ofDigitChars 10 ((segment.drop 1).take 1) 0 * 10 +
        Nat.ofDigitChars 10 ((segment.drop 2).take 1) 0 := by
  match segment with
  | [] => rfl
  | [one] => simp [Nat.ofDigitChars_cons]; omega
  | [one, two] => simp [Nat.ofDigitChars_cons]; omega
  | one :: two :: three :: rest => simp [Nat.ofDigitChars_cons]; omega

/-- The thousandths as the conversion has them: the units up to the greatest word, and their
thousandfold with the first three digits behind the point in 64 bits. -/
def wrapped (numeral : Numeral) : Nat :=
  (min (Nat.ofDigitChars 10 numeral.whole 0) (2 ^ 64 - 1) * 1000 +
    Nat.ofDigitChars 10 ((numeral.fraction ++ List.replicate 3 '0').take 3) 0) % 2 ^ 64

theorem string2UInt64MoneyInLi_wrapped {numeral : Numeral} {text : String} (spells : numeral.Spells text.toList) :
    (string2UInt64MoneyInLi text).toNat = wrapped numeral := by
  have wholes : ∀ char ∈ numeral.whole, char.isDigit := fun char member =>
    numeral.digits char (List.mem_append_left _ member)
  have fractions : ∀ char ∈ numeral.fraction, char.isDigit := fun char member =>
    numeral.digits char (List.mem_append_right _ member)
  rw [wrapped, thousandths_eq]
  have front := strtoull_of_digits wholes
  have places (place : Nat) : Nat.ofDigitChars 10 ((numeral.fraction.drop place).take 1) 0 < 10 := by
    have below := @ofDigitChars_lt ((numeral.fraction.drop place).take 1) fun char member =>
      fractions char (List.mem_of_mem_drop (List.mem_of_mem_take member))
    have length : ((numeral.fraction.drop place).take 1).length ≤ 1 := List.length_take_le _ _
    exact Nat.lt_of_lt_of_le below (Nat.pow_le_pow_right (by decide) length)
  have first := places 0
  have second := places 1
  have third := places 2
  rcases splitOn_numeral spells with split | ⟨none, split⟩
  · have read : string2UInt64MoneyInLi text = strtoull numeral.whole * 1000 +
        (UInt64.ofNat (Nat.ofDigitChars 10 ((numeral.fraction.drop 0).take 1) 0) * 100 +
          UInt64.ofNat (Nat.ofDigitChars 10 ((numeral.fraction.drop 1).take 1) 0) * 10 +
          UInt64.ofNat (Nat.ofDigitChars 10 ((numeral.fraction.drop 2).take 1) 0)) := by
      rewrite [← place_eq fractions 0, ← place_eq fractions 1, ← place_eq fractions 2, string2UInt64MoneyInLi, split]
      rfl
    simp only [read, UInt64.toNat_add, UInt64.toNat_mul, UInt64.toNat_ofNat', UInt64.toNat_ofNat]
    omega
  · have read : string2UInt64MoneyInLi text = strtoull numeral.whole * 1000 := by
      rewrite [string2UInt64MoneyInLi, split]
      rfl
    simp only [none, List.drop_nil, List.take_nil, Nat.ofDigitChars_nil]
    simp only [read, UInt64.toNat_mul, UInt64.toNat_ofNat]
    omega

theorem wrapped_of_fits {numeral : Numeral} (fits : ⌊numeral.value * 10 ^ 3⌋₊ < 2 ^ 64) :
    wrapped numeral = ⌊numeral.value * 10 ^ 3⌋₊ := by
  have three : ((numeral.fraction ++ List.replicate 3 '0').take 3).length = 3 := by
    simp
  rw [wrapped]
  rw [numeral.floor_value_mul, ofDigitChars_append_eq, three] at fits ⊢
  omega

theorem string2UInt64MoneyInLi_numeral {numeral : Numeral} {text : String} (spells : numeral.Spells text.toList)
    (fits : ⌊numeral.value * 10 ^ 3⌋₊ < 2 ^ 64) :
    (string2UInt64MoneyInLi text).toNat = ⌊numeral.value * 10 ^ 3⌋₊ := by
  rw [string2UInt64MoneyInLi_wrapped spells, wrapped_of_fits fits]

/-! What the reader reports. -/

/-- A non-negative decimal number whose thousandths fit a word of 64 bits. -/
def Amount (text : String) : Prop :=
  ∃ numeral : Numeral, numeral.Spells text.toList ∧ ⌊numeral.value * 10 ^ 3⌋₊ < 2 ^ 64

/-- Success is reported of such numbers only, and for their thousandths: a text that
spells none is an error. -/
def Checked (text : String) : Prop :=
  ∀ out, (string2UInt64MoneyInLiStrtoui64 text out).1 = 0 →
    ∃ numeral : Numeral, numeral.Spells text.toList ∧ ⌊numeral.value * 10 ^ 3⌋₊ < 2 ^ 64 ∧
      (string2UInt64MoneyInLiStrtoui64 text out).2.toNat = ⌊numeral.value * 10 ^ 3⌋₊

theorem reported_eq (text : String) (out : UInt64) :
    string2UInt64MoneyInLiStrtoui64 text out = (0, string2UInt64MoneyInLi text) := by
  rw [string2UInt64MoneyInLiStrtoui64]
  split
  next empty =>
    rw [String.isEmpty_iff.mp empty]
    rfl
  next =>
    split
    next none => exact absurd none (List.splitOn_ne_nil _ _)
    next => rfl

theorem checked_iff (text : String) : Checked text ↔ Amount text := by
  simp only [Checked, reported_eq, forall_const]
  constructor
  · intro ⟨numeral, spells, fits, _⟩
    exact ⟨numeral, spells, fits⟩
  · intro ⟨numeral, spells, fits⟩
    exact ⟨numeral, spells, fits, string2UInt64MoneyInLi_numeral spells fits⟩

/-- 2^64 thousandths and some more are read as 384 of them. -/
theorem overflow_unreported : ¬ Checked "18446744073709552" := by
  intro checked
  obtain ⟨numeral, spells, fits, _⟩ := checked 0 (by rw [reported_eq])
  rw [numeral.floor_value_mul, spells.parts.1, spells.parts.2] at fits
  exact absurd fits (by decide +kernel)

/-! What the printer writes. -/

theorem tenths_padded {after : UInt64} (fits : after.toNat < 10) : (itostr after).toList = padded 1 after.toNat := by
  rw [itostr_toList, padded, Nat.toDigits_of_lt_base fits]
  rfl

theorem hundredths_padded {after : UInt64} (fits : after.toNat < 100) :
    (if 10 ≤ after then "." ++ itostr after else ".0" ++ itostr after).toList = '.' :: padded 2 after.toNat := by
  simp only [UInt64.le_iff_toNat_le]
  split
  next two =>
    rw [String.toList_append, itostr_toList, @padded_of_bounds 2 2 _ (by decide) two fits]
    rfl
  next one =>
    rcases Nat.eq_zero_or_pos after.toNat with zero | some
    · rw [String.toList_append, itostr_toList, zero]
      rfl
    · rw [String.toList_append, itostr_toList, @padded_of_bounds 2 1 _ (by decide) some (Nat.lt_of_not_le one)]
      rfl

theorem thousandths_padded {li : UInt64} (fits : li.toNat < 1000) :
    (if 100 ≤ li then "." ++ itostr li else if 10 ≤ li then ".0" ++ itostr li else ".00" ++ itostr li).toList =
      '.' :: padded 3 li.toNat := by
  simp only [UInt64.le_iff_toNat_le]
  split
  next three =>
    rw [String.toList_append, itostr_toList, @padded_of_bounds 3 3 _ (by decide) three fits]
    rfl
  next fewer =>
    split
    next two =>
      rw [String.toList_append, itostr_toList, @padded_of_bounds 3 2 _ (by decide) two (Nat.lt_of_not_le fewer)]
      rfl
    next one =>
      rcases Nat.eq_zero_or_pos li.toNat with zero | some
      · rw [String.toList_append, itostr_toList, zero]
        rfl
      · rw [String.toList_append, itostr_toList, @padded_of_bounds 3 1 _ (by decide) some (Nat.lt_of_not_le one)]
        rfl

/-- The decimals an amount is printed with, and the zeros behind them. -/
def zerosBehind (decimalLen : Nat) : Nat :=
  match decimalLen with
  | 4 => 1
  | 6 => 3
  | _ => 0

def printed (moneyLi : UInt64) (decimalLen : Nat) : Numeral :=
  .fixed (moneyLi.toNat / 1000) (min decimalLen 3) (moneyLi.toNat % 1000 / 10 ^ (3 - min decimalLen 3))
    (zerosBehind decimalLen)

theorem iLiToStr_spells_nonzero {moneyLi : UInt64} {decimalLen : Nat} (least : 1 ≤ decimalLen) (most : decimalLen ≤ 6)
    (nonzero : moneyLi ≠ 0) : (printed moneyLi decimalLen).Spells (iLiToStr moneyLi decimalLen).toList := by
  left
  have units : (itostr (moneyLi / 1000)).toList = Nat.toDigits 10 (moneyLi.toNat / 1000) := by
    rw [itostr_toList, UInt64.toNat_div]
    rfl
  have li : (moneyLi % 1000).toNat = moneyLi.toNat % 1000 := by
    rw [UInt64.toNat_mod]
    rfl
  unfold iLiToStr
  rw [if_neg nonzero]
  simp only [String.toList_append, units, printed, Numeral.fixed]
  have first : (moneyLi % 1000 / 100).toNat = moneyLi.toNat % 1000 / 100 := by
    rw [UInt64.toNat_div, li]
    rfl
  have firsts : (moneyLi % 1000 / 10).toNat = moneyLi.toNat % 1000 / 10 := by
    rw [UInt64.toNat_div, li]
    rfl
  have tenths : ("." ++ itostr (moneyLi % 1000 / 100)).toList = '.' :: padded 1 (moneyLi.toNat % 1000 / 100) := by
    rw [String.toList_append, tenths_padded (by omega), first]
    rfl
  have hundredths := @hundredths_padded (moneyLi % 1000 / 10) (by omega)
  have thousandths := @thousandths_padded (moneyLi % 1000) (by omega)
  rw [firsts] at hundredths
  rw [li, ← Nat.div_one (moneyLi.toNat % 1000)] at thousandths
  rw [List.append_assoc]
  congr 1
  interval_cases decimalLen
  · exact congrArg (· ++ []) tenths
  · exact congrArg (· ++ []) hundredths
  · exact congrArg (· ++ []) thousandths
  · exact congrArg (· ++ ['0']) thousandths
  · exact congrArg (· ++ []) thousandths
  · exact congrArg (· ++ ['0', '0', '0']) thousandths

/-- Nothing is printed with one decimal or five of them as with none. -/
theorem iLiToStr_spells {moneyLi : UInt64} {decimalLen : Nat} (least : 1 ≤ decimalLen) (most : decimalLen ≤ 6)
    (known : moneyLi = 0 → decimalLen ≠ 1 ∧ decimalLen ≠ 5) :
    (printed moneyLi decimalLen).Spells (iLiToStr moneyLi decimalLen).toList := by
  by_cases zero : moneyLi = 0
  · obtain ⟨tenths, five⟩ := known zero
    subst zero
    left
    interval_cases decimalLen
    · exact absurd rfl tenths
    · decide
    · decide
    · decide
    · exact absurd rfl five
    · decide
  · exact iLiToStr_spells_nonzero least most zero

theorem part_lt (amount : Nat) {places : Nat} (least : 1 ≤ places) :
    amount % 1000 / 10 ^ (3 - min places 3) < 10 ^ min places 3 := by
  have three : min places 3 + (3 - min places 3) = 3 := by omega
  rw [Nat.div_lt_iff_lt_mul (Nat.pow_pos (by decide)), ← Nat.pow_add, three]
  omega

theorem length_printed (moneyLi : UInt64) {decimalLen : Nat} (least : 1 ≤ decimalLen) :
    (printed moneyLi decimalLen).fraction.length = min decimalLen 3 + zerosBehind decimalLen :=
  Numeral.length_fraction_fixed (by omega) (part_lt moneyLi.toNat least)

/-- The first three digits behind the point are those of the amount, shifted and cut, and
the others are zeros. -/
theorem shifted_cut (amount : Nat) {places : Nat} (least : 1 ≤ places) :
    amount * 10 ^ places / 1000 = (amount / 1000 * 10 ^ min places 3 + amount % 1000 / 10 ^ (3 - min places 3)) *
      10 ^ (places - min places 3) := by
  rcases Nat.lt_or_ge places 3 with fewer | more
  · interval_cases places <;> simp <;> omega
  · obtain ⟨zeros, rfl⟩ := Nat.exists_eq_add_of_le more
    have thousand : 10 ^ (3 + zeros) = 10 ^ zeros * 1000 := by
      rw [Nat.pow_add, Nat.mul_comm]
    have whole : amount / 1000 * 10 ^ 3 + amount % 1000 = amount := by omega
    rw [Nat.min_eq_right more, Nat.sub_self, Nat.pow_zero, Nat.div_one, Nat.add_sub_cancel_left, thousand,
      ← Nat.mul_assoc, Nat.mul_div_cancel _ (by decide), whole]

theorem value_cut (amount zeros : Nat) {places : Nat} (least : 1 ≤ places) :
    (Numeral.fixed (amount / 1000) (min places 3) (amount % 1000 / 10 ^ (3 - min places 3)) zeros).value =
      truncated places (amount / 1000) := by
  have cut := truncated_div places amount 1000
  have shown := @Numeral.value_fixed (amount / 1000) _ _ zeros (by omega) (part_lt amount least)
  have front : (10 : ℚ) ^ min places 3 ≠ 0 := pow_ne_zero _ (by decide)
  have behind : (10 : ℚ) ^ (places - min places 3) ≠ 0 := pow_ne_zero _ (by decide)
  have all : (10 : ℚ) ^ places = 10 ^ min places 3 * 10 ^ (places - min places 3) := by
    rw [← pow_add, Nat.add_sub_cancel' (Nat.min_le_left ..)]
  rw [shifted_cut _ least, all] at cut
  rw [shown]
  push_cast at cut ⊢
  rw [cut]
  field_simp

theorem value_printed (moneyLi : UInt64) {decimalLen : Nat} (least : 1 ≤ decimalLen) :
    (printed moneyLi decimalLen).value = truncated decimalLen (moneyLi.toNat / 1000) :=
  value_cut moneyLi.toNat (zerosBehind decimalLen) least

theorem value_mul_printed (moneyLi : UInt64) {decimalLen : Nat} (three : 3 ≤ decimalLen) :
    ⌊(printed moneyLi decimalLen).value * 10 ^ 3⌋₊ = moneyLi.toNat := by
  have least : 1 ≤ decimalLen := by omega
  have shown := @Numeral.value_fixed (moneyLi.toNat / 1000) _ _ (zerosBehind decimalLen)
    (by omega) (part_lt moneyLi.toNat least)
  rw [printed, shown, Nat.min_eq_right three, Nat.sub_self, pow_zero, Nat.div_one]
  have whole : ((moneyLi.toNat / 1000 : Nat) + (moneyLi.toNat % 1000 : Nat) / 10 ^ 3 : ℚ) * 10 ^ 3 =
      (moneyLi.toNat / 1000 * 1000 + moneyLi.toNat % 1000 : Nat) := by
    push_cast
    ring
  rw [whole, Nat.floor_natCast, Nat.div_add_mod']

/-- What is printed is the amount in so many decimals, and with three or more it is read
back as it was. -/
def Faithful (moneyLi : UInt64) (decimalLen : Nat) : Prop :=
  (∃ numeral : Numeral, numeral.Spells (iLiToStr moneyLi decimalLen).toList ∧
    numeral.fraction.length = decimalLen ∧ numeral.value = truncated decimalLen (moneyLi.toNat / 1000)) ∧
  (3 ≤ decimalLen → ∀ out, string2UInt64MoneyInLiStrtoui64 (iLiToStr moneyLi decimalLen) out = (0, moneyLi))

theorem faithful_iff (moneyLi : UInt64) {decimalLen : Nat} (least : 1 ≤ decimalLen) (most : decimalLen ≤ 6) :
    Faithful moneyLi decimalLen ↔ decimalLen ≠ 5 ∧ (decimalLen = 1 → moneyLi ≠ 0) := by
  constructor
  · intro ⟨⟨numeral, spells, length, _⟩, _⟩
    have pointless (zero : iLiToStr moneyLi decimalLen = "0") : False := by
      rw [zero] at spells
      have none := congrArg List.length spells.parts.2
      rw [length] at none
      exact absurd (none.trans rfl) (by omega : decimalLen ≠ 0)
    refine ⟨fun five => ?_, fun one zero => ?_⟩
    · subst five
      by_cases zero : moneyLi = 0
      · exact pointless (by rw [zero]; rfl)
      · rw [spells.unique (iLiToStr_spells_nonzero least most zero), length_printed moneyLi least] at length
        exact absurd length (by decide)
    · exact pointless (by rw [one, zero]; rfl)
  · intro ⟨five, one⟩
    have spells := @iLiToStr_spells moneyLi decimalLen least most fun zero => ⟨fun same => one same zero, five⟩
    refine ⟨⟨printed moneyLi decimalLen, spells, ?_, value_printed moneyLi least⟩, fun three out => ?_⟩
    · rw [length_printed moneyLi least]
      interval_cases decimalLen <;> first | rfl | exact absurd rfl five
    · have same := value_mul_printed moneyLi three
      have read := string2UInt64MoneyInLi_numeral spells (by rw [same]; exact moneyLi.toNat_lt)
      rw [reported_eq, UInt64.toNat_inj.mp (read.trans same)]

theorem faithful_at_four : Faithful 12345 4 ↔ 4 ≠ 5 ∧ (4 = 1 → (12345 : UInt64) ≠ 0) :=
  faithful_iff 12345 (by decide) (by decide)

/-- Five decimals are asked for, and three written. -/
theorem five_decimals_cut : ¬ Faithful 1500 5 := by
  intro faithful
  obtain ⟨⟨numeral, spells, length, _⟩, _⟩ := faithful
  rw [spells.unique (iLiToStr_spells_nonzero (by decide) (by decide) (by decide)),
    length_printed 1500 (by decide)] at length
  exact absurd length (by decide)

end Simutgw.Proofs.MoneyText
