import Simutgw.TgwStringUtilDouble
import Simutgw.Logic.Numeral
import Simutgw.Proofs.PrintedWords

/-! Prices worked out in doubles and printed. The decimals are converted to a word and
printed as one, so zeros in front of them are lost. -/

namespace Simutgw.Proofs.DoubleText
open SofString TgwStringUtil PrintedWords Logic

theorem toInt64_of_nonneg {x : ℚ} (nonneg : 0 ≤ x) :
    toInt64 x = if ⌊x⌋₊ < 2 ^ 63 then some (Int64.ofNat ⌊x⌋₊) else none := by
  have whole : ⌊x⌋ = (⌊x⌋₊ : Int) := (Int.natCast_floor_eq_floor nonneg).symm
  rw [toInt64, if_pos nonneg, whole]
  split
  next inside =>
    rw [if_pos (by omega), Int64.ofInt_eq_ofNat]
  next outside => rw [if_neg (by omega)]

theorem itostrInt64_ofNat {value : Nat} (fits : value < 2 ^ 63) :
    itostrInt64 (Int64.ofNat value) "" = some (String.ofList (Nat.toDigits 10 value)) := by
  rw [itostrInt64_eq, Int64.toInt_ofNat_of_lt fits, decimal, if_neg (by omega), Int.natAbs_natCast]
  rfl

/-- The decimals the switch goes by. -/
def shown (decimalLen : Nat) : Nat :=
  match decimalLen with
  | 1 => 1
  | 2 => 2
  | _ => 3

/-- The number with the decimals shown as a word. -/
def scaled (x : ℚ) (decimalLen : Nat) : Nat := ⌊x * 10 ^ shown decimalLen⌋₊

/-- These decimals alone. -/
def decimals (x : ℚ) (decimalLen : Nat) : Nat := scaled x decimalLen % 10 ^ shown decimalLen

/-- The digits they take. -/
def width (x : ℚ) (decimalLen : Nat) : Nat :=
  if decimals x decimalLen = 0 then shown decimalLen else (Nat.toDigits 10 (decimals x decimalLen)).length

theorem afterPoint_eq {x : ℚ} (nonneg : 0 ≤ x) {scale : Int64} {places : Nat} (power : scale.toInt = 10 ^ places)
    (fits : ⌊x * 10 ^ places⌋₊ < 2 ^ 63) (zeros : String) :
    afterPoint x scale zeros =
      if ⌊x * 10 ^ places⌋₊ % 10 ^ places = 0 then some zeros
      else some ("." ++ String.ofList (Nat.toDigits 10 (⌊x * 10 ^ places⌋₊ % 10 ^ places))) := by
  have product : x * scale.toInt = x * 10 ^ places := by
    rw [power]
    push_cast
    rfl
  have rest : Int64.ofNat ⌊x * 10 ^ places⌋₊ % scale = Int64.ofNat (⌊x * 10 ^ places⌋₊ % 10 ^ places) := by
    apply Int64.toInt_inj.mp
    have small := Nat.mod_le ⌊x * 10 ^ places⌋₊ (10 ^ places)
    rw [Int64.toInt_mod, Int64.toInt_ofNat_of_lt fits, Int64.toInt_ofNat_of_lt (by omega), power,
      Int.tmod_eq_emod_of_nonneg (by omega)]
    push_cast
    rfl
  have small := Nat.mod_le ⌊x * 10 ^ places⌋₊ (10 ^ places)
  have zero : 0 = Int64.ofNat (⌊x * 10 ^ places⌋₊ % 10 ^ places) ↔ ⌊x * 10 ^ places⌋₊ % 10 ^ places = 0 := by
    rw [← Int64.toInt_inj, Int64.toInt_ofNat_of_lt (by omega), Int64.toInt_zero]
    omega
  rw [afterPoint, product, toInt64_of_nonneg (by positivity), if_pos fits]
  have printed := itostrInt64_ofNat (Nat.lt_of_le_of_lt small fits)
  simp only [Option.bind_eq_bind, Option.bind_some, rest, zero, printed]
  rfl

def scaleOf (decimalLen : Nat) : Int64 :=
  match decimalLen with
  | 1 => 10
  | 2 => 100
  | _ => 1000

def zerosOf (decimalLen : Nat) : String :=
  match decimalLen with
  | 1 => ".0"
  | 2 => ".00"
  | _ => ".000"

theorem toInt_scaleOf (decimalLen : Nat) : (scaleOf decimalLen).toInt = 10 ^ shown decimalLen := by
  unfold scaleOf shown
  split <;> rfl

theorem toList_zerosOf (decimalLen : Nat) : (zerosOf decimalLen).toList = '.' :: padded (shown decimalLen) 0 := by
  unfold zerosOf shown
  split <;> decide

theorem shown_pos (decimalLen : Nat) : 0 < shown decimalLen := by
  unfold shown
  split <;> decide

/-- The cases of the switch differ in scale and zeros only. -/
theorem doubleToString_eq (x : ℚ) (decimalLen : Nat) : doubleToString x decimalLen = (do
    let strBeforePoint ← itostrInt64 (← toInt64 x) ""
    return strBeforePoint ++ (← afterPoint x (scaleOf decimalLen) (zerosOf decimalLen))) := by
  match decimalLen with
  | 0 => rfl
  | 1 => rfl
  | 2 => rfl
  | 3 => rfl
  | _ + 4 => rfl

theorem doubleToString_none {x : ℚ} (nonneg : 0 ≤ x) {decimalLen : Nat} (large : 2 ^ 63 ≤ scaled x decimalLen) :
    doubleToString x decimalLen = none := by
  have nothing : afterPoint x (scaleOf decimalLen) (zerosOf decimalLen) = none := by
    have product : x * (scaleOf decimalLen).toInt = x * 10 ^ shown decimalLen := by
      rw [toInt_scaleOf]
      push_cast
      rfl
    rw [scaled] at large
    rw [afterPoint, product, toInt64_of_nonneg (by positivity), if_neg (Nat.not_lt.mpr large)]
    rfl
  rw [doubleToString_eq, nothing]
  simp

theorem doubleToString_some {x : ℚ} (nonneg : 0 ≤ x) {decimalLen : Nat} (fits : scaled x decimalLen < 2 ^ 63) :
    ∃ text, doubleToString x decimalLen = some text ∧ text.toList = Nat.toDigits 10 ⌊x⌋₊ ++
      '.' :: padded (width x decimalLen) (decimals x decimalLen) := by
  have within : ⌊x⌋₊ < 2 ^ 63 := by
    refine Nat.lt_of_le_of_lt (Nat.floor_le_floor ?_) fits
    exact le_mul_of_one_le_right nonneg (one_le_pow₀ (by decide))
  have before : toInt64 x = some (Int64.ofNat ⌊x⌋₊) := by rw [toInt64_of_nonneg nonneg, if_pos within]
  have after := afterPoint_eq nonneg (toInt_scaleOf decimalLen) fits (zerosOf decimalLen)
  rw [doubleToString_eq, after]
  simp only [before, Option.bind_eq_bind, Option.bind_some, itostrInt64_ofNat within]
  split
  next zero =>
    refine ⟨_, rfl, ?_⟩
    rw [width, decimals, scaled, if_pos zero, zero, String.toList_append, String.toList_ofList, toList_zerosOf]
  next nonzero =>
    refine ⟨_, rfl, ?_⟩
    rw [width, decimals, scaled, if_neg nonzero, padded]
    simp

/-! What the text denotes. -/

theorem width_pos (x : ℚ) (decimalLen : Nat) : 0 < width x decimalLen := by
  rw [width]
  split
  next => exact shown_pos decimalLen
  next => exact Nat.length_toDigits_pos

theorem decimals_lt (x : ℚ) (decimalLen : Nat) : decimals x decimalLen < 10 ^ width x decimalLen := by
  have some := width_pos x decimalLen
  rw [width] at some ⊢
  split
  next zero =>
    rw [zero]
    exact Nat.pow_pos (by decide)
  next nonzero =>
    rw [if_neg nonzero] at some
    exact (Nat.length_toDigits_le_iff (by decide) some).mp (Nat.le_refl _)

def written (x : ℚ) (decimalLen : Nat) : Numeral := .fixed ⌊x⌋₊ (width x decimalLen) (decimals x decimalLen) 0

theorem value_written (x : ℚ) (decimalLen : Nat) :
    (written x decimalLen).value = ⌊x⌋₊ + decimals x decimalLen / 10 ^ width x decimalLen :=
  Numeral.value_fixed (width_pos x decimalLen) (decimals_lt x decimalLen)

theorem scaled_eq (x : ℚ) (decimalLen : Nat) :
    scaled x decimalLen = ⌊x⌋₊ * 10 ^ shown decimalLen + decimals x decimalLen := by
  have whole : ⌊x⌋₊ = scaled x decimalLen / 10 ^ shown decimalLen := by
    have back : x = x * 10 ^ shown decimalLen / (10 ^ shown decimalLen : Nat) := by
      push_cast
      rw [mul_div_cancel_right₀ _ (by positivity)]
    rw [scaled, ← Nat.floor_div_natCast, ← back]
  rw [decimals, whole, Nat.div_add_mod']

/-- The number denoted, cut or rounded to the decimals asked for. -/
def Denotes (x : ℚ) (decimalLen : Nat) : Prop :=
  ∃ text, doubleToString x decimalLen = some text ∧ ∃ numeral : Numeral, numeral.Spells text.toList ∧
    (numeral.value = truncated decimalLen x ∨ numeral.value = rounded decimalLen x)

/-- The scaled number fits a word, the decimals shown are those asked for, and they are
all zero or the first of them is not. -/
def Plain (x : ℚ) (decimalLen : Nat) : Prop :=
  scaled x decimalLen < 2 ^ 63 ∧ truncated decimalLen x = truncated (shown decimalLen) x ∧
    (decimals x decimalLen = 0 ∨ 10 ^ (shown decimalLen - 1) ≤ decimals x decimalLen)

theorem denotes_iff_value {x : ℚ} (nonneg : 0 ≤ x) (decimalLen : Nat) : Denotes x decimalLen ↔
    scaled x decimalLen < 2 ^ 63 ∧ ((written x decimalLen).value = truncated decimalLen x ∨
      (written x decimalLen).value = rounded decimalLen x) := by
  have spelled (text : String) (shape : text.toList = Nat.toDigits 10 ⌊x⌋₊ ++
      '.' :: padded (width x decimalLen) (decimals x decimalLen)) : (written x decimalLen).Spells text.toList := by
    left
    rw [shape]
    simp [written, Numeral.fixed]
  constructor
  · intro denotes
    obtain ⟨text, converted, numeral, spells, close⟩ := denotes
    rcases Nat.lt_or_ge (scaled x decimalLen) (2 ^ 63) with fits | large
    · obtain ⟨other, same, shape⟩ := doubleToString_some nonneg fits
      rw [same, Option.some.injEq] at converted
      subst converted
      rw [spells.unique (spelled _ shape)] at close
      exact ⟨fits, close⟩
    · rw [doubleToString_none nonneg large] at converted
      cases converted
  · intro value
    obtain ⟨fits, close⟩ := value
    obtain ⟨text, converted, shape⟩ := doubleToString_some nonneg fits
    exact ⟨text, converted, _, spelled text shape, close⟩

/-- Decimals without a lost zero are the number cut after them. -/
theorem value_of_plain {x : ℚ} (nonneg : 0 ≤ x) {decimalLen : Nat}
    (full : decimals x decimalLen = 0 ∨ 10 ^ (shown decimalLen - 1) ≤ decimals x decimalLen) :
    (written x decimalLen).value = truncated (shown decimalLen) x := by
  have full_width : width x decimalLen = shown decimalLen := by
    rw [width]
    split
    next => rfl
    next nonzero =>
      exact length_toDigits_of_bounds (shown_pos decimalLen) (full.resolve_left nonzero)
        (Nat.mod_lt _ (Nat.pow_pos (by decide)))
  have parts := scaled_eq x decimalLen
  rw [scaled] at parts
  rw [value_written, full_width, truncated_of_nonneg nonneg, parts]
  push_cast
  field_simp

/-- A lost zero makes the decimals ten times as large at least. -/
theorem value_of_lost {x : ℚ} {decimalLen : Nat} (some : decimals x decimalLen ≠ 0)
    (lost : decimals x decimalLen < 10 ^ (shown decimalLen - 1)) :
    8 < ((written x decimalLen).value - x) * 10 ^ shown decimalLen := by
  have several : 0 < shown decimalLen - 1 := by
    rcases Nat.eq_zero_or_pos (shown decimalLen - 1) with single | several
    · rw [single] at lost
      omega
    · exact several
  have narrow : width x decimalLen ≤ shown decimalLen - 1 := by
    rw [width, if_neg some]
    exact (Nat.length_toDigits_le_iff (by decide) several).mpr lost
  have larger : (10 * 10 ^ width x decimalLen : ℚ) ≤ 10 ^ shown decimalLen := by
    rw [← pow_succ']
    exact pow_le_pow_right₀ (by decide) (by omega)
  have moved : (10 * decimals x decimalLen : ℚ) ≤
      decimals x decimalLen / 10 ^ width x decimalLen * 10 ^ shown decimalLen := by
    rw [div_mul_eq_mul_div, le_div_iff₀ (by positivity)]
    exact (mul_right_comm _ _ _).trans_le (by nlinarith [(Nat.cast_nonneg _ : (0 : ℚ) ≤ decimals x decimalLen)])
  have above : x * 10 ^ shown decimalLen < ⌊x⌋₊ * 10 ^ shown decimalLen + decimals x decimalLen + 1 := by
    have next := Nat.lt_floor_add_one (x * 10 ^ shown decimalLen)
    rw [show ⌊x * 10 ^ shown decimalLen⌋₊ = _ from scaled_eq x decimalLen] at next
    push_cast at next
    exact next
  have one : (1 : ℚ) ≤ decimals x decimalLen := by exact_mod_cast Nat.one_le_iff_ne_zero.mpr some
  rw [value_written, sub_mul, add_mul]
  linarith

theorem shown_le {decimalLen : Nat} (some : decimalLen ≠ 0) : shown decimalLen ≤ decimalLen := by
  match decimalLen with
  | 0 => exact absurd rfl some
  | 1 => decide
  | 2 => decide
  | 3 => decide
  | _ + 4 => exact Nat.le_add_left 3 _

theorem value_ne_round {x : ℚ} {decimalLen : Nat} (some : decimals x decimalLen ≠ 0) (whole : Int) :
    (written x decimalLen).value ≠ whole := by
  rw [value_written]
  intro same
  have small := decimals_lt x decimalLen
  have parts : (decimals x decimalLen : Int) = (whole - ⌊x⌋₊) * (10 ^ width x decimalLen : Nat) := by
    have scaled : (decimals x decimalLen : ℚ) = (whole - ⌊x⌋₊) * 10 ^ width x decimalLen := by
      rw [← same, add_sub_cancel_left, div_mul_cancel₀ _ (by positivity)]
    exact_mod_cast scaled
  rcases le_or_gt (whole - (⌊x⌋₊ : Int)) 0 with none | one
  · have negative := Int.mul_nonpos_of_nonpos_of_nonneg none (Int.natCast_nonneg (10 ^ width x decimalLen))
    omega
  · have large := Int.mul_le_mul_of_nonneg_right (Int.add_one_le_iff.mpr one)
      (Int.natCast_nonneg (10 ^ width x decimalLen))
    omega

theorem denotes_iff {x : ℚ} (nonneg : 0 ≤ x) (decimalLen : Nat) : Denotes x decimalLen ↔ Plain x decimalLen := by
  rw [denotes_iff_value nonneg, Plain]
  apply and_congr_right
  intro fits
  by_cases full : decimals x decimalLen = 0 ∨ 10 ^ (shown decimalLen - 1) ≤ decimals x decimalLen
  · have value := value_of_plain nonneg full
    rw [value]
    constructor
    · rintro (cut | near)
      · exact ⟨cut.symm, full⟩
      · have below := near ▸ truncated_le (shown decimalLen) x
        exact ⟨(near.trans (rounded_eq_truncated below)).symm, full⟩
    · intro ⟨cut, _⟩
      exact .inl cut.symm
  · obtain ⟨some, lost⟩ := not_or.mp full
    have far := value_of_lost some (Nat.lt_of_not_le lost)
    have scale : (0 : ℚ) < 10 ^ shown decimalLen := by positivity
    refine ⟨fun close => absurd close ?_, fun plain => absurd plain.2 full⟩
    rintro (cut | near)
    · have below := truncated_le decimalLen x
      rw [← cut] at below
      nlinarith
    · by_cases none : decimalLen = 0
      · subst none
        apply value_ne_round some (round (x * 10 ^ 0))
        rw [near, rounded, pow_zero, div_one]
      · have close := rounded_sub_le decimalLen x
        have finer : (10 : ℚ) ^ shown decimalLen ≤ 10 ^ decimalLen := pow_le_pow_right₀ (by decide) (shown_le none)
        rw [← near] at close
        have apart : 0 < (written x decimalLen).value - x := by
          by_contra below
          nlinarith
        nlinarith

theorem denotes_three_halves : Denotes (3 / 2) 2 ↔ Plain (3 / 2) 2 := denotes_iff (by norm_num) 2

/-- One and a sixteenth, in two decimals, is written as one and six tenths. -/
theorem leading_zero_lost : ¬ Denotes (17 / 16) 2 := by
  intro ⟨text, converted, numeral, spells, close⟩
  rw [show doubleToString (17 / 16) 2 = some "1.6" by decide +kernel, Option.some.injEq] at converted
  subst converted
  rw [Numeral.value, spells.parts.1, spells.parts.2] at close
  exact absurd close (by decide +kernel)

end Simutgw.Proofs.DoubleText
