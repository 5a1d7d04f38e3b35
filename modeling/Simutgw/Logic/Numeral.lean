import Mathlib.Data.Rat.Floor
import Mathlib.Algebra.Order.Floor.Semifield
import Mathlib.Data.List.TakeWhile
import Mathlib.Tactic.FieldSimp
import Mathlib.Tactic.Positivity
import Mathlib.Tactic.Linarith
import Mathlib.Algebra.Order.Round
import Simutgw.Logic.Digits

/-! Decimal numerals and the rational numbers they denote. -/

namespace Simutgw.Logic

/-- Digits on both sides of a point, and at least one of them. -/
@[ext] structure Numeral where
  whole : List Char
  fraction : List Char
  digits : ∀ char ∈ whole ++ fraction, char.isDigit
  written : whole ++ fraction ≠ []

/-- The number with its decimals beyond so many places dropped. -/
def truncated (places : Nat) (x : ℚ) : ℚ := ⌊x * 10 ^ places⌋ / 10 ^ places

/-- The decimal of so many places closest to the number, the greater of two. -/
def rounded (places : Nat) (x : ℚ) : ℚ := round (x * 10 ^ places) / 10 ^ places

theorem truncated_le (places : Nat) (x : ℚ) : truncated places x ≤ x := by
  rw [truncated, div_le_iff₀ (by positivity)]
  exact Int.floor_le _

theorem truncated_of_nonneg {x : ℚ} (nonneg : 0 ≤ x) (places : Nat) :
    truncated places x = (⌊x * 10 ^ places⌋₊ : Nat) / 10 ^ places := by
  rw [truncated, ← Int.natCast_floor_eq_floor (by positivity)]
  rfl

/-- Rounding down drops the same decimals. -/
theorem rounded_eq_truncated {places : Nat} {x : ℚ} (below : rounded places x ≤ x) :
    rounded places x = truncated places x := by
  rw [rounded, div_le_iff₀ (by positivity)] at below
  have least : ⌊x * 10 ^ places⌋ ≤ round (x * 10 ^ places) := by
    rw [round_eq]
    exact Int.floor_le_floor (by linarith)
  have most : round (x * 10 ^ places) ≤ ⌊x * 10 ^ places⌋ := Int.le_floor.mpr below
  rw [rounded, truncated, le_antisymm most least]

theorem rounded_sub_le (places : Nat) (x : ℚ) : (rounded places x - x) * 10 ^ places ≤ 1 / 2 := by
  have close := abs_sub_round (x * 10 ^ places)
  rw [abs_le] at close
  rw [rounded, sub_mul, div_mul_cancel₀ _ (by positivity)]
  linarith

theorem truncated_div (places amount unit : Nat) :
    truncated places (amount / unit) = (amount * 10 ^ places / unit : Nat) / 10 ^ places := by
  have scaled : (amount / unit * 10 ^ places : ℚ) = (amount * 10 ^ places : Nat) / (unit : Nat) := by
    push_cast
    ring
  rw [truncated, scaled, ← Int.natCast_floor_eq_floor (by positivity), Nat.floor_div_eq_div]
  rfl

namespace Numeral

/-- The point may be left out where nothing stands behind it. -/
def Spells (numeral : Numeral) (text : List Char) : Prop :=
  text = numeral.whole ++ '.' :: numeral.fraction ∨ numeral.fraction = [] ∧ text = numeral.whole

def value (numeral : Numeral) : ℚ :=
  Nat.ofDigitChars 10 numeral.whole 0 + Nat.ofDigitChars 10 numeral.fraction 0 / 10 ^ numeral.fraction.length

variable (numeral : Numeral)

theorem value_eq :
    numeral.value = Nat.ofDigitChars 10 (numeral.whole ++ numeral.fraction) 0 / (10 ^ numeral.fraction.length : Nat) := by
  have scale : (10 : ℚ) ^ numeral.fraction.length ≠ 0 := pow_ne_zero _ (by decide)
  rw [value, ofDigitChars_append_eq]
  push_cast
  field_simp

/-- Shifted to the left by some places and cut at the point: the digits up to there,
with zeros where the numeral has no more. -/
theorem floor_value_mul (places : Nat) : ⌊numeral.value * 10 ^ places⌋₊ =
    Nat.ofDigitChars 10 (numeral.whole ++ (numeral.fraction ++ List.replicate places '0').take places) 0 := by
  have zero : '0'.isDigit := by decide
  have rest : ((numeral.fraction ++ List.replicate places '0').drop places).length = numeral.fraction.length := by
    rw [List.length_drop, List.length_append, List.length_replicate]
    omega
  have digits : ∀ char ∈ (numeral.fraction ++ List.replicate places '0').drop places, char.isDigit := by
    intro char member
    rcases List.mem_append.mp (List.mem_of_mem_drop member) with behind | filled
    · exact numeral.digits char (List.mem_append_right _ behind)
    · rwa [List.eq_of_mem_replicate filled]
  have shifted := ofDigitChars_append_div
    (numeral.whole ++ (numeral.fraction ++ List.replicate places '0').take places) digits
  rw [rest, List.append_assoc, List.take_append_drop, ← List.append_assoc, ofDigitChars_append_eq,
    Nat.ofDigitChars_replicate_zero, List.length_replicate, Nat.mul_zero, Nat.add_zero] at shifted
  rw [← shifted, ← Nat.floor_div_eq_div (K := ℚ), value_eq]
  congr 1
  push_cast
  ring

theorem Spells.parts {numeral : Numeral} {text : List Char} (spells : numeral.Spells text) :
    numeral.whole = text.takeWhile (· != '.') ∧ numeral.fraction = (text.dropWhile (· != '.')).drop 1 := by
  have solid : ∀ char ∈ numeral.whole, (char != '.') = true := by
    intro char member
    have digit := numeral.digits char (List.mem_append_left _ member)
    rw [bne_iff_ne]
    rintro rfl
    exact absurd digit (by decide)
  rcases spells with rfl | ⟨none, rfl⟩
  · rw [List.takeWhile_append_of_pos solid, List.dropWhile_append_of_pos solid]
    simp
  · rw [List.takeWhile_eq_self_iff.mpr solid, List.dropWhile_eq_nil_iff.mpr solid, none]
    exact ⟨rfl, rfl⟩

theorem Spells.unique {one two : Numeral} {text : List Char} (first : one.Spells text) (second : two.Spells text) :
    one = two :=
  Numeral.ext (first.parts.1.trans second.parts.1.symm) (first.parts.2.trans second.parts.2.symm)

/-- So many units, and a part of one in so many decimals with more zeros behind. -/
def fixed (units places part zeros : Nat) : Numeral where
  whole := Nat.toDigits 10 units
  fraction := padded places part ++ List.replicate zeros '0'
  digits := by
    intro char member
    rcases List.mem_append.mp member with unit | behind
    · exact Nat.isDigit_of_mem_toDigits (by decide) (by decide) unit
    · rcases List.mem_append.mp behind with padding | zero
      · exact padded_digits padding
      · rw [List.eq_of_mem_replicate zero]
        decide
  written := by
    intro none
    exact Nat.toDigits_ne_nil (List.append_eq_nil_iff.mp none).1

variable {units places part zeros : Nat}

theorem length_fraction_fixed (some : 0 < places) (fits : part < 10 ^ places) :
    (fixed units places part zeros).fraction.length = places + zeros := by
  rw [fixed, List.length_append, length_padded some fits, List.length_replicate]

theorem value_fixed (some : 0 < places) (fits : part < 10 ^ places) :
    (fixed units places part zeros).value = units + part / 10 ^ places := by
  have places_ne : (10 : ℚ) ^ places ≠ 0 := pow_ne_zero _ (by decide)
  have zeros_ne : (10 : ℚ) ^ zeros ≠ 0 := pow_ne_zero _ (by decide)
  rw [value, length_fraction_fixed some fits, fixed, Nat.ofDigitChars_ten_toDigits, ofDigitChars_append_eq,
    ofDigitChars_padded, Nat.ofDigitChars_replicate_zero, List.length_replicate, Nat.mul_zero, Nat.add_zero, pow_add]
  push_cast
  field_simp

end Numeral

end Simutgw.Logic
