import Mathlib.Data.List.TakeWhile
import Simutgw.TgwStringUtil
import Simutgw.Logic.Digits

/-! Printed words read back. The printing loops write the decimal digits of the
word, the ladder of thresholds sizes the text exactly, and the parser stops
where the digits do. -/

namespace Simutgw.Proofs.DecimalText
open SofString TgwStringUtil Logic

theorem digit_eq {value : Nat} (small : value < 10) : digit value = Nat.digitChar value := by
  have each : ∀ value : Fin 10, digit value = Nat.digitChar value := by decide
  exact each ⟨value, small⟩

/-- The pairs of one row of the table. -/
private def row (tens : Nat) : List Char :=
  (List.range 10).flatMap fun ones => [Nat.digitChar tens, Nat.digitChar ones]

theorem digitPairs_toList : digitPairs.toList = (List.range 10).flatMap row := by
  have rows : digitPairs = String.ofList (row 0) ++ String.ofList (row 1) ++ String.ofList (row 2) ++
      String.ofList (row 3) ++ String.ofList (row 4) ++ String.ofList (row 5) ++ String.ofList (row 6) ++
      String.ofList (row 7) ++ String.ofList (row 8) ++ String.ofList (row 9) := rfl
  simp only [rows, String.toList_append, String.toList_ofList]
  rfl

theorem digitPair_eq {pos : Nat} (small : pos < 100) :
    digitPair pos = [Nat.digitChar (pos / 10), Nat.digitChar (pos % 10)] := by
  have each : ∀ pos : Fin 100, (((List.range 10).flatMap row).drop (2 * pos)).take 2 =
      [Nat.digitChar (pos / 10), Nat.digitChar (pos % 10)] := by
    decide +kernel
  rw [digitPair, digitPairs_toList]
  exact each ⟨pos, small⟩

theorem writeDigits_eq {fuel value : Nat} (enough : value < 10 ^ fuel) (positive : 0 < value) (written : List Char) :
    writeDigits fuel value written = Nat.toDigits 10 value ++ written := by
  induction fuel generalizing value written with
  | zero => omega
  | succ fuel ih =>
    rw [writeDigits, if_pos positive, digit_eq (Nat.mod_lt _ (by decide))]
    rcases Nat.lt_or_ge value 10 with single | large
    · have done (rest : List Char) : writeDigits fuel 0 rest = rest := by cases fuel <;> simp [writeDigits]
      rw [Nat.div_eq_of_lt single, done, Nat.mod_eq_of_lt single, Nat.toDigits_of_lt_base single]
      rfl
    · rw [ih (by rw [Nat.pow_succ] at enough; omega) (by omega), toDigits_snoc large]
      simp

theorem writePairs_eq {fuel value : Nat} (enough : value < 100 ^ fuel) (positive : 0 < value) (written : List Char) :
    writePairs fuel value written = Nat.toDigits 10 value ++ written := by
  induction fuel generalizing value written with
  | zero => omega
  | succ fuel ih =>
    rw [writePairs]
    split
    next large =>
      have left : value / 100 = value / 10 / 10 := by omega
      have pair : value % 100 / 10 = value / 10 % 10 := by omega
      rw [ih (by rw [Nat.pow_succ] at enough; omega) (by omega), digitPair_eq (Nat.mod_lt _ (by decide)),
        toDigits_snoc (by omega : 10 ≤ value), toDigits_snoc (by omega : 10 ≤ value / 10), left, pair]
      simp
    next small => exact writeDigits_eq (by omega) positive written

theorem textSize_bounds {val : UInt64} (nonzero : val ≠ 0) :
    0 < textSize val ∧ 10 ^ (textSize val - 1) ≤ val.toNat ∧ val.toNat < 10 ^ textSize val := by
  have bound := val.toNat_lt
  have positive : 0 < val.toNat := by
    have different := mt UInt64.toNat_inj.mp nonzero
    simp only [UInt64.toNat_zero] at different
    omega
  unfold textSize
  simp only [UInt64.le_iff_toNat_le, ge_iff_le]
  repeat' split
  all_goals
    refine ⟨by decide, ?_, ?_⟩
    all_goals
      simp_all
      try omega

theorem length_toDigits {val : UInt64} (nonzero : val ≠ 0) :
    (Nat.toDigits 10 val.toNat).length = textSize val := by
  obtain ⟨some, low, high⟩ := textSize_bounds nonzero
  exact length_toDigits_of_bounds some low high

theorem itostr_toList (val : UInt64) : (itostr val).toList = Nat.toDigits 10 val.toNat := by
  unfold itostr
  split
  next zero =>
    subst zero
    decide
  next nonzero =>
    have bound := val.toNat_lt
    have positive : 0 < val.toNat := by
      have different := mt UInt64.toNat_inj.mp nonzero
      simp only [UInt64.toNat_zero] at different
      omega
    have written := writePairs_eq (show val.toNat < 100 ^ 20 by omega) positive []
    rw [written, List.append_nil, List.leftpad, length_toDigits nonzero]
    simp

/-- Digits are neither white space nor signs: the parsers start with the first of them. -/
theorem digits_unsigned {text : List Char} (digits : ∀ char ∈ text, char.isDigit) :
    text.dropWhile isSpace = text ∧ (∀ rest, text ≠ '-' :: rest) ∧ ∀ rest, text ≠ '+' :: rest := by
  cases text with
  | nil => simp
  | cons head tail =>
    have isDigit : head.isDigit := digits head (List.mem_cons_self ..)
    have solid : isSpace head = false := by
      simp only [Char.isDigit, Bool.and_eq_true, decide_eq_true_eq, ge_iff_le] at isDigit
      simp only [isSpace, Bool.or_eq_false_iff, beq_eq_false_iff_ne, Bool.and_eq_false_imp, decide_eq_true_eq,
        decide_eq_false_iff_not]
      refine ⟨?_, fun _ small => ?_⟩
      · rintro rfl
        exact absurd isDigit.1 (by decide)
      · have below := Nat.le_trans (UInt32.le_iff_toNat_le.mp isDigit.1) (UInt32.le_iff_toNat_le.mp small)
        exact absurd below (by decide)
    refine ⟨by rw [List.dropWhile_cons, solid, if_neg Bool.false_ne_true], fun rest same => ?_, fun rest same => ?_⟩
    · rw [(List.cons.inj same).1] at isDigit
      exact absurd isDigit (by decide)
    · rw [(List.cons.inj same).1] at isDigit
      exact absurd isDigit (by decide)

theorem leadingDigits_digits {text : List Char} (digits : ∀ char ∈ text, char.isDigit) :
    leadingDigits text = Nat.ofDigitChars 10 text 0 := by
  rw [leadingDigits, List.takeWhile_eq_self_iff.mpr digits]

theorem strtoll_of_digits {text : List Char} (digits : ∀ char ∈ text, char.isDigit) :
    strtoll text = min (Nat.ofDigitChars 10 text 0 : Int) (2 ^ 63 - 1) := by
  obtain ⟨solid, minus, plus⟩ := digits_unsigned digits
  simp only [strtoll, solid, leadingDigits_digits digits]
  have low : ¬ (Nat.ofDigitChars 10 text 0 : Int) < -2 ^ 63 := by omega
  rw [if_neg low]
  split <;> omega

theorem strtoull_of_digits {text : List Char} (digits : ∀ char ∈ text, char.isDigit) :
    (strtoull text).toNat = min (Nat.ofDigitChars 10 text 0) (2 ^ 64 - 1) := by
  obtain ⟨solid, minus, plus⟩ := digits_unsigned digits
  simp only [strtoull, solid, leadingDigits_digits digits]
  split
  next high =>
    rw [Nat.min_eq_right (by omega)]
    rfl
  next low =>
    have word : ((Nat.ofDigitChars 10 text 0 : Int) % 2 ^ 64).toNat = Nat.ofDigitChars 10 text 0 := by omega
    rw [UInt64.ofInt, word, UInt64.toNat_ofNat', Nat.min_eq_left (by omega), Nat.mod_eq_of_lt (by omega)]

theorem strtoll_digits {text : List Char} (digits : ∀ char ∈ text, char.isDigit)
    (fits : Nat.ofDigitChars 10 text 0 < 2 ^ 63) : strtoll text = Nat.ofDigitChars 10 text 0 := by
  rw [strtoll_of_digits digits]
  omega

theorem strtoll_minus {text : List Char} (digits : ∀ char ∈ text, char.isDigit)
    (fits : Nat.ofDigitChars 10 text 0 ≤ 2 ^ 63) : strtoll ('-' :: text) = -Nat.ofDigitChars 10 text 0 := by
  have solid : isSpace '-' = false := by decide
  simp only [strtoll, List.dropWhile_cons, solid, Bool.false_eq_true, if_false, leadingDigits_digits digits]
  have low : ¬ -(Nat.ofDigitChars 10 text 0 : Int) < -2 ^ 63 := by omega
  have high : ¬ (2 : Int) ^ 63 ≤ -(Nat.ofDigitChars 10 text 0 : Int) := by omega
  rw [if_neg low, if_neg high]

@[simp] theorem itostr_isEmpty (val : UInt64) : (itostr val).isEmpty = false := by
  rw [← Bool.not_eq_true, String.isEmpty_iff]
  intro empty
  have text := itostr_toList val
  rw [empty] at text
  exact Nat.toDigits_ne_nil text.symm

/-- A printed word is read back up to the greatest signed word. -/
theorem string2UInt64_itostr_min (val : UInt64) : (string2UInt64 (itostr val)).toNat = min val.toNat (2 ^ 63 - 1) := by
  have digits : ∀ char ∈ Nat.toDigits 10 val.toNat, char.isDigit :=
    fun char member => Nat.isDigit_of_mem_toDigits (by decide) (by decide) member
  have word : ((min (val.toNat : Int) (2 ^ 63 - 1)) % 2 ^ 64).toNat = min val.toNat (2 ^ 63 - 1) := by omega
  rw [string2UInt64, itostr_isEmpty, if_neg Bool.false_ne_true, itostr_toList, strtoll_of_digits digits,
    Nat.ofDigitChars_ten_toDigits, UInt64.ofInt, word, UInt64.toNat_ofNat']
  omega

theorem string2UInt64_itostr {val : UInt64} (fits : val.toNat < 2 ^ 63) : string2UInt64 (itostr val) = val := by
  apply UInt64.toNat_inj.mp
  rw [string2UInt64_itostr_min]
  omega

end Simutgw.Proofs.DecimalText
