import Mathlib.Algebra.BigOperators.Group.List.Basic
import Mathlib.Algebra.Order.Ring.Int

/-! Lists of decimal digits and the numbers they are read as. -/

namespace Simutgw.Logic

theorem toDigits_snoc {value : Nat} (large : 10 ≤ value) :
    Nat.toDigits 10 value = Nat.toDigits 10 (value / 10) ++ [Nat.digitChar (value % 10)] :=
  Nat.toDigits_of_base_le (by decide) large

theorem head_toDigits {value : Nat} (zero : (Nat.toDigits 10 value).head? = some '0') : value = 0 := by
  induction value using Nat.strongRecOn with
  | _ value ih =>
    rcases Nat.lt_or_ge value 10 with single | large
    · rw [Nat.toDigits_of_lt_base single, List.head?_cons, Option.some.injEq] at zero
      exact Nat.digitChar_eq_zero.mp zero
    · rw [toDigits_snoc large, List.head?_append_of_ne_nil _ Nat.toDigits_ne_nil] at zero
      have shorter := ih (value / 10) (by omega) zero
      omega

theorem length_toDigits_of_bounds {val size : Nat} (some : 0 < size) (low : 10 ^ (size - 1) ≤ val)
    (high : val < 10 ^ size) : (Nat.toDigits 10 val).length = size := by
  have upper := (Nat.length_toDigits_le_iff (n := val) (by decide : 1 < 10) some).mpr high
  have lower : size ≤ (Nat.toDigits 10 val).length := by
    rcases Nat.lt_or_ge 1 size with several | single
    · have fewer := mt (Nat.length_toDigits_le_iff (n := val) (by decide : 1 < 10)
        (by omega : 0 < size - 1)).mp (by omega)
      omega
    · have some := Nat.length_toDigits_pos (b := 10) (n := val)
      omega
  omega

theorem toNat_digit {char : Char} (digit : char.isDigit) :
    48 ≤ char.toNat ∧ char.toNat ≤ 57 := by
  simp only [Char.isDigit, Bool.and_eq_true, decide_eq_true_eq, ge_iff_le, UInt32.le_iff_toNat_le] at digit
  exact digit

theorem ofDigitChars_lt {text : List Char} (digits : ∀ char ∈ text, char.isDigit) :
    Nat.ofDigitChars 10 text 0 < 10 ^ text.length := by
  induction text with
  | nil => decide
  | cons head tail ih =>
    have here := toNat_digit (digits head (List.mem_cons_self ..))
    have rest := ih fun char member => digits char (List.mem_cons_of_mem _ member)
    rw [Nat.ofDigitChars_cons, Nat.ofDigitChars_eq_ofDigitChars_zero, List.length_cons, Nat.pow_succ]
    have value : 10 * 0 + (head.toNat - '0'.toNat) ≤ 9 := by
      have zero : '0'.toNat = 48 := rfl
      omega
    have scaled := Nat.mul_le_mul_left (10 ^ tail.length) value
    omega

theorem ofDigitChars_append_eq (front back : List Char) : Nat.ofDigitChars 10 (front ++ back) 0 =
    Nat.ofDigitChars 10 front 0 * 10 ^ back.length + Nat.ofDigitChars 10 back 0 := by
  rw [Nat.ofDigitChars_append, Nat.ofDigitChars_eq_ofDigitChars_zero, Nat.mul_comm]

theorem ofDigitChars_append_div (front : List Char) {back : List Char} (digits : ∀ char ∈ back, char.isDigit) :
    Nat.ofDigitChars 10 (front ++ back) 0 / 10 ^ back.length = Nat.ofDigitChars 10 front 0 := by
  have below := ofDigitChars_lt digits
  rw [ofDigitChars_append_eq, Nat.add_comm, Nat.add_mul_div_right _ _ (Nat.pow_pos (by decide)),
    Nat.div_eq_of_lt below, Nat.zero_add]

/-- Texts of one length that read alike are alike. -/
theorem ofDigitChars_inj {one two : List Char} (ones : ∀ char ∈ one, char.isDigit) (twos : ∀ char ∈ two, char.isDigit)
    (length : one.length = two.length) (same : Nat.ofDigitChars 10 one 0 = Nat.ofDigitChars 10 two 0) : one = two := by
  induction one generalizing two with
  | nil => exact (List.length_eq_zero_iff.mp length.symm).symm
  | cons head tail ih =>
    obtain ⟨other, rest, rfl⟩ := List.exists_cons_of_length_eq_add_one length.symm
    have tails : tail.length = rest.length := Nat.succ.inj length
    have here := toNat_digit (ones head (List.mem_cons_self ..))
    have there := toNat_digit (twos other (List.mem_cons_self ..))
    have below := ofDigitChars_lt fun char member => ones char (List.mem_cons_of_mem _ member)
    have under := ofDigitChars_lt fun char member => twos char (List.mem_cons_of_mem _ member)
    rw [Nat.ofDigitChars_cons, Nat.ofDigitChars_cons, Nat.ofDigitChars_eq_ofDigitChars_zero,
      @Nat.ofDigitChars_eq_ofDigitChars_zero rest, tails] at same
    rw [tails] at below
    have zero : '0'.toNat = 48 := rfl
    have heads : head.toNat = other.toNat := by
      have split := congrArg (· / 10 ^ rest.length) same
      simp only [Nat.mul_add_div (Nat.pow_pos (by decide : 0 < 10)), Nat.div_eq_of_lt below,
        Nat.div_eq_of_lt under] at split
      omega
    rw [heads] at same
    rw [ih (fun char member => ones char (List.mem_cons_of_mem _ member))
      (fun char member => twos char (List.mem_cons_of_mem _ member)) tails (Nat.add_left_cancel same),
      Char.toNat_inj.mp heads]

/-- A number in at least so many digits, with zeros in front. -/
def padded (places value : Nat) : List Char := (Nat.toDigits 10 value).leftpad places '0'

theorem padded_digits {places value : Nat} {char : Char} (member : char ∈ padded places value) : char.isDigit := by
  rcases List.mem_append.mp member with filled | digit
  · rw [List.eq_of_mem_replicate filled]
    decide
  · exact Nat.isDigit_of_mem_toDigits (by decide) (by decide) digit

theorem length_padded {places value : Nat} (some : 0 < places) (fits : value < 10 ^ places) :
    (padded places value).length = places := by
  have length := (Nat.length_toDigits_le_iff (n := value) (by decide : 1 < 10) some).mpr fits
  rw [padded, List.length_leftpad]
  omega

@[simp] theorem ofDigitChars_padded (places value : Nat) : Nat.ofDigitChars 10 (padded places value) 0 = value := by
  rw [padded, List.leftpad, Nat.ofDigitChars_append, Nat.ofDigitChars_replicate_zero, Nat.mul_zero,
    Nat.ofDigitChars_ten_toDigits]

theorem padded_of_bounds {places size value : Nat} (some : 0 < size) (low : 10 ^ (size - 1) ≤ value)
    (high : value < 10 ^ size) :
    padded places value = List.replicate (places - size) '0' ++ Nat.toDigits 10 value := by
  rw [padded, List.leftpad, length_toDigits_of_bounds some low high]

theorem padded_append {front back high low : Nat} (some : 0 < front) (more : 0 < back) (fits : high < 10 ^ front)
    (below : low < 10 ^ back) :
    padded front high ++ padded back low = padded (front + back) (high * 10 ^ back + low) := by
  have whole : high * 10 ^ back + low < 10 ^ (front + back) := by
    have places := Nat.mul_le_mul_right (10 ^ back) (Nat.succ_le_of_lt fits)
    rw [Nat.succ_mul, ← Nat.pow_add] at places
    omega
  apply ofDigitChars_inj
  · intro char member
    rcases List.mem_append.mp member with first | second
    · exact padded_digits first
    · exact padded_digits second
  · exact fun char member => padded_digits member
  · rw [List.length_append, length_padded some fits, length_padded more below, length_padded (by omega) whole]
  · rw [ofDigitChars_append_eq, length_padded more below, ofDigitChars_padded, ofDigitChars_padded, ofDigitChars_padded]

end Simutgw.Logic
