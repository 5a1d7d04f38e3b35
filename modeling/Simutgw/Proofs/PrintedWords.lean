import Simutgw.Proofs.DecimalText

/-! Words printed into a string the caller owns. The ladder counts the digits of the
magnitude, the string is given that many places and one for the sign, and the loops
fill the places from the last one: every store falls inside the string. What is written
reads back as the word it came from, except that the reader of unsigned words goes
through the signed ones. -/

namespace Simutgw.Proofs.PrintedWords
open SofString TgwStringUtil DecimalText Logic

/-! What the loops leave in the text. -/

theorem store_at (before : List Char) {old char : Char} (after : List Char) {c : Int} (place : c = before.length) :
    store (before ++ old :: after) c char = some (before ++ char :: after) := by
  have inside : 0 ≤ c ∧ c < (before ++ old :: after).length := by
    simp only [List.length_append, List.length_cons]
    omega
  rw [store, if_pos inside, place]
  simp

theorem storePair_at (before : List Char) {one two : Char} (after : List Char) {c : Int} {pos : Nat}
    (place : c = before.length + 1) (small : pos < 100) :
    storePair (before ++ one :: two :: after) c pos =
      some (before ++ Nat.digitChar (pos / 10) :: Nat.digitChar (pos % 10) :: after) := by
  have tens : store (before ++ one :: two :: after) (c - 1) (Nat.digitChar (pos / 10)) =
      some (before ++ [Nat.digitChar (pos / 10)] ++ two :: after) := by
    rw [store_at before (two :: after) (by omega)]
    simp
  rw [storePair, digitPair_eq small]
  simp only [tens, Option.bind_some]
  rw [store_at (before ++ [Nat.digitChar (pos / 10)]) after (by simp; omega)]
  simp

private theorem exists_snoc {chars : List Char} {places : Nat} (length : chars.length = places + 1) :
    ∃ front last, chars = front ++ [last] :=
  ⟨_, _, (List.dropLast_append_getLast (List.ne_nil_of_length_eq_add_one length)).symm⟩

theorem digitLoop_eq {fuel val : Nat} (enough : val < 10 ^ fuel) (positive : 0 < val) {front hole back : List Char}
    {c : Int} (room : hole.length = (Nat.toDigits 10 val).length) (last : c = front.length + hole.length - 1) :
    digitLoop (fuel + 1) val c (front ++ hole ++ back) = some (front ++ Nat.toDigits 10 val ++ back) := by
  induction fuel generalizing val hole back c with
  | zero => omega
  | succ fuel ih =>
    rw [digitLoop, if_pos positive, digit_eq (Nat.mod_lt _ (by decide))]
    rcases Nat.lt_or_ge val 10 with single | large
    · rw [Nat.toDigits_of_lt_base single] at room ⊢
      obtain ⟨old, rfl⟩ := List.length_eq_one_iff.mp room
      rw [List.append_assoc, List.singleton_append, store_at front back (by simp at last; omega), Option.bind_some,
        Nat.div_eq_of_lt single, Nat.mod_eq_of_lt single]
      simp [digitLoop]
    · rw [toDigits_snoc large, List.length_append, List.length_singleton] at room
      obtain ⟨places, old, rfl⟩ := exists_snoc room
      have fewer : places.length = (Nat.toDigits 10 (val / 10)).length := by simpa using room
      rw [List.length_append, List.length_singleton] at last
      rw [toDigits_snoc large, show front ++ (places ++ [old]) ++ back = front ++ places ++ old :: back by simp,
        store_at (front ++ places) back (by rw [List.length_append]; omega), Option.bind_some,
        ih (by rw [Nat.pow_succ] at enough; omega) (by omega) fewer (by omega)]
      simp

theorem pairLoop_eq {fuel val : Nat} (enough : val < 100 ^ fuel) (positive : 0 < val) {front hole back : List Char}
    {c : Int} (room : hole.length = (Nat.toDigits 10 val).length) (last : c = front.length + hole.length - 1) :
    pairLoop (fuel + 1) val c (front ++ hole ++ back) = some (front ++ Nat.toDigits 10 val ++ back) := by
  induction fuel generalizing val hole back c with
  | zero => omega
  | succ fuel ih =>
    rw [pairLoop]
    split
    next large =>
      have digits : Nat.toDigits 10 val = Nat.toDigits 10 (val / 100) ++
          [Nat.digitChar (val % 100 / 10), Nat.digitChar (val % 100 % 10)] := by
        rw [toDigits_snoc (by omega : 10 ≤ val), toDigits_snoc (by omega : 10 ≤ val / 10), Nat.div_div_eq_div_mul,
          show val % 100 / 10 = val / 10 % 10 by omega, show val % 100 % 10 = val % 10 by omega]
        simp
      rw [digits, List.length_append, List.length_cons, List.length_singleton] at room
      obtain ⟨longer, two, rfl⟩ := exists_snoc room
      have more : longer.length = (Nat.toDigits 10 (val / 100)).length + 1 := by simpa using room
      obtain ⟨places, one, rfl⟩ := exists_snoc more
      have fewer : places.length = (Nat.toDigits 10 (val / 100)).length := by simpa using more
      simp only [List.length_append, List.length_singleton] at last
      rw [digits, show front ++ (places ++ [one] ++ [two]) ++ back = front ++ places ++ one :: two :: back by simp,
        storePair_at (front ++ places) back (by rw [List.length_append]; omega) (Nat.mod_lt _ (by decide)),
        Option.bind_some, ih (by rw [Nat.pow_succ] at enough; omega) (by omega) fewer (by omega)]
      simp
    next small => exact @digitLoop_eq 19 val (by omega) positive front hole back c room last

theorem writeText_eq {sign : Int} {size val : Nat} (signs : sign = 0 ∨ sign = -1)
    (counted : (Nat.toDigits 10 val).length = size) (enough : val < 100 ^ 19) (positive : 0 < val) (s : String) :
    writeText sign size val s =
      some (String.ofList ((if sign = 0 then [] else ['-']) ++ Nat.toDigits 10 val)) := by
  have sized (places : Nat) : (resize s.toList places).length = places := by
    rw [resize, List.length_append, List.length_take, List.length_replicate]
    omega
  rcases signs with rfl | rfl
  · have loops := @pairLoop_eq 19 val enough positive [] (resize s.toList size) [] (size - 1)
      ((sized size).trans counted.symm) (by rw [sized, List.length_nil]; omega)
    rw [List.nil_append, List.append_nil, List.nil_append, List.append_nil] at loops
    simp only [writeText, Int.sub_zero, Int.toNat_natCast, ne_eq, not_true_eq_false, if_false, if_true,
      Option.bind_eq_bind, Option.bind_some, loops, List.nil_append]
    rfl
  · obtain ⟨first, rest, text⟩ := List.exists_cons_of_length_eq_add_one (sized (size + 1))
    have places : rest.length = size := by
      have all := sized (size + 1)
      rw [text, List.length_cons] at all
      omega
    have signed : store (resize s.toList (size + 1)) 0 '-' = some ('-' :: rest) := by
      rw [text]
      exact store_at [] rest rfl
    have last : ((size : Int) - -1).toNat = size + 1 := by omega
    have loops := @pairLoop_eq 19 val enough positive ['-'] rest [] ((size + 1 : Nat) - 1)
      (places.trans counted.symm) (by rw [places, List.length_singleton]; omega)
    rw [List.append_nil, List.append_nil, List.singleton_append] at loops
    simp only [writeText, last, signed, loops, ne_eq, Option.bind_eq_bind, Option.bind_some, if_true, if_false,
      show ((-1 : Int) = 0) = False by decide, not_false_eq_true]
    rfl

/-! The magnitude of a signed word. -/

theorem toNat_magnitude {width : Nat} (word : BitVec width) {sign : BitVec width}
    (signs : sign = if word.toInt < 0 then -(BitVec.ofNat width 1) else 0) :
    ((word ^^^ sign) - sign).toNat = word.toInt.natAbs := by
  have least := word.isLt
  have number := BitVec.toInt_eq_toNat_cond word
  split at signs
  next negative =>
    have flipped : (word ^^^ sign) - sign = -word := by
      rw [signs, BitVec.sub_neg, BitVec.neg_one_eq_allOnes, BitVec.xor_allOnes, BitVec.neg_eq_not_add]
    rw [flipped, BitVec.toNat_neg]
    split at number
    next => omega
    next large =>
      rw [Nat.mod_eq_of_lt (by omega)]
      omega
  next positive =>
    have kept : (word ^^^ sign) - sign = word := by simp [signs]
    rw [kept]
    split at number
    next => omega
    next => omega

/-! The text every overload writes. -/

/-- A word as one of the overloads takes it. -/
inductive Word where
  | uint64 (val : UInt64)
  | int64 (n : Int64)
  | uint32 (val : UInt32)
  | int32 (n : Int32)

namespace Word

def value : Word → Int
  | uint64 val => val.toNat
  | int64 n => n.toInt
  | uint32 val => val.toNat
  | int32 n => n.toInt

def itostr (s : String) : Word → Option String
  | uint64 val => itostrUInt64 val s
  | int64 n => itostrInt64 n s
  | uint32 val => itostrUInt32 val s
  | int32 n => itostrInt32 n s

/-- What the reader for words of its signedness makes of a text. -/
def reread (text : String) : Word → Int
  | uint64 _ | uint32 _ => (string2UInt64 text).toNat
  | int64 _ | int32 _ => (string2Int64 text).toInt

end Word

/-- The decimal text of a number. -/
def decimal (value : Int) : String :=
  String.ofList ((if value < 0 then ['-'] else []) ++ Nat.toDigits 10 value.natAbs)

/-- A minus sign exactly where the number is negative, and its digits with none of them
a leading zero. -/
def Canonical (value : Int) (text : String) : Prop :=
  ∃ digits : List Char, text.toList = (if value < 0 then ['-'] else []) ++ digits ∧ digits ≠ [] ∧
    (∀ char ∈ digits, char.isDigit) ∧ (digits.head? = some '0' → digits = ['0']) ∧
    Nat.ofDigitChars 10 digits 0 = value.natAbs

theorem decimal_canonical (value : Int) : Canonical value (decimal value) := by
  refine ⟨Nat.toDigits 10 value.natAbs, by rw [decimal, String.toList_ofList], Nat.toDigits_ne_nil,
    fun char member => Nat.isDigit_of_mem_toDigits (by decide) (by decide) member, fun zero => ?_,
    Nat.ofDigitChars_ten_toDigits⟩
  rw [head_toDigits zero]
  rfl

/-- A word of 32 bits lies below the upper half of the longer ladder. -/
theorem textSize32_eq (val : UInt32) : textSize32 val = textSize val.toUInt64 := by
  have bound := val.toNat_lt
  have short : ¬ (10000000000 : UInt64) ≤ val.toUInt64 := by
    simp only [UInt64.le_iff_toNat_le, UInt32.toNat_toUInt64, UInt64.reduceToNat]
    omega
  rw [textSize, if_neg short]
  simp only [textSize32, ge_iff_le, UInt32.le_iff_toNat_le, UInt64.le_iff_toNat_le, UInt32.toNat_toUInt64]
  rfl

theorem textSize32_bounds {val : UInt32} (nonzero : val ≠ 0) :
    0 < textSize32 val ∧ 10 ^ (textSize32 val - 1) ≤ val.toNat ∧ val.toNat < 10 ^ textSize32 val := by
  rw [textSize32_eq, ← UInt32.toNat_toUInt64]
  apply textSize_bounds
  intro zero
  apply nonzero
  rw [← UInt32.toNat_inj, ← UInt32.toNat_toUInt64, zero]
  rfl

/-- The sign and the size an overload computes are those of the number it prints. -/
theorem writeText_decimal {sign value : Int} {size val : Nat} (signs : sign = if value < 0 then -1 else 0)
    (magnitude : val = value.natAbs) (bounds : 0 < size ∧ 10 ^ (size - 1) ≤ val ∧ val < 10 ^ size)
    (enough : val < 2 ^ 64) (s : String) : writeText sign size val s = some (decimal value) := by
  obtain ⟨some, low, high⟩ := bounds
  have positive : 0 < val := Nat.lt_of_lt_of_le (Nat.pow_pos (by decide)) low
  have either : sign = 0 ∨ sign = -1 := by
    rw [signs]
    split <;> simp
  rw [writeText_eq either (length_toDigits_of_bounds some low high) (by omega) positive, decimal, ← magnitude, signs]
  split <;> rfl

theorem itostrUInt64_eq (val : UInt64) (s : String) : itostrUInt64 val s = some (decimal val.toNat) := by
  rw [itostrUInt64]
  split
  next zero =>
    subst zero
    rfl
  next nonzero =>
    exact @writeText_decimal 0 val.toNat _ _ (by rw [if_neg (by omega)]) rfl (textSize_bounds nonzero) val.toNat_lt s

theorem itostrUInt32_eq (val : UInt32) (s : String) : itostrUInt32 val s = some (decimal val.toNat) := by
  rw [itostrUInt32]
  split
  next zero =>
    subst zero
    rfl
  next nonzero =>
    have bound := val.toNat_lt
    exact @writeText_decimal 0 val.toNat _ _ (by rw [if_neg (by omega)]) rfl (textSize32_bounds nonzero) (by omega) s

theorem itostrInt64_eq (n : Int64) (s : String) : itostrInt64 n s = some (decimal n.toInt) := by
  rw [itostrInt64]
  split
  next zero =>
    subst zero
    rfl
  next nonzero =>
    have below : n < 0 ↔ n.toInt < 0 := Int64.lt_iff_toInt_lt
    have signs : (-(if n < 0 then 1 else 0) : Int64).toBitVec = if n.toInt < 0 then -(BitVec.ofNat 64 1) else 0 := by
      simp only [below]
      split <;> rfl
    have signed : (-(if n < 0 then 1 else 0) : Int64).toInt = if n.toInt < 0 then -1 else 0 := by
      simp only [below]
      split <;> rfl
    have magnitude := toNat_magnitude n.toBitVec signs
    refine writeText_decimal signed magnitude (textSize_bounds fun zero => nonzero ?_) (UInt64.toNat_lt _) s
    have none := magnitude.symm.trans (UInt64.toNat_inj.mpr zero)
    exact Int64.toInt_inj.mp (Int.natAbs_eq_zero.mp none)

theorem itostrInt32_eq (n : Int32) (s : String) : itostrInt32 n s = some (decimal n.toInt) := by
  rw [itostrInt32]
  split
  next zero =>
    subst zero
    rfl
  next nonzero =>
    have below : n < 0 ↔ n.toInt < 0 := Int32.lt_iff_toInt_lt
    have signs : (-(if n < 0 then 1 else 0) : Int32).toBitVec = if n.toInt < 0 then -(BitVec.ofNat 32 1) else 0 := by
      simp only [below]
      split <;> rfl
    have signed : (-(if n < 0 then 1 else 0) : Int32).toInt = if n.toInt < 0 then -1 else 0 := by
      simp only [below]
      split <;> rfl
    have magnitude := toNat_magnitude n.toBitVec signs
    have bound := UInt32.toNat_lt ((n ^^^ -(if n < 0 then 1 else 0)) - -(if n < 0 then 1 else 0)).toUInt32
    refine writeText_decimal signed magnitude (textSize32_bounds fun zero => nonzero ?_) (by omega) s
    have none := magnitude.symm.trans (UInt32.toNat_inj.mpr zero)
    exact Int32.toInt_inj.mp (Int.natAbs_eq_zero.mp none)

/-- No store misses the string, whatever it held before, and the text is the number's. -/
theorem Word.itostr_eq (word : Word) (s : String) : word.itostr s = some (decimal word.value) := by
  cases word with
  | uint64 val => exact itostrUInt64_eq val s
  | int64 n => exact itostrInt64_eq n s
  | uint32 val => exact itostrUInt32_eq val s
  | int32 n => exact itostrInt32_eq n s

theorem itostrUInt64_itostr (val : UInt64) (s : String) : itostrUInt64 val s = some (SofString.itostr val) := by
  rw [itostrUInt64_eq, decimal, if_neg (by omega), List.nil_append, Int.natAbs_natCast, ← itostr_toList,
    String.ofList_toList]

theorem itostrInt32_itostrInt (n : Int32) (s : String) : itostrInt32 n s = some (itostrInt n.toInt) := by
  have least := n.le_toInt
  have most := n.toInt_lt
  have magnitude : (UInt64.ofNat n.toInt.natAbs).toNat = n.toInt.natAbs := by
    rw [UInt64.toNat_ofNat']
    omega
  have printed : String.ofList (Nat.toDigits 10 n.toInt.natAbs) = SofString.itostr (UInt64.ofNat n.toInt.natAbs) := by
    rw [← String.ofList_toList (s := SofString.itostr _), itostr_toList, magnitude]
  rw [itostrInt32_eq, decimal, itostrInt, ← printed]
  split
  next => rw [String.ofList_append]
  next => rw [List.nil_append]

/-! What the readers make of the text. -/

theorem strtoll_decimal {value : Int} (least : -2 ^ 63 ≤ value) :
    strtoll (decimal value).toList = min value (2 ^ 63 - 1) := by
  have digits : ∀ char ∈ Nat.toDigits 10 value.natAbs, char.isDigit :=
    fun char member => Nat.isDigit_of_mem_toDigits (by decide) (by decide) member
  rw [decimal, String.toList_ofList]
  split
  next negative =>
    rw [List.singleton_append, strtoll_minus digits (by rw [Nat.ofDigitChars_ten_toDigits]; omega),
      Nat.ofDigitChars_ten_toDigits]
    omega
  next positive =>
    rw [List.nil_append, strtoll_of_digits digits, Nat.ofDigitChars_ten_toDigits]
    omega

theorem decimal_isEmpty (value : Int) : (decimal value).isEmpty = false := by
  rw [← Bool.not_eq_true, String.isEmpty_iff]
  intro empty
  have text := congrArg String.toList empty
  rw [decimal, String.toList_ofList, String.toList_empty, List.append_eq_nil_iff] at text
  exact Nat.toDigits_ne_nil text.2

theorem string2UInt64_decimal (value : Nat) : (string2UInt64 (decimal value)).toNat = min value (2 ^ 63 - 1) := by
  rw [string2UInt64, decimal_isEmpty, if_neg (by decide), strtoll_decimal (by omega)]
  have word : (min (value : Int) (2 ^ 63 - 1) % 2 ^ 64).toNat = min value (2 ^ 63 - 1) := by omega
  rw [UInt64.ofInt, word, UInt64.toNat_ofNat']
  omega

theorem string2Int64_decimal {value : Int} (least : -2 ^ 63 ≤ value) (fits : value < 2 ^ 63) :
    (string2Int64 (decimal value)).toInt = value := by
  rw [string2Int64, decimal_isEmpty, if_neg (by decide), strtoll_decimal least,
    Int64.toInt_ofInt_of_le (by omega) (by omega)]
  omega

/-- Whatever the string held, the text is the canonical one of the word, stored inside
the string, and reads back as the word. -/
def Lawful (word : Word) : Prop :=
  ∀ s, ∃ text, word.itostr s = some text ∧ Canonical word.value text ∧ word.reread text = word.value

theorem lawful_iff_reread (word : Word) : Lawful word ↔ word.reread (decimal word.value) = word.value := by
  constructor
  · intro lawful
    obtain ⟨text, printed, canonical, same⟩ := lawful ""
    rw [word.itostr_eq, Option.some.injEq] at printed
    rwa [printed]
  · intro same s
    exact ⟨_, word.itostr_eq s, decimal_canonical _, same⟩

/-- The reader of unsigned words stops at the greatest signed one. Every other word
comes back. -/
theorem itostr_lawful_iff (word : Word) : Lawful word ↔ ∀ val, word = .uint64 val → val.toNat < 2 ^ 63 := by
  rw [lawful_iff_reread]
  cases word with
  | uint64 val =>
    simp only [Word.reread, Word.value, string2UInt64_decimal, Word.uint64.injEq, forall_eq']
    omega
  | int64 n =>
    have least := n.le_toInt
    have most := n.toInt_lt
    simp only [Word.reread, Word.value, string2Int64_decimal least most, reduceCtorEq, false_implies, implies_true]
  | uint32 val =>
    have bound := val.toNat_lt
    simp only [Word.reread, Word.value, string2UInt64_decimal, reduceCtorEq, false_implies, implies_true, iff_true]
    omega
  | int32 n =>
    have least := n.le_toInt
    have most := n.toInt_lt
    have same := @string2Int64_decimal n.toInt (by omega) (by omega)
    simp only [Word.reread, Word.value, same, reduceCtorEq, false_implies, implies_true]

/-- The greatest word comes back as the greatest signed one. -/
theorem greatest_word_halved : ¬ Lawful (.uint64 18446744073709551615) := by
  rw [lawful_iff_reread]
  decide +kernel

end Simutgw.Proofs.PrintedWords
