import Simutgw.Proofs.MoneyText

/-! Money amounts with a sign as text. The loop over the decimals writes as many as are
asked for; the printer of unsigned amounts only knows some numbers of them. -/

namespace Simutgw.Proofs.SignedMoney
open SofString TgwStringUtil DecimalText MoneyText Logic

/-- A whole number in decimal digits, with a minus sign or without. -/
def Writes (text : String) (amount : Int) : Prop :=
  ∃ digits, digits ≠ [] ∧ (∀ char ∈ digits, char.isDigit) ∧
    (text.toList = digits ∧ amount = Nat.ofDigitChars 10 digits 0 ∨
      text.toList = '-' :: digits ∧ amount = -Nat.ofDigitChars 10 digits 0)

/-- A minus sign in front of a text, where the amount is negative. -/
def signed (amount : Int) (text : List Char) : List Char := (if amount < 0 then ['-'] else []) ++ text

/-- Units with so many decimals, cut towards zero, behind a sign where the amount is negative. -/
def Prints (shown : String) (amount : Int) (places : Nat) : Prop :=
  ∃ numeral : Numeral, numeral.fraction.length = places ∧ numeral.value = truncated places (amount.natAbs / 1000) ∧
    ∃ text, numeral.Spells text ∧ shown.toList = signed amount text

/-- The call ends with such a text, and for an amount that is not negative it is the one
the other printer writes. -/
def Lawful (text : String) (amount : Int64) (decimalLen : UInt32) : Prop :=
  ∃ shown, (∃ fuel, stringLiToStringYuan fuel text decimalLen = some shown) ∧
    Prints shown amount.toInt decimalLen.toNat ∧
    (0 ≤ amount.toInt → shown = iLiToStr amount.toUInt64 decimalLen.toNat)

/-- The numbers of decimals the other printer knows. Nothing gets its single decimal only
here, and the loop cannot count beyond the greatest number. -/
def Known (amount : Int64) (decimalLen : UInt32) : Prop :=
  decimalLen ≠ 4294967295 ∧
    (amount.toInt < 0 ∨ decimalLen.toNat ∈ [0, 2, 3, 4, 6] ∨ decimalLen = 1 ∧ amount ≠ 0)

/-! The number read. -/

theorem string2Int64_writes {text : String} {amount : Int64} (writes : Writes text amount.toInt) :
    string2Int64 text = amount := by
  obtain ⟨digits, some, decimal, written⟩ := writes
  have low := amount.le_toInt
  have high := amount.toInt_lt
  have filled : text.isEmpty = false := by
    rw [← Bool.not_eq_true, String.isEmpty_iff]
    rintro rfl
    rcases written with ⟨empty, _⟩ | ⟨empty, _⟩
    · exact some empty.symm
    · cases empty
  have read : strtoll text.toList = amount.toInt := by
    rcases written with ⟨same, value⟩ | ⟨same, value⟩
    · rw [same, strtoll_digits decimal (by omega), value]
    · rw [same, strtoll_minus decimal (by omega), value]
  rw [string2Int64, filled, if_neg Bool.false_ne_true, read, Int64.ofInt_toInt]

/-- The magnitude of the least word is one that only the unsigned words hold. -/
theorem magnitude (amount : Int64) :
    (if amount < 0 then (0 - amount).toUInt64 else amount.toUInt64).toNat = amount.toInt.natAbs := by
  have below : amount < 0 ↔ amount.toInt < 0 := Int64.lt_iff_toInt_lt
  have number := BitVec.toInt_eq_toNat_cond amount.toBitVec
  have least := amount.toBitVec.isLt
  have same : amount.toInt = amount.toBitVec.toInt := rfl
  simp only [below]
  split
  next negative =>
    have flipped : (0 - amount).toUInt64.toNat = (0 - amount.toBitVec).toNat := rfl
    have none : (0 : BitVec 64).toNat = 0 := rfl
    rw [flipped, BitVec.toNat_sub, none]
    split at number <;> omega
  next positive =>
    have kept : amount.toUInt64.toNat = amount.toBitVec.toNat := rfl
    rw [kept]
    split at number <;> omega

/-! The digits written. -/

/-- Three digits and zeros, of which so many are written. -/
def decimals (li places : Nat) : List Char := (padded 3 li ++ List.replicate places '0').take places

/-- Where the loop is after so many passes. -/
def reached (text : String) (li pass : Nat) : Decimals where
  i := UInt32.ofNat (pass + 1)
  iTenLv := 10 ^ (3 - pass)
  uiDecimalBase := li % 10 ^ (3 - pass)
  ioStrValue := text ++ String.ofList (decimals li pass)

theorem padded_single {value : Nat} (small : value < 10) : padded 1 value = [Nat.digitChar value] := by
  rw [padded, Nat.toDigits_of_lt_base small]
  rfl

theorem padded_three {li : Nat} (fits : li < 1000) :
    padded 3 li = [Nat.digitChar (li / 100), Nat.digitChar (li / 10 % 10), Nat.digitChar (li % 10)] := by
  have parts : li = (li / 100 * 10 ^ 1 + li / 10 % 10) * 10 ^ 1 + li % 10 := by omega
  have joined : padded 1 (li / 100) ++ padded 1 (li / 10 % 10) ++ padded 1 (li % 10) = padded 3 li := by
    rw [padded_append (by decide) (by decide) (by omega) (by omega),
      padded_append (by decide) (by decide) (by omega) (by omega), ← parts]
  rw [← joined, padded_single (by omega), padded_single (by omega), padded_single (by omega)]
  rfl

theorem decimals_succ (li : Nat) {pass : Nat} (fits : li < 1000) : decimals li (pass + 1) =
    decimals li pass ++ [if pass < 3 then Nat.digitChar (li % 10 ^ (3 - pass) / 10 ^ (2 - pass)) else '0'] := by
  rw [decimals, decimals, padded_three fits]
  match pass with
  | 0 => simp [Nat.mod_eq_of_lt fits]
  | 1 =>
    have second : li / 10 % 10 = li % 100 / 10 := by omega
    simp [second]
  | 2 => simp
  | pass + 3 => simpa using @List.replicate_succ' pass Char '0'

theorem decimalPass_reached {decimalLen : UInt32} {pass : Nat} (more : pass < decimalLen.toNat) (text : String)
    {li : Nat} (fits : li < 1000) :
    decimalPass decimalLen (reached text li pass) = .again (reached text li (pass + 1)) := by
  have bound := decimalLen.toNat_lt
  have counter : (UInt32.ofNat (pass + 1)).toNat = pass + 1 := by
    rw [UInt32.toNat_ofNat']
    omega
  have inside : UInt32.ofNat (pass + 1) ≤ decimalLen := by
    rw [UInt32.le_iff_toNat_le, counter]
    omega
  have counted : UInt32.ofNat (pass + 1) + 1 = UInt32.ofNat (pass + 1 + 1) := (UInt32.ofNat_add (pass + 1) 1).symm
  have three : UInt32.ofNat (pass + 1) ≤ 3 ↔ pass < 3 := by
    have number : (3 : UInt32).toNat = 3 := rfl
    rw [UInt32.le_iff_toNat_le, counter, number]
    omega
  simp only [decimalPass, reached, if_pos inside, three, counted, decimals_succ li fits]
  split
  next first =>
    have power : 10 ^ (3 - pass) = 10 ^ (2 - pass) * 10 := by
      rw [← Nat.pow_succ]
      congr 1
      omega
    have some : 0 < 10 ^ (2 - pass) := Nat.pow_pos (by decide)
    have tenth : 10 ^ (3 - pass) / 10 = 10 ^ (2 - pass) := by
      rw [power, Nat.mul_div_cancel _ (by decide)]
    have next : 3 - (pass + 1) = 2 - pass := by omega
    have digit : li % 10 ^ (3 - pass) / 10 ^ (2 - pass) < 10 := by
      rw [Nat.div_lt_iff_lt_mul some, Nat.mul_comm, ← power]
      exact Nat.mod_lt _ (Nat.pow_pos (by decide))
    have written : itostr (UInt64.ofNat (li % 10 ^ (3 - pass) / 10 ^ (2 - pass))) =
        String.ofList [Nat.digitChar (li % 10 ^ (3 - pass) / 10 ^ (2 - pass))] := by
      apply String.toList_inj.mp
      rw [itostr_toList, UInt64.toNat_ofNat_of_lt' (Nat.lt_trans digit (by decide)), Nat.toDigits_of_lt_base digit, String.toList_ofList]
    have rest : li % 10 ^ (3 - pass) % 10 ^ (2 - pass) = li % 10 ^ (2 - pass) :=
      Nat.mod_mod_of_dvd _ ⟨10, power⟩
    rw [tenth, if_neg (Nat.ne_of_gt some), next, written, rest, String.ofList_append, String.append_assoc]
  next last =>
    have none : 3 - (pass + 1) = 3 - pass := by omega
    rw [none, String.ofList_append, String.append_assoc]

theorem decimalPass_leave {decimalLen : UInt32} {state : Decimals} (beyond : ¬ state.i ≤ decimalLen) :
    decimalPass decimalLen state = .leave state.ioStrValue := by
  rw [decimalPass, if_neg beyond]

theorem visits_reached {decimalLen : UInt32} (text : String) {li : Nat} (fits : li < 1000) {pass : Nat}
    (within : pass ≤ decimalLen.toNat) :
    (decimalPass decimalLen).Visits (reached text li 0) (reached text li pass) := by
  induction pass with
  | zero => exact .here
  | succ pass ih => exact .again (ih (Nat.le_of_lt within)) (decimalPass_reached within text fits)

theorem returns_decimals (decimalLen : UInt32) (text : String) {li : Nat} (fits : li < 1000) (value : String) :
    (decimalPass decimalLen).Returns (reached text li 0) value ↔
      decimalLen ≠ 4294967295 ∧ value = text ++ String.ofList (decimals li decimalLen.toNat) := by
  have bound := decimalLen.toNat_lt
  have greatest : decimalLen = 4294967295 ↔ decimalLen.toNat = 4294967295 := UInt32.toNat_inj.symm
  rw [(visits_reached text fits (Nat.le_refl _)).returns, ne_eq, greatest]
  by_cases wraps : decimalLen.toNat = 4294967295
  · have zero : UInt32.ofNat (decimalLen.toNat + 1) = 0 := by
      rw [wraps]
      rfl
    have one : 3 - decimalLen.toNat = 0 := by omega
    have undefined : decimalPass decimalLen (reached text li decimalLen.toNat) = .undefined := by
      simp only [decimalPass, reached, zero, one]
      rfl
    simp only [wraps, not_true_eq_false, false_and, iff_false]
    rw [← wraps]
    exact Loop.not_returns_undefined undefined
  · have counter : (UInt32.ofNat (decimalLen.toNat + 1)).toNat = decimalLen.toNat + 1 := by
      rw [UInt32.toNat_ofNat']
      omega
    have beyond : ¬ UInt32.ofNat (decimalLen.toNat + 1) ≤ decimalLen := by
      rw [UInt32.le_iff_toNat_le, counter]
      omega
    have left : decimalPass decimalLen (reached text li decimalLen.toNat) =
        .leave (text ++ String.ofList (decimals li decimalLen.toNat)) :=
      decimalPass_leave beyond
    constructor
    · intro returns
      exact ⟨wraps, (Loop.leaves_of_returns left returns).symm⟩
    · intro ⟨_, same⟩
      rw [same]
      exact Loop.returns_leave left

/-- As many digits of the thousandths as are asked for, and zeros for those beyond them. -/
theorem decimals_eq {li places : Nat} (fits : li < 1000) (least : 1 ≤ places) : decimals li places =
    padded (min places 3) (li / 10 ^ (3 - min places 3)) ++ List.replicate (places - 3) '0' := by
  match places with
  | 1 =>
    rw [decimals, padded_three fits]
    simp [padded_single (show li / 100 < 10 by omega)]
  | 2 =>
    have parts : li / 10 = li / 100 * 10 ^ 1 + li / 10 % 10 := by omega
    have joined : padded 1 (li / 100) ++ padded 1 (li / 10 % 10) = padded 2 (li / 10) := by
      rw [padded_append (by decide) (by decide) (by omega) (by omega), ← parts]
    rw [decimals, padded_three fits]
    simp [← joined, padded_single (show li / 100 < 10 by omega), padded_single (show li / 10 % 10 < 10 by omega)]
  | zeros + 3 =>
    rw [decimals, padded_three fits]
    simp [padded_three fits]

/-- The text of an amount without its sign. -/
def unsigned (amount places : Nat) : List Char :=
  Nat.toDigits 10 (amount / 1000) ++ if places = 0 then [] else '.' :: decimals (amount % 1000) places

theorem stringLiToStringYuan_iff {text : String} {amount : Int64} (decimalLen : UInt32)
    (writes : Writes text amount.toInt) (shown : String) :
    (∃ fuel, stringLiToStringYuan fuel text decimalLen = some shown) ↔ decimalLen ≠ 4294967295 ∧
      shown.toList = signed amount.toInt (unsigned amount.toInt.natAbs decimalLen.toNat) := by
  have below : amount < 0 ↔ amount.toInt < 0 := Int64.lt_iff_toInt_lt
  have size := magnitude amount
  simp only [stringLiToStringYuan, string2Int64_writes writes]
  generalize (if amount < 0 then (0 - amount).toUInt64 else amount.toUInt64) = word at size
  have units : (itostr (word / 1000)).toList = Nat.toDigits 10 (amount.toInt.natAbs / 1000) := by
    rw [itostr_toList, UInt64.toNat_div, size]
    rfl
  have part : (word % 1000).toNat = amount.toInt.natAbs % 1000 := by
    rw [UInt64.toNat_mod, size]
    rfl
  have small : amount.toInt.natAbs % 1000 < 1000 := Nat.mod_lt _ (by decide)
  have front : ((if amount < 0 then "-" else "") ++ itostr (word / 1000)).toList =
      signed amount.toInt (Nat.toDigits 10 (amount.toInt.natAbs / 1000)) := by
    rw [String.toList_append, units, signed]
    simp only [below]
    split <;> rfl
  rw [part]
  generalize (if amount < 0 then "-" else "") ++ itostr (word / 1000) = start at front
  by_cases none : decimalLen = 0
  · have short : (0 : UInt32) ≠ 4294967295 := by decide
    have written : shown.toList = start.toList ↔ start = shown := by
      rw [String.toList_inj, eq_comm]
    have zero : UInt32.toNat 0 = 0 := rfl
    simp only [none, if_true, exists_const, Option.some.injEq, zero, unsigned, List.append_nil, ← front, written, ne_eq,
      short, not_false_eq_true, true_and]
  · have initial : reached (start ++ ".") (amount.toInt.natAbs % 1000) 0 =
        ⟨1, 1000, amount.toInt.natAbs % 1000, start ++ "."⟩ := by
      simp [reached, decimals]
    have some : decimalLen.toNat ≠ 0 := fun zero => none (UInt32.toNat_inj.mp zero)
    have loop := returns_decimals decimalLen (start ++ ".") small shown
    rw [initial] at loop
    simp only [if_neg none]
    rw [← Loop.Returns, loop, unsigned, if_neg some, ← String.toList_inj, String.toList_append, String.toList_append,
      front]
    simp only [signed, List.append_assoc, String.toList_ofList]
    rfl

/-! What the text says. -/

/-- The amount without its sign as the numeral it is written as. -/
def numeral (amount places : Nat) : Numeral :=
  if places = 0 then
    { whole := Nat.toDigits 10 (amount / 1000)
      fraction := []
      digits := by
        intro char member
        rw [List.append_nil] at member
        exact Nat.isDigit_of_mem_toDigits (by decide) (by decide) member
      written := by
        rw [List.append_nil]
        exact Nat.toDigits_ne_nil }
  else .fixed (amount / 1000) (min places 3) (amount % 1000 / 10 ^ (3 - min places 3)) (places - 3)

theorem numeral_spells (amount places : Nat) : (numeral amount places).Spells (unsigned amount places) := by
  rw [numeral, unsigned]
  split
  next => exact .inr ⟨rfl, List.append_nil _⟩
  next some =>
    left
    rw [decimals_eq (Nat.mod_lt _ (by decide)) (Nat.one_le_iff_ne_zero.mpr some)]
    rfl

theorem length_numeral (amount places : Nat) : (numeral amount places).fraction.length = places := by
  rw [numeral]
  split
  next none => exact none.symm
  next some =>
    have least := Nat.one_le_iff_ne_zero.mpr some
    rw [Numeral.length_fraction_fixed (by omega) (part_lt amount least)]
    omega

theorem value_numeral (amount places : Nat) : (numeral amount places).value = truncated places (amount / 1000) := by
  rw [numeral]
  split
  next none =>
    have cut := truncated_div 0 amount 1000
    rw [Nat.pow_zero, Nat.mul_one, pow_zero, div_one] at cut
    rw [none, Numeral.value]
    push_cast at cut
    simp [cut]
  next some => exact value_cut amount (places - 3) (Nat.one_le_iff_ne_zero.mpr some)

theorem prints_signed {shown : String} {amount : Int} {places : Nat}
    (same : shown.toList = signed amount (unsigned amount.natAbs places)) : Prints shown amount places :=
  ⟨numeral amount.natAbs places, length_numeral .., value_numeral .., _, numeral_spells .., same⟩

theorem spelled_alike {numeral : Numeral} {one two : List Char} (behind : numeral.fraction ≠ [])
    (first : numeral.Spells one) (second : numeral.Spells two) : one = two := by
  rcases first with rfl | ⟨none, _⟩
  · rcases second with rfl | ⟨none, _⟩
    · rfl
    · exact absurd none behind
  · exact absurd none behind

/-- With as many decimals as the other printer does not know, it writes three, and of
nothing none. -/
theorem iLiToStr_unknown {moneyLi : UInt64} {places : Nat} (unknown : places = 5 ∨ 7 ≤ places) :
    iLiToStr moneyLi places = if moneyLi = 0 then "0" else iLiToStr moneyLi 3 := by
  split
  next zero =>
    subst zero
    rcases unknown with rfl | many
    · rfl
    · obtain ⟨more, rfl⟩ := Nat.exists_eq_add_of_le' many
      rfl
  next nonzero =>
    unfold iLiToStr
    rw [if_neg nonzero, if_neg nonzero]
    rcases unknown with rfl | many
    · rfl
    · obtain ⟨more, rfl⟩ := Nat.exists_eq_add_of_le' many
      rfl

theorem printed_numeral (moneyLi : UInt64) {places : Nat} (known : places ∈ [1, 2, 3, 4, 6]) :
    printed moneyLi places = numeral moneyLi.toNat places := by
  have some : places ≠ 0 := by
    rintro rfl
    exact absurd known (by decide)
  have zeros : zerosBehind places = places - 3 := by
    simp only [List.mem_cons, List.not_mem_nil, or_false] at known
    rcases known with rfl | rfl | rfl | rfl | rfl <;> rfl
  rw [printed, numeral, if_neg some, zeros]

theorem iLiToStr_unsigned_iff (moneyLi : UInt64) (places : Nat) :
    (iLiToStr moneyLi places).toList = unsigned moneyLi.toNat places ↔
      places ∈ [0, 2, 3, 4, 6] ∨ places = 1 ∧ moneyLi ≠ 0 := by
  have wanted := numeral_spells moneyLi.toNat places
  have pointless (some : places ≠ 0) : ¬ (numeral moneyLi.toNat places).Spells ['0'] := by
    intro spells
    have none := congrArg List.length spells.parts.2
    rw [length_numeral] at none
    exact some none
  constructor
  · intro same
    rw [← same] at wanted
    by_cases five : places = 5 ∨ 7 ≤ places
    · have some : places ≠ 0 := by omega
      rw [iLiToStr_unknown five] at wanted
      split at wanted
      next => exact absurd wanted (pointless some)
      next nonzero =>
        have other := @iLiToStr_spells_nonzero moneyLi 3 (by decide) (by decide) nonzero
        have length := length_numeral moneyLi.toNat places
        rw [wanted.unique other, length_printed moneyLi (by decide)] at length
        have three : min 3 3 + zerosBehind 3 = 3 := rfl
        omega
    · by_cases one : places = 1
      · refine .inr ⟨one, ?_⟩
        rintro rfl
        subst one
        exact pointless (by decide) wanted
      · left
        simp only [List.mem_cons, List.not_mem_nil, or_false]
        omega
  · intro known
    by_cases none : places = 0
    · subst none
      rw [unsigned, if_pos rfl, List.append_nil]
      unfold iLiToStr
      split
      next zero =>
        subst zero
        rfl
      next =>
        simp only [String.append_empty, itostr_toList, UInt64.toNat_div]
        rfl
    · have five : places ∈ [1, 2, 3, 4, 6] := by
        simp only [List.mem_cons, List.not_mem_nil, or_false] at known ⊢
        omega
      have bounds : 1 ≤ places ∧ places ≤ 6 ∧ places ≠ 5 := by
        simp only [List.mem_cons, List.not_mem_nil, or_false] at five
        omega
      have behind : (numeral moneyLi.toNat places).fraction ≠ [] := by
        intro empty
        have length := length_numeral moneyLi.toNat places
        rw [empty] at length
        exact none length.symm
      have spells := @iLiToStr_spells moneyLi places bounds.1 bounds.2.1 (by
        intro zero
        refine ⟨?_, bounds.2.2⟩
        rintro rfl
        rcases known with other | ⟨_, nonzero⟩
        · exact absurd other (by decide)
        · exact nonzero zero)
      rw [printed_numeral moneyLi five] at spells
      exact spelled_alike behind spells wanted

/-- The amounts and numbers of decimals for which the text is right are those both
printers know. -/
theorem yuan_lawful_iff {text : String} {amount : Int64} (decimalLen : UInt32) (writes : Writes text amount.toInt) :
    Lawful text amount decimalLen ↔ Known amount decimalLen := by
  have below := amount.toInt_lt
  have word : 0 ≤ amount.toInt → amount.toUInt64.toNat = amount.toInt.natAbs := by
    intro nonneg
    have kept := magnitude amount
    rwa [if_neg (by rw [Int64.lt_iff_toInt_lt]; exact Int.not_lt.mpr nonneg)] at kept
  have nothing : amount = 0 ↔ amount.toUInt64 = 0 := by
    constructor
    · rintro rfl
      rfl
    · intro zero
      rw [← Int64.toInt64_toUInt64 amount, zero]
      rfl
  have unit : decimalLen = 1 ↔ decimalLen.toNat = 1 := UInt32.toNat_inj.symm
  have alike (nonneg : 0 ≤ amount.toInt) := iLiToStr_unsigned_iff amount.toUInt64 decimalLen.toNat
  constructor
  · intro ⟨shown, ends, prints, same⟩
    obtain ⟨short, written⟩ := (stringLiToStringYuan_iff decimalLen writes shown).mp ends
    refine ⟨short, ?_⟩
    by_cases negative : amount.toInt < 0
    · exact .inl negative
    · right
      have nonneg : 0 ≤ amount.toInt := Int.not_lt.mp negative
      rw [same nonneg, signed, if_neg negative, List.nil_append, ← word nonneg] at written
      rw [unit, ne_eq, nothing]
      exact (alike nonneg).mp written
  · intro ⟨short, known⟩
    refine ⟨String.ofList (signed amount.toInt (unsigned amount.toInt.natAbs decimalLen.toNat)), ?_, ?_, ?_⟩
    · exact (stringLiToStringYuan_iff decimalLen writes _).mpr ⟨short, String.toList_ofList⟩
    · exact prints_signed String.toList_ofList
    · intro nonneg
      rw [← String.toList_inj, String.toList_ofList, signed, if_neg (Int.not_lt.mpr nonneg), List.nil_append, ← word nonneg]
      refine ((alike nonneg).mpr ?_).symm
      rw [unit, ne_eq, nothing] at known
      rcases known with negative | rest
      · exact absurd negative (Int.not_lt.mpr nonneg)
      · exact rest

theorem yuan_lawful_negative : Lawful "-1500" (-1500) 5 := by
  have writes : Writes "-1500" (-1500) := by
    refine ⟨['1', '5', '0', '0'], ?_, ?_, ?_⟩
    · apply List.cons_ne_nil
    · simp [Char.isDigit]
    · exact .inr ⟨rfl, by decide⟩
  exact (@yuan_lawful_iff _ (-1500) 5 writes).mpr ⟨by decide, .inl (by decide)⟩

/-- Nothing in one decimal is a bare zero for the other printer. -/
theorem tenths_of_nothing : ¬ Lawful "0" 0 1 := by
  intro ⟨shown, _, ⟨numeral, length, _, text, spells, written⟩, same⟩
  have bare : shown = "0" := same (by decide)
  have zero : text = ['0'] := by
    rw [bare] at written
    exact written.symm
  rw [zero] at spells
  have none := congrArg List.length spells.parts.2
  rw [length] at none
  exact absurd none (by decide)

end Simutgw.Proofs.SignedMoney
