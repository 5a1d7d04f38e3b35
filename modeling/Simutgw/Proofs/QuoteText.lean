import Simutgw.Proofs.QuoteIsolation

/-! A quote written as text and decoded again. -/

namespace Simutgw.Proofs.QuoteText
open SofString TgwStringUtil AStockQuotationHelper Logic DecimalText MoneyText FlatObjects QuoteIsolation

/-! Numerals are written without escapes. -/

theorem digit_plain {char : Char} (digit : char.isDigit) : char ≠ '"' ∧ char ≠ '\\' ∧ ' ' ≤ char := by
  have bounds := digit
  simp only [Char.isDigit, Bool.and_eq_true, decide_eq_true_eq, ge_iff_le] at bounds
  refine ⟨?_, ?_, ?_⟩
  · rintro rfl
    exact absurd digit (by decide)
  · rintro rfl
    exact absurd digit (by decide)
  · have least : (48 : Nat) ≤ char.toNat := UInt32.le_iff_toNat_le.mp bounds.1
    exact Char.le_def.mpr (UInt32.le_iff_toNat_le.mpr (Nat.le_trans (by decide) least))

theorem numeral_plain {numeral : Numeral} {text : String} (spells : numeral.Spells text.toList) : Plain text := by
  intro char member
  have digits := numeral.digits
  rcases spells with dotted | ⟨none, whole⟩
  · rw [dotted, List.mem_append, List.mem_cons] at member
    rcases member with before | rfl | after
    · exact digit_plain (digits char (List.mem_append_left _ before))
    · decide
    · exact digit_plain (digits char (List.mem_append_right _ after))
  · rw [whole] at member
    exact digit_plain (digits char (List.mem_append_left _ member))

/-! Whole numbers in front of a point. -/

theorem leadingDigits_numeral {numeral : Numeral} {text : List Char} (spells : numeral.Spells text) :
    leadingDigits text = Nat.ofDigitChars 10 numeral.whole 0 := by
  have digits : ∀ char ∈ numeral.whole, char.isDigit := fun char member =>
    numeral.digits char (List.mem_append_left _ member)
  rcases spells with rfl | ⟨_, rfl⟩
  · rw [leadingDigits, List.takeWhile_append_of_pos digits, List.takeWhile_cons, if_neg (by decide), List.append_nil]
  · exact leadingDigits_digits digits

/-- What stands behind the point is not read. -/
theorem string2UInt64_numeral {numeral : Numeral} {text : String} (spells : numeral.Spells text.toList)
    (fits : Nat.ofDigitChars 10 numeral.whole 0 < 2 ^ 63) :
    (string2UInt64 text).toNat = Nat.ofDigitChars 10 numeral.whole 0 := by
  have nonempty : text.isEmpty = false := by
    rw [← Bool.not_eq_true, String.isEmpty_iff]
    intro empty
    rw [empty] at spells
    obtain ⟨whole, fraction⟩ := spells.parts
    exact numeral.written (by rw [whole, fraction]; rfl)
  obtain ⟨solid, minus, plus⟩ := unsigned_numeral spells
  have low : ¬ (Nat.ofDigitChars 10 numeral.whole 0 : Int) < -2 ^ 63 := by omega
  have high : ¬ (2 : Int) ^ 63 ≤ Nat.ofDigitChars 10 numeral.whole 0 := by omega
  have word : ((Nat.ofDigitChars 10 numeral.whole 0 : Int) % 2 ^ 64).toNat = Nat.ofDigitChars 10 numeral.whole 0 := by
    omega
  rw [string2UInt64, nonempty, if_neg Bool.false_ne_true]
  simp only [strtoll, solid, leadingDigits_numeral spells]
  rw [if_neg low, if_neg high, UInt64.ofInt, word, UInt64.toNat_ofNat_of_lt' (Nat.lt_trans fits (by decide))]

theorem volume_spells (val : UInt64) : (Numeral.fixed val.toNat 2 0 0).Spells (itostr val ++ ".00").toList := by
  left
  rw [String.toList_append, itostr_toList, Numeral.fixed]
  rfl

theorem volume_reread {val : UInt64} (fits : val.toNat < 2 ^ 63) : string2UInt64 (itostr val ++ ".00") = val := by
  have whole : Nat.ofDigitChars 10 (Numeral.fixed val.toNat 2 0 0).whole 0 = val.toNat := Nat.ofDigitChars_ten_toDigits
  apply UInt64.toNat_inj.mp
  rw [string2UInt64_numeral (volume_spells val) (by omega), whole]

/-- A size is written as if it were an amount of money, a thousandth of itself. -/
theorem size_reread {val : UInt64} (fits : val.toNat < 2 ^ 63) :
    (string2UInt64 (iLiToStr val 2)).toNat = val.toNat / 1000 := by
  have whole : Nat.ofDigitChars 10 (printed val 2).whole 0 = val.toNat / 1000 := Nat.ofDigitChars_ten_toDigits
  have spells := @iLiToStr_spells val 2 (by decide) (by decide) fun _ => ⟨by decide, by decide⟩
  rw [string2UInt64_numeral spells (by omega), whole]

theorem size_kept_iff {val : UInt64} (fits : val.toNat < 2 ^ 63) :
    string2UInt64 (iLiToStr val 2) = val ↔ val = 0 := by
  rw [← UInt64.toNat_inj, size_reread fits, ← UInt64.toNat_inj, UInt64.toNat_zero]
  omega

theorem money_reread (moneyLi : UInt64) {decimalLen : Nat} (three : 3 ≤ decimalLen) (most : decimalLen ≤ 6)
    (five : decimalLen ≠ 5) : string2UInt64MoneyInLi (iLiToStr moneyLi decimalLen) = moneyLi := by
  have spells := @iLiToStr_spells moneyLi decimalLen (by omega) most fun _ => ⟨by omega, five⟩
  have same := value_mul_printed moneyLi three
  have read := string2UInt64MoneyInLi_numeral spells (by rw [same]; exact moneyLi.toNat_lt)
  exact UInt64.toNat_inj.mp (read.trans same)

/-- A limit is written with four decimals, and the texts for none have six. -/
theorem limit_reread (moneyLi : UInt64) :
    limitOf noUpperLimit (iLiToStr moneyLi 4) = moneyLi ∧ limitOf noLowerLimit (iLiToStr moneyLi 4) = moneyLi := by
  have spells := @iLiToStr_spells moneyLi 4 (by decide) (by decide) fun _ => ⟨by decide, by decide⟩
  have four := @length_printed moneyLi 4 (by decide)
  rw [spells.parts.2] at four
  have upper : iLiToStr moneyLi 4 ≠ noUpperLimit := by
    intro same
    rw [same] at four
    exact absurd four (by decide +kernel)
  have lower : iLiToStr moneyLi 4 ≠ noLowerLimit := by
    intro same
    rw [same] at four
    exact absurd four (by decide +kernel)
  rw [limitOf, limitOf, if_neg upper, if_neg lower]
  exact ⟨money_reread moneyLi (by decide) (by decide) (by decide), money_reread moneyLi (by decide) (by decide) (by decide)⟩

/-! What is written. -/

/-- The texts need no escapes, and the numbers fit 63 bits. -/
structure Sendable (quot : QuotContent) : Prop where
  plain : ∀ text ∈ [quot.zqdm, quot.zqmc, quot.tpbz, quot.hqktype, quot.hqsj], Plain text
  fits : ∀ amount ∈ [quot.maxgain, quot.minfall, quot.zjjg, quot.cjsl, quot.cjje, quot.sjw1, quot.ssl1, quot.bjw1,
    quot.bsl1], amount.toNat < 2 ^ 63
  ratios : ∀ ratio ∈ [quot.syl1, quot.syl2], toInt64 ratio ≠ none

theorem members_plain {quot : QuotContent} (sendable : Sendable quot) (syl1 syl2 : Int64) :
    ∀ member ∈ redisMembers quot syl1 syl2, Plain member.1 ∧ Plain member.2 := by
  have money (moneyLi : UInt64) {decimalLen : Nat} (even : decimalLen = 2 ∨ decimalLen = 4 ∨ decimalLen = 6) :
      Plain (iLiToStr moneyLi decimalLen) :=
    numeral_plain (@iLiToStr_spells moneyLi decimalLen (by omega) (by omega) fun _ => ⟨by omega, by omega⟩)
  have count (val : UInt64) : Plain (itostr val) := by
    intro char member
    rw [itostr_toList] at member
    exact digit_plain (Nat.isDigit_of_mem_toDigits (by decide) (by decide) member)
  have keys : ∀ key ∈ (redisMembers quot syl1 syl2).map Prod.fst, Plain key := by
    simp only [redisMembers, List.map_cons, List.map_nil]
    decide +kernel
  have values : ∀ member ∈ redisMembers quot syl1 syl2, Plain member.2 := by
    have texts := sendable.plain
    have two := fun moneyLi => money moneyLi (.inl rfl)
    have four := fun moneyLi => money moneyLi (.inr (.inl rfl))
    have six := fun moneyLi => money moneyLi (.inr (.inr rfl))
    have volume := numeral_plain (volume_spells quot.cjsl)
    simp only [List.forall_mem_cons] at texts
    simp only [redisMembers, List.forall_mem_cons, two, four, six, count, volume, texts, true_and]
    simp
  intro member inside
  exact ⟨keys member.1 (List.mem_map_of_mem inside), values member inside⟩

/-- What the decoder reads of it. -/
def shown (quot : QuotContent) : Reading where
  zqdm := quot.zqdm
  hqsj := quot.hqsj
  mdStreamID := none
  hqktype := quot.hqktype
  tpbz := quot.tpbz
  upper := some (iLiToStr quot.maxgain 4)
  lower := some (iLiToStr quot.minfall 4)
  zjjg := string2UInt64MoneyInLi (iLiToStr quot.zjjg 6)
  cjsl := string2UInt64 (itostr quot.cjsl ++ ".00")
  cjje := string2UInt64MoneyInLi (iLiToStr quot.cjje 4)
  sjw1 := string2UInt64MoneyInLi (iLiToStr quot.sjw1 6)
  ssl1 := string2UInt64 (iLiToStr quot.ssl1 2)
  bjw1 := string2UInt64MoneyInLi (iLiToStr quot.bjw1 6)
  bsl1 := string2UInt64 (iLiToStr quot.bsl1 2)

theorem reading_members (quot : QuotContent) (syl1 syl2 : Int64) :
    reading ((redisMembers quot syl1 syl2).map fun member => (member.1, .text member.2)) = .ok (shown quot) := by
  simp [reading, mustText, textMember, amount, count, redisMembers, List.lookup_cons, shown]
  rfl

/-- Written and decoded again, a quote has every field back that the decoder fills. -/
structure SameQuote (quot decoded : QuotContent) : Prop where
  zqdm : decoded.zqdm = quot.zqdm
  hqsj : decoded.hqsj = quot.hqsj
  tpbz : decoded.tpbz = quot.tpbz
  hqktype : decoded.hqktype = quot.hqktype
  maxgain : decoded.maxgain = quot.maxgain
  minfall : decoded.minfall = quot.minfall
  zjjg : decoded.zjjg = quot.zjjg
  cjsl : decoded.cjsl = quot.cjsl
  cjje : decoded.cjje = quot.cjje
  sjw1 : decoded.sjw1 = quot.sjw1
  ssl1 : decoded.ssl1 = quot.ssl1
  bjw1 : decoded.bjw1 = quot.bjw1
  bsl1 : decoded.bsl1 = quot.bsl1

def Returns (parse : String → Document) (quot prior : QuotContent) : Prop :=
  ∃ text decoded, toRedisString quot = some text ∧ decodeJsonStr parse text prior = .ok decoded ∧
    SameQuote quot decoded

theorem written_decoded {parse : String → Document} (parses : ParsesFlat parse) {quot : QuotContent}
    (sendable : Sendable quot) (prior : QuotContent) : ∃ text, toRedisString quot = some text ∧
      decodeJsonStr parse text prior = .ok (filled text prior (shown quot)) := by
  obtain ⟨syl1, first⟩ := Option.ne_none_iff_exists'.mp (sendable.ratios quot.syl1 (by simp))
  obtain ⟨syl2, second⟩ := Option.ne_none_iff_exists'.mp (sendable.ratios quot.syl2 (by simp))
  have object := parses (redisMembers quot syl1 syl2) (List.cons_ne_nil _ _) (members_plain sendable syl1 syl2)
  have nonempty : (written (redisMembers quot syl1 syl2)).isEmpty = false := by
    rw [← Bool.not_eq_true, String.isEmpty_iff]
    intro empty
    simp [written] at empty
  refine ⟨written (redisMembers quot syl1 syl2), ?_, ?_⟩
  · simp [toRedisString, first, second]
  · rw [decode_eq _ parse nonempty object, reading_members]
    rfl

theorem shown_same_iff {quot : QuotContent} (sendable : Sendable quot) (text : String) (prior : QuotContent) :
    SameQuote quot (filled text prior (shown quot)) ↔ quot.ssl1 = 0 ∧ quot.bsl1 = 0 := by
  have fits := sendable.fits
  constructor
  · intro same
    exact ⟨(size_kept_iff (fits quot.ssl1 (by simp))).mp same.ssl1, (size_kept_iff (fits quot.bsl1 (by simp))).mp same.bsl1⟩
  · intro ⟨sell, buy⟩
    have four := fun moneyLi => @money_reread moneyLi 4 (by decide) (by decide) (by decide)
    have six := fun moneyLi => @money_reread moneyLi 6 (by decide) (by decide) (by decide)
    exact {
      zqdm := rfl, hqsj := rfl, tpbz := rfl, hqktype := rfl
      maxgain := (limit_reread quot.maxgain).1, minfall := (limit_reread quot.minfall).2
      zjjg := six quot.zjjg, cjje := four quot.cjje, sjw1 := six quot.sjw1, bjw1 := six quot.bjw1
      cjsl := volume_reread (fits quot.cjsl (by simp))
      ssl1 := (size_kept_iff (fits quot.ssl1 (by simp))).mpr sell
      bsl1 := (size_kept_iff (fits quot.bsl1 (by simp))).mpr buy }

theorem returns_shown_iff {parse : String → Document} (parses : ParsesFlat parse) {quot : QuotContent}
    (sendable : Sendable quot) (prior : QuotContent) :
    ∃ text, Returns parse quot prior ↔ SameQuote quot (filled text prior (shown quot)) := by
  obtain ⟨text, sent, decoded⟩ := written_decoded parses sendable prior
  refine ⟨text, ?_, fun equal => ⟨text, _, sent, decoded, equal⟩⟩
  intro ⟨other, result, same, read, equal⟩
  rw [sent] at same
  cases same
  rw [decoded] at read
  cases read
  exact equal

/-- The two sizes come back a thousandth of themselves, and everything else as it was. -/
theorem returns_iff {parse : String → Document} (parses : ParsesFlat parse) {quot : QuotContent}
    (sendable : Sendable quot) (prior : QuotContent) :
    Returns parse quot prior ↔ quot.ssl1 = 0 ∧ quot.bsl1 = 0 := by
  obtain ⟨text, shows⟩ := returns_shown_iff parses sendable prior
  rw [shows, shown_same_iff sendable]

/-- A quote with one price on each side. -/
def sample (size : UInt64) : QuotContent := { emptied with
  zqdm := "600000", hqsj := "20170629091921000", tpbz := "F", hqktype := "SHHQ", maxgain := 11000, minfall := 9000
  zjjg := 10000, cjsl := 100, cjje := 1000000, sjw1 := 10010, ssl1 := size, bjw1 := 9990, bsl1 := size }

theorem sample_sendable {size : UInt64} (fits : size.toNat < 2 ^ 63) : Sendable (sample size) := by
  refine ⟨?_, ?_, ?_⟩
  · simp only [sample, emptied]
    decide +kernel
  · simpa [sample] using fits
  · simp [sample, emptied, toInt64]

theorem returns_unoffered : Returns flatDocument (sample 0) emptied ↔ (sample 0).ssl1 = 0 ∧ (sample 0).bsl1 = 0 :=
  returns_iff flatDocument_flat (sample_sendable (by decide)) emptied

/-- Three hundred on offer are written as 0.30. -/
theorem sizes_divided : ¬ ∀ quot prior, Sendable quot → Returns flatDocument quot prior := by
  intro returns
  have sendable := @sample_sendable 300 (by decide)
  obtain ⟨text, shows⟩ := returns_shown_iff flatDocument_flat sendable emptied
  have size := ((shown_same_iff sendable text emptied).mp (shows.mp (returns _ _ sendable))).1
  exact absurd size (by decide)

end Simutgw.Proofs.QuoteText
