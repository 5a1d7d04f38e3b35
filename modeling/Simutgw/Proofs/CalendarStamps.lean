import Simutgw.Logic.Digits
import Simutgw.Logic.Radix
import Simutgw.TimeStringUtil

/-! The stamp of a calendar time. Its digits spell the fields only while what the caller's
variable held and the tenfold weight of the seconds together stay within the milliseconds. -/

namespace Simutgw.Proofs.CalendarStamps
open TimeStringUtil Logic

/-- YYYYMMDDHHMMSSsss. -/
def digits (time : CalendarTime) (millis : Nat) : List Char :=
  padded 4 time.year ++ padded 2 time.month ++ padded 2 time.day ++ padded 2 time.hour ++
    padded 2 time.minute ++ padded 2 time.second ++ padded 3 millis

/-- The fields read back from the digits of a stamp. -/
def fieldsOf (stamp : Nat) : List Nat :=
  [stamp / 10 ^ 13, stamp / 10 ^ 11 % 100, stamp / 10 ^ 9 % 100, stamp / 10 ^ 7 % 100,
    stamp / 10 ^ 5 % 100, stamp / 10 ^ 3 % 100]

/-- A stamp that spells the time, with some milliseconds behind it. -/
structure Spells (stamp : Int64) (time : CalendarTime) : Prop where
  nonneg : 0 ≤ stamp.toInt
  read : ∃ millis < 1000, padded 17 stamp.toInt.toNat = digits time millis
  back : fieldsOf stamp.toInt.toNat = time.fields

/-- The stamp of a time, taken into a variable that holds something already. -/
def stamp (time : CalendarTime) (outTime : Int64) : Int64 :=
  getCurrTimeBinaryLocalTimeStampType time.tm outTime

/-- Two stamps that spell their times, the greater one the later. -/
structure Stamped (time other : CalendarTime) (outTime outOther : Int64) : Prop where
  spells : Spells (stamp time outTime) time
  spells_other : Spells (stamp other outOther) other
  before : time.fields < other.fields → (stamp time outTime).toInt < (stamp other outOther).toInt
  after : other.fields < time.fields → (stamp other outOther).toInt < (stamp time outTime).toInt

/-- The seconds weigh nine thousand more than their place does; together with what the
variable held this must stay below a second. -/
def FitsMillis (time : CalendarTime) (outTime : Int64) : Prop :=
  0 ≤ outTime.toInt + 9000 * time.second ∧ outTime.toInt + 9000 * time.second < 1000

/-- The time as a number, without milliseconds. -/
def seconds (time : CalendarTime) : Nat := radix CalendarTime.bases time.fields

theorem seconds_eq (time : CalendarTime) : seconds time = time.year * 10 ^ 10 + time.month * 10 ^ 8 +
    time.day * 10 ^ 6 + time.hour * 10 ^ 4 + time.minute * 10 ^ 2 + time.second := by
  simp only [seconds, CalendarTime.bases, CalendarTime.fields, radix, List.prod_cons, List.prod_nil]
  omega

theorem seconds_lt (time : CalendarTime) : seconds time < 10 ^ 14 := by
  exact radix_lt time.fields_within

theorem weights : ciTen13 = Int64.ofInt 10000000000000 ∧ ciTen11 = Int64.ofInt 100000000000 ∧
    ciTen9 = Int64.ofInt 1000000000 ∧ ciTen7 = Int64.ofInt 10000000 ∧ ciTen5 = Int64.ofInt 100000 ∧
    ciTen3 = Int64.ofInt 10000 := by
  decide

theorem stamp_toInt (time : CalendarTime) (outTime : Int64) : (stamp time outTime).toInt =
    (outTime.toInt + 9000 * time.second + 1000 * seconds time).bmod (2 ^ 64) := by
  have sum : outTime.toInt + 9000 * time.second + 1000 * seconds time =
      outTime.toInt + (time.year - 1900 + 1900) * 10000000000000 + (time.month - 1 + 1) * 100000000000 +
        time.day * 1000000000 + time.hour * 10000000 + time.minute * 100000 + time.second * 10000 := by
    rw [seconds_eq]
    omega
  obtain ⟨ten13, ten11, ten9, ten7, ten5, ten3⟩ := weights
  have word : stamp time outTime = Int64.ofInt (outTime.toInt + 9000 * time.second + 1000 * seconds time) := by
    rw [sum, stamp, getCurrTimeBinaryLocalTimeStampType, ten13, ten11, ten9, ten7, ten5, ten3]
    simp only [CalendarTime.tm, Int64.ofInt_add, Int64.ofInt_mul, Int64.ofInt_toInt]
  rw [word, Int64.toInt_ofInt]
  rfl

theorem digits_eq (time : CalendarTime) {millis : Nat} (few : millis < 1000) :
    digits time millis = padded 17 (1000 * seconds time + millis) := by
  have year := time.year_le
  have month := time.month_le
  have day := time.day_le
  have hour := time.hour_le
  have minute := time.minute_le
  have second := time.second_le
  have whole := seconds_eq time
  rw [digits, padded_append, padded_append, padded_append, padded_append, padded_append, padded_append]
  · apply congrArg (padded 17)
    omega
  all_goals omega

theorem fieldsOf_eq (time : CalendarTime) {millis : Nat} (few : millis < 1000) :
    fieldsOf (1000 * seconds time + millis) = time.fields := by
  have month := time.month_le
  have day := time.day_le
  have hour := time.hour_le
  have minute := time.minute_le
  have second := time.second_le
  have whole := seconds_eq time
  simp only [fieldsOf, CalendarTime.fields, List.cons.injEq, and_true]
  omega

theorem spells_iff (stamp : Int64) (time : CalendarTime) :
    Spells stamp time ↔ ∃ millis < 1000, stamp.toInt = (1000 * seconds time + millis : Nat) := by
  constructor
  · intro ⟨nonneg, ⟨millis, few, read⟩, _⟩
    refine ⟨millis, few, ?_⟩
    have number := congrArg (Nat.ofDigitChars 10 · 0) (read.trans (digits_eq time few))
    simp only [ofDigitChars_padded] at number
    omega
  · intro ⟨millis, few, same⟩
    have number : stamp.toInt.toNat = 1000 * seconds time + millis := by omega
    refine ⟨by omega, ⟨millis, few, ?_⟩, ?_⟩
    · rw [number, digits_eq time few]
    · rw [number, fieldsOf_eq time few]

theorem spells_stamp_iff (time : CalendarTime) (outTime : Int64) :
    Spells (stamp time outTime) time ↔ FitsMillis time outTime := by
  have small := seconds_lt time
  have low := outTime.le_toInt
  have high := outTime.toInt_lt
  have second := time.second_le
  rw [spells_iff, stamp_toInt, FitsMillis, Int.bmod_def]
  constructor
  · intro ⟨millis, few, same⟩
    split at same <;> omega
  · intro ⟨nonneg, few⟩
    refine ⟨(outTime.toInt + 9000 * time.second).toNat, by omega, ?_⟩
    split <;> omega

/-- The stamps spell their times and stand in their order exactly when what is too much in
each fits its milliseconds. -/
theorem stamped_iff (time other : CalendarTime) (outTime outOther : Int64) :
    Stamped time other outTime outOther ↔ FitsMillis time outTime ∧ FitsMillis other outOther := by
  constructor
  · intro stamped
    exact ⟨(spells_stamp_iff time outTime).mp stamped.spells, (spells_stamp_iff other outOther).mp stamped.spells_other⟩
  · intro ⟨here, there⟩
    have one := (spells_stamp_iff time outTime).mpr here
    have two := (spells_stamp_iff other outOther).mpr there
    obtain ⟨millis, few, same⟩ := (spells_iff _ time).mp one
    obtain ⟨rest, little, alike⟩ := (spells_iff _ other).mp two
    refine ⟨one, two, ?_, ?_⟩
    · intro before
      have less : seconds time < seconds other := radix_lt_radix time.fields_within other.fields_within before
      rw [same, alike]
      omega
    · intro after
      have less : seconds other < seconds time := radix_lt_radix other.fields_within time.fields_within after
      rw [same, alike]
      omega

def halfMinute : CalendarTime where
  year := 2017
  month := 5
  day := 12
  hour := 12
  minute := 0
  second := 30
  year_le := by decide
  month_ge := by decide
  month_le := by decide
  day_ge := by decide
  day_le := by decide
  hour_le := by decide
  minute_le := by decide
  second_le := by decide

def twoMinutes : CalendarTime := { halfMinute with minute := 2, minute_le := by decide, second := 0, second_le := by decide }

/-- Thirty seconds count as three minutes: the stamp of 12:00:30 spells 12:03:00 and is
greater than that of 12:02:00. -/
theorem seconds_as_minutes : halfMinute.fields < twoMinutes.fields ∧
    fieldsOf (stamp halfMinute 0).toInt.toNat = [2017, 5, 12, 12, 3, 0] ∧
    ¬ Stamped halfMinute twoMinutes 0 0 := by
  have before : halfMinute.fields < twoMinutes.fields := by decide
  refine ⟨before, by decide, ?_⟩
  intro stamped
  exact absurd (stamped.before before) (by decide)

end Simutgw.Proofs.CalendarStamps
