import Mathlib.Data.List.Lex
import Mathlib.Data.List.Forall2
import Simutgw.Logic.Digits

/-! The clock of the machine as the stamp the Binary protocol carries, and as the texts
that rows have. -/

namespace Simutgw.TimeStringUtil

/-- What `localtime` breaks a time into: years count from 1900, months from zero. -/
structure Tm where
  tmYear : Int
  tmMon : Int
  tmMday : Int
  tmHour : Int
  tmMin : Int
  tmSec : Int

def ciTen13 : Int64 := 100000 * 100000 * 1000
def ciTen11 : Int64 := 100000 * 100000 * 10
def ciTen9 : Int64 := 100000 * 10000
def ciTen7 : Int64 := 100000 * 100
def ciTen5 : Int64 := 100000
-- The weight of the seconds has a zero more than its name says.
def ciTen3 : Int64 := 10000

/-- Every field is added to what the caller's variable holds, which is never cleared.
A sum beyond the word wraps. -/
def getCurrTimeBinaryLocalTimeStampType (timeinfo : Tm) (outTime : Int64) : Int64 :=
  let outTime := outTime + Int64.ofInt (timeinfo.tmYear + 1900) * ciTen13
  let outTime := outTime + Int64.ofInt (timeinfo.tmMon + 1) * ciTen11
  let outTime := outTime + Int64.ofInt timeinfo.tmMday * ciTen9
  let outTime := outTime + Int64.ofInt timeinfo.tmHour * ciTen7
  let outTime := outTime + Int64.ofInt timeinfo.tmMin * ciTen5
  outTime + Int64.ofInt timeinfo.tmSec * ciTen3

/-- The conversion `%0d` of a width, whose sign is one of the places. -/
def zeroPadded (width : Nat) (value : Int) : String :=
  String.ofList (if value < 0 then '-' :: Logic.padded (width - 1) value.natAbs else Logic.padded width value.natAbs)

def getTimeInYYYYMMDD (timeinfo : Tm) : String :=
  zeroPadded 4 (timeinfo.tmYear + 1900) ++ zeroPadded 2 (timeinfo.tmMon + 1) ++ zeroPadded 2 timeinfo.tmMday

def getTimeInTimeC8 (timeinfo : Tm) : String :=
  zeroPadded 2 timeinfo.tmHour ++ ":" ++ zeroPadded 2 timeinfo.tmMin ++ ":" ++ zeroPadded 2 timeinfo.tmSec

def getTimeInTimeC6 (timeinfo : Tm) : String :=
  zeroPadded 2 timeinfo.tmHour ++ zeroPadded 2 timeinfo.tmMin ++ zeroPadded 2 timeinfo.tmSec

/-- A time of the calendar, in the ranges the format gives its fields: the last second
is a leap second. -/
structure CalendarTime where
  year : Nat
  month : Nat
  day : Nat
  hour : Nat
  minute : Nat
  second : Nat
  year_le : year ≤ 9999
  month_ge : 1 ≤ month
  month_le : month ≤ 12
  day_ge : 1 ≤ day
  day_le : day ≤ 31
  hour_le : hour ≤ 23
  minute_le : minute ≤ 59
  second_le : second ≤ 60

namespace CalendarTime

/-- The time as `localtime` gives it. -/
def tm (time : CalendarTime) : Tm where
  tmYear := time.year - 1900
  tmMon := time.month - 1
  tmMday := time.day
  tmHour := time.hour
  tmMin := time.minute
  tmSec := time.second

/-- The fields in the order in which they decide which of two times is the later. -/
def fields (time : CalendarTime) : List Nat :=
  [time.year, time.month, time.day, time.hour, time.minute, time.second]

/-- How many values the digits of each field can tell apart. -/
def bases : List Nat := [10000, 100, 100, 100, 100, 100]

theorem fields_within (time : CalendarTime) : List.Forall₂ (· < ·) time.fields bases := by
  have year := time.year_le
  have month := time.month_le
  have day := time.day_le
  have hour := time.hour_le
  have minute := time.minute_le
  have second := time.second_le
  simp only [fields, bases, List.forall₂_cons, List.forall₂_nil_left_iff, and_true]
  omega

end CalendarTime

end Simutgw.TimeStringUtil
