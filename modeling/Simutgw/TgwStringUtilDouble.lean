import Mathlib.Data.Rat.Floor
import Simutgw.TgwStringUtil

/-! Doubles as text. A double is taken for the rational number it holds, and its
products are exact. -/

namespace Simutgw.TgwStringUtil
open SofString

/-- The conversion to a signed word drops the fraction, and is undefined where the rest
does not fit. -/
def toInt64 (x : ℚ) : Option Int64 :=
  let whole := if 0 ≤ x then ⌊x⌋ else ⌈x⌉
  if -2 ^ 63 ≤ whole ∧ whole < 2 ^ 63 then some (Int64.ofInt whole) else none

/-- What each case of the switch appends: the decimals its scale leaves, as they are
printed, or its zeros. -/
def afterPoint (in_dValue : ℚ) (scale : Int64) (zeros : String) : Option String := do
  let iAfterPoint ← toInt64 (in_dValue * scale.toInt)
  let iAfterPoint := iAfterPoint % scale
  if 0 = iAfterPoint then
    return zeros
  else
    let strAfterPoint ← itostrInt64 iAfterPoint ""
    return "." ++ strAfterPoint

def doubleToString (in_dValue : ℚ) (uiDecimalLen : Nat) : Option String := do
  let iBeforePoint ← toInt64 in_dValue
  let strBeforePoint ← itostrInt64 iBeforePoint ""
  let strAfterPoint ←
    match uiDecimalLen with
    | 1 => afterPoint in_dValue 10 ".0"
    | 2 => afterPoint in_dValue 100 ".00"
    | 3 => afterPoint in_dValue 1000 ".000"
    | _ => afterPoint in_dValue 1000 ".000"
  return strBeforePoint ++ strAfterPoint

/-- The power of ten behind the digits. -/
def exponent : List Char → Int
  | 'e' :: rest | 'E' :: rest =>
    match rest with
    | '-' :: rest => -leadingDigits rest
    | rest => leadingDigits (match rest with | '+' :: rest => rest | rest => rest)
  | _ => 0

/-- The digits in front, with a point among them, and their power of ten. -/
def magnitude (text : List Char) : ℚ :=
  let whole := text.takeWhile Char.isDigit
  let (fraction, rest) :=
    match text.dropWhile Char.isDigit with
    | '.' :: rest => (rest.takeWhile Char.isDigit, rest.dropWhile Char.isDigit)
    | rest => ([], rest)
  (Nat.ofDigitChars 10 (whole ++ fraction) 0 : ℚ) / 10 ^ fraction.length * 10 ^ exponent rest

/-- The C library's conversion to a double, for the doubles that are numbers written in
decimals; without digits it is zero. -/
def atof (text : List Char) : ℚ :=
  match text.dropWhile isSpace with
  | '-' :: rest => -magnitude rest
  | '+' :: rest => magnitude rest
  | rest => magnitude rest

def string2DoubleAtof (text : String) : ℚ := if text.isEmpty then 0 else atof text.toList

end Simutgw.TgwStringUtil
