import Simutgw.Logic.Replacement
import Simutgw.SofString

/-! The gateway's conversions between text and numbers. -/

namespace Simutgw.TgwStringUtil
open SofString Logic

/-- The white space `strtoll` skips. -/
def isSpace (char : Char) : Bool :=
  char == ' ' || ('\t' ≤ char && char ≤ '\r')

def leadingDigits (text : List Char) : Int :=
  Nat.ofDigitChars 10 (text.takeWhile Char.isDigit) 0

/-- The C library's conversion to a signed word: an optional sign, the digits up
to the first other character, and the nearest bound where they do not fit. -/
def strtoll (text : List Char) : Int :=
  let value :=
    match text.dropWhile isSpace with
    | '-' :: rest => -leadingDigits rest
    | '+' :: rest => leadingDigits rest
    | rest => leadingDigits rest
  if value < -2 ^ 63 then -2 ^ 63
  else if 2 ^ 63 ≤ value then 2 ^ 63 - 1
  else value

/-- The conversion cannot fail: `strtoll` throws nothing. -/
def string2UInt64 (text : String) : UInt64 :=
  if text.isEmpty then 0 else UInt64.ofInt (strtoll text.toList)

/-- The same for a signed word. -/
def string2Int64 (text : String) : Int64 :=
  if text.isEmpty then 0 else Int64.ofInt (strtoll text.toList)

/-- The conversion to an unsigned word: a minus sign turns the magnitude around. -/
def strtoull (text : List Char) : UInt64 :=
  let word (magnitude : Int) : UInt64 := if 2 ^ 64 ≤ magnitude then 18446744073709551615 else UInt64.ofInt magnitude
  match text.dropWhile isSpace with
  | '-' :: rest => if 2 ^ 64 ≤ leadingDigits rest then word (leadingDigits rest) else -word (leadingDigits rest)
  | '+' :: rest => word (leadingDigits rest)
  | rest => word (leadingDigits rest)

/-- `atoi`, which keeps the low word of what `strtol` reads. -/
def string2IntAtoi (text : String) : Int :=
  if text.isEmpty then 0 else (strtoll text.toList).bmod (2 ^ 32)

/-- An amount of money read in thousandths: what stands before the first point, and
the first three characters after it one by one. -/
def string2UInt64MoneyInLi (text : String) : UInt64 :=
  let after (segment : List Char) (place : Nat) : UInt64 :=
    match segment[place]? with
    | none => 0
    | some char => UInt64.ofInt (strtoll [char])
  match text.toList.splitOn '.' with
  | before :: segment :: _ =>
    strtoull before * 1000 + (after segment 0 * 100 + after segment 1 * 10 + after segment 2)
  | [before] => strtoull before * 1000
  | [] => 0

/-- The same as its callers see it: what it returns, and the amount it leaves in `out`.
Neither C conversion throws, and a split has at least one segment. -/
def string2UInt64MoneyInLiStrtoui64 (text : String) (out : UInt64) : Int × UInt64 :=
  if text.isEmpty then (0, 0)
  else
    match text.toList.splitOn '.' with
    | [] => (-1, out)
    | _ => (0, string2UInt64MoneyInLi text)

/-- A money amount in thousandths, printed in units with this many decimals. -/
def iLiToStr (moneyLi : UInt64) (decimalLen : Nat) : String :=
  if moneyLi = 0 then
    match decimalLen with
    | 0 => "0"
    | 2 => "0.00"
    | 3 => "0.000"
    | 4 => "0.0000"
    | 6 => "0.000000"
    | _ => "0"
  else
    let yuan := itostr (moneyLi / 1000)
    let li := moneyLi % 1000
    let part :=
      match decimalLen with
      | 0 => ""
      | 1 => "." ++ itostr (li / 100)
      | 2 =>
        let after := li / 10
        if 10 ≤ after then "." ++ itostr after else ".0" ++ itostr after
      | _ =>
        if 100 ≤ li then "." ++ itostr li
        else if 10 ≤ li then ".0" ++ itostr li
        else ".00" ++ itostr li
    let tail :=
      match decimalLen with
      | 4 => "0"
      | 6 => "000"
      | _ => ""
    yuan ++ part ++ tail

/-- What the loop over the decimals works on. -/
structure Decimals where
  i : UInt32
  iTenLv : Nat
  uiDecimalBase : Nat
  ioStrValue : String

/-- One pass. The counter wraps behind the last word, and the power of ten is then
divided down to zero before something is divided by it. -/
def decimalPass (decimalLen : UInt32) : Loop Decimals String := fun state =>
  if state.i ≤ decimalLen then
    if state.i ≤ 3 then
      let iTenLv := state.iTenLv / 10
      if iTenLv = 0 then .undefined
      else
        .again {
          i := state.i + 1
          iTenLv
          uiDecimalBase := state.uiDecimalBase % iTenLv
          ioStrValue := state.ioStrValue ++ itostr (UInt64.ofNat (state.uiDecimalBase / iTenLv)) }
    else .again { state with i := state.i + 1, ioStrValue := state.ioStrValue ++ "0" }
  else .leave state.ioStrValue

/-- An amount of money in thousandths with a sign, printed in units with this many
decimals; the loop is followed for so many passes. Its conversion throws nothing. -/
def stringLiToStringYuan (fuel : Nat) (inStrLi : String) (decimalLen : UInt32) : Option String :=
  let i64Int := string2Int64 inStrLi
  -- The least word has no positive counterpart: the subtraction wraps to itself.
  let ui64Int := if i64Int < 0 then (0 - i64Int).toUInt64 else i64Int.toUInt64
  let ioStrValue := (if i64Int < 0 then "-" else "") ++ itostr (ui64Int / 1000)
  if decimalLen = 0 then some ioStrValue
  else
    (decimalPass decimalLen).run fuel {
      i := 1
      iTenLv := 1000
      uiDecimalBase := (ui64Int % 1000).toNat
      ioStrValue := ioStrValue ++ "." }

/-- A pass of the replacement: the search starts at the front of the text every time. -/
def replacePass (oldValue newValue : List Char) : Loop (List Char) (List Char) := fun str =>
  match find oldValue str with
  | some pos => .again (str.take pos ++ newValue ++ str.drop (pos + oldValue.length))
  | none => .leave str

def replaceAll (fuel : Nat) (str oldValue newValue : String) : Option String :=
  ((replacePass oldValue.toList newValue.toList).run fuel str.toList).map String.ofList

end Simutgw.TgwStringUtil
