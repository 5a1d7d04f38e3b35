import Mathlib.Algebra.BigOperators.Group.List.Basic
import Mathlib.Algebra.Order.Ring.Int

/-! The gateway's own printing of words. The text is sized first from a
ladder of thresholds and then written from its end, two digits at a time out of
a table. -/

namespace Simutgw.SofString

def digitPairs : String :=
  "00010203040506070809" ++
  "10111213141516171819" ++
  "20212223242526272829" ++
  "30313233343536373839" ++
  "40414243444546474849" ++
  "50515253545556575859" ++
  "60616263646566676869" ++
  "70717273747576777879" ++
  "80818283848586878889" ++
  "90919293949596979899"

/-- The two characters a position of the table holds. -/
def digitPair (pos : Nat) : List Char :=
  (digitPairs.toList.drop (2 * pos)).take 2

def digit (value : Nat) : Char := Char.ofNat ('0'.toNat + value)

/-- The length the text is given before it is written. -/
def textSize (val : UInt64) : Nat :=
  if 10000000000 ≤ val then
    if 100000000000000 ≤ val then
      if 100000000000000000 ≤ val then
        if 10000000000000000000 ≤ val then 20
        else if 1000000000000000000 ≤ val then 19
        else 18
      else if 10000000000000000 ≤ val then 17
      else if 1000000000000000 ≤ val then 16
      else 15
    else if 1000000000000 ≤ val then
      if 10000000000000 ≤ val then 14 else 13
    else if 100000000000 ≤ val then 12
    else 11
  else if val ≥ 10000 then
    if val ≥ 10000000 then
      if val ≥ 1000000000 then 10
      else if val ≥ 100000000 then 9
      else 8
    else if val ≥ 1000000 then 7
    else if val ≥ 100000 then 6
    else 5
  else if val ≥ 100 then
    if val ≥ 1000 then 4 else 3
  else if val ≥ 10 then 2
  else 1

/-- The same ladder as it stands in both overloads for words of 32 bits. -/
def textSize32 (val : UInt32) : Nat :=
  if val ≥ 10000 then
    if val ≥ 10000000 then
      if val ≥ 1000000000 then 10
      else if val ≥ 100000000 then 9
      else 8
    else if val ≥ 1000000 then 7
    else if val ≥ 100000 then 6
    else 5
  else if val ≥ 100 then
    if val ≥ 1000 then 4 else 3
  else if val ≥ 10 then 2
  else 1

/-- The second loop: single digits, in front of what is already written. -/
def writeDigits : Nat → Nat → List Char → List Char
  | 0, _, written => written
  | fuel + 1, val, written =>
    if 0 < val then writeDigits fuel (val / 10) (digit (val % 10) :: written) else written

/-- The first loop: pairs while at least three digits are left. -/
def writePairs : Nat → Nat → List Char → List Char
  | 0, _, written => written
  | fuel + 1, val, written =>
    if 100 ≤ val then writePairs fuel (val / 100) (digitPair (val % 100) ++ written)
    else writeDigits 20 val written

/-- Twenty rounds of either loop exhaust every word. Characters the loops do not
reach would stay what the resize left there. -/
def itostr (val : UInt64) : String :=
  if val = 0 then "0"
  else String.ofList ((writePairs 20 val.toNat []).leftpad (textSize val) '\x00')

/-- The overload for signed words of 32 bits: a sign in front of the magnitude, which
the same ladder sizes and the same loops write. -/
def itostrInt (n : Int) : String :=
  if n < 0 then "-" ++ itostr (UInt64.ofNat n.natAbs) else itostr (UInt64.ofNat n.natAbs)

/-! The four overloads over the caller's string. The loops store through a pointer,
and nothing but the size the string was given keeps the pointer inside it. -/

/-- The characters that fit are kept, and nulls fill what is new. -/
def resize (s : List Char) (size : Nat) : List Char :=
  s.take size ++ List.replicate (size - s.length) '\x00'

/-- A store through the pointer at place `c`; there is no text after one that misses it. -/
def store (s : List Char) (c : Int) (char : Char) : Option (List Char) :=
  if 0 ≤ c ∧ c < s.length then some (s.set c.toNat char) else none

/-- Two characters of the table stored at once, the second at place `c`. -/
def storePair (s : List Char) (c : Int) (pos : Nat) : Option (List Char) :=
  match digitPair pos with
  | [tens, ones] => (store s (c - 1) tens).bind fun s => store s c ones
  | _ => none

/-- `while (val > 0)`, in at most so many tests of its condition. -/
def digitLoop : Nat → Nat → Int → List Char → Option (List Char)
  | 0, _, _, _ => none
  | fuel + 1, val, c, s =>
    if val > 0 then (store s c (digit (val % 10))).bind (digitLoop fuel (val / 10) (c - 1)) else some s

/-- `while (val >= 100)`, and the other loop behind it. -/
def pairLoop : Nat → Nat → Int → List Char → Option (List Char)
  | 0, _, _, _ => none
  | fuel + 1, val, c, s =>
    if val ≥ 100 then (storePair s c (val % 100)).bind (pairLoop fuel (val / 100) (c - 2)) else digitLoop 20 val c s

/-- What the overloads do once the digits are counted. `sign` is -1 where the text gets
a minus sign, and 0 elsewhere. -/
def writeText (sign : Int) (size val : Nat) (s : String) : Option String := do
  let size := (size - sign).toNat
  let text := resize s.toList size
  let text ← if sign ≠ 0 then store text 0 '-' else some text
  let text ← pairLoop 20 val (size - 1) text
  return String.ofList text

def itostrUInt64 (val : UInt64) (s : String) : Option String :=
  if val = 0 then some "0" else writeText 0 (textSize val) val.toNat s

def itostrUInt32 (val : UInt32) (s : String) : Option String :=
  if val = 0 then some "0" else writeText 0 (textSize32 val) val.toNat s

/-- The magnitude of the least word is beyond the signed words: the subtraction wraps
there, and the unsigned word holds it. -/
def itostrInt64 (n : Int64) (s : String) : Option String :=
  if n = 0 then some "0"
  else
    let sign : Int64 := -(if n < 0 then 1 else 0)
    let val := ((n ^^^ sign) - sign).toUInt64
    writeText sign.toInt (textSize val) val.toNat s

def itostrInt32 (n : Int32) (s : String) : Option String :=
  if n = 0 then some "0"
  else
    let sign : Int32 := -(if n < 0 then 1 else 0)
    let val := ((n ^^^ sign) - sign).toUInt32
    writeText sign.toInt (textSize32 val) val.toNat s

end Simutgw.SofString
