import Simutgw.TgwStringUtilDouble

/-! The words of a match rule's report, replaced by what they stand for. A rule gives a
word, or operands and operators between blanks, which are worked out from left to right;
Shanghai and Shenzhen have each their own copy. -/

namespace Simutgw.RuleWordProc
open SofString TgwStringUtil

/-- A member of a rule's document. -/
inductive RuleValue where
  | text (value : String)
  | array (items : List (List (String × RuleValue)))
  | other

/-- The cut at every blank; two blanks have an empty word between them. -/
def splitBlank (text : String) : List String := (text.toList.splitOn ' ').map String.ofList

def cszSignAdd := "+"
def cszSignMinus := "-"
def cszSignTimes := "*"
def cszSignDivision := "/"

def isOperator (word : String) : Bool :=
  word == cszSignAdd || word == cszSignMinus || word == cszSignTimes || word == cszSignDivision

/-- The loop over the words of an expression, which both copies have. An operator takes
the word behind it, whatever that is; `none` is their -1. -/
def evaluate (replaceWordDouble : String → Option ℚ) (leftOfSign : ℚ) : List String → Option ℚ
  | [] => some leftOfSign
  | word :: rest =>
    if isOperator word then
      match rest with
      | [] => some leftOfSign
      | next :: rest =>
        match replaceWordDouble next with
        | none => none
        | some rightOfSign =>
          if word = cszSignAdd then evaluate replaceWordDouble (leftOfSign + rightOfSign) rest
          else if word = cszSignMinus then evaluate replaceWordDouble (leftOfSign - rightOfSign) rest
          else if word = cszSignTimes then evaluate replaceWordDouble (leftOfSign * rightOfSign) rest
          else if word = cszSignDivision then
            if 0 = rightOfSign then none else evaluate replaceWordDouble (leftOfSign / rightOfSign) rest
          else evaluate replaceWordDouble leftOfSign rest
    else
      match replaceWordDouble word with
      | none => none
      | some leftOfSign => evaluate replaceWordDouble leftOfSign rest

/-- What an order of Shanghai's offers to a rule: its row's fields, the next numbers of
its connection where that is there, and the time. -/
structure ShWords where
  jsOrder : String → Option String
  recNum : Option UInt64
  cjbh : Option UInt64
  date : String
  timeC8 : String
  timeC6 : String

namespace ShDb

def replaceWord (order : ShWords) (word out : String) : Int × String :=
  let counted : Option UInt64 → Int × String
    | some value => (0, itostr value)
    | none => (-1, out)
  match word.toList with
  | [] => (0, "")
  | '$' :: _ =>
    if word = "$REC_NUM" then counted order.recNum
    else if word = "$DATE" then (0, order.date)
    else if word = "$TIME_C8" then (0, order.timeC8)
    else if word = "$TIME_C6" then (0, order.timeC6)
    else if word = "$SH_CJBH" then counted order.cjbh
    else (0, word)
  | '@' :: atValue =>
    match order.jsOrder (String.ofList atValue) with
    | none => (-1, out)
    | some ordValue => (0, ordValue)
  | _ => (0, word)

def replaceWordDouble (order : ShWords) (word : String) : Option ℚ :=
  match word.toList with
  | [] => some 0
  | '@' :: atValue => (order.jsOrder (String.ofList atValue)).map string2DoubleAtof
  | _ => some (string2DoubleAtof word)

/-- The code and the text that is handed out; `none` is a number that has no printed
form. -/
def resolveRule (order : ShWords) (docRule : String → Option RuleValue) (ruleKey out : String) :
    Option (Int × String) :=
  match docRule ruleKey with
  | some (.text words) =>
    match splitBlank words with
    | [] => some (1, out)
    | [word] => some (replaceWord order word out)
    | vecWords =>
      match evaluate (replaceWordDouble order) 0 vecWords with
      | none => some (-1, out)
      | some leftOfSign => (doubleToString leftOfSign 2).map fun trans => (0, trans)
  | _ => some (-1, out)

end ShDb

/-- The report a rule fills in: its fields, and its groups under two fields each. -/
inductive FieldMap where
  | mk (fields : Int → Option String) (groups : List (Int × Int × FieldMap))

namespace FieldMap

def fields : FieldMap → Int → Option String
  | mk fields _ => fields

def setField (field : Int) (value : String) : FieldMap → FieldMap
  | mk fields groups => mk (fun other => if other = field then some value else fields other) groups

def addGroup (field fieldSub : Int) (group : FieldMap) : FieldMap → FieldMap
  | mk fields groups => mk fields (groups ++ [(field, fieldSub, group)])

end FieldMap

/-- What an order of Shenzhen's offers: its message's fields, its seat and account, and
what is drawn for the report. -/
structure SzWords where
  szfixMsg : Int → Option String
  seat : String
  account : String
  execID : String
  orderID : String
  localTimeStamp : String

namespace SzEzSTEP

def replaceWord (order : SzWords) (word out : String) : Int × String :=
  match word.toList with
  | [] => (1, out)
  | '$' :: _ =>
    if word = "$EXEC_ID" then (0, order.execID)
    else if word = "$ORDER_ID" then (0, order.orderID)
    else if word = "$LOCAL_TIME_STAMP" then (0, order.localTimeStamp)
    else if word = "$SEAT" then (0, order.seat)
    else if word = "$ACCOUNT" then (0, order.account)
    else (0, word)
  | '@' :: atValue =>
    match order.szfixMsg (string2IntAtoi (String.ofList atValue)) with
    | none => (-1, out)
    | some orderValue => (0, orderValue)
  | _ => (0, word)

/-- A word that is no reference is refused. -/
def replaceWordDouble (order : SzWords) (word : String) : Option ℚ :=
  match word.toList with
  | [] => some 0
  | '@' :: atValue => (order.szfixMsg (string2IntAtoi (String.ofList atValue))).map string2DoubleAtof
  | _ => none

/-- One member that is a text: the code, and the report. A word that cannot be replaced
leaves its field out. -/
def resolveText (order : SzWords) (field : Int) (value : String) (report : FieldMap) : Option (Int × FieldMap) :=
  if value.isEmpty then some (0, report)
  else
    match splitBlank value with
    | [] => some (0, report.setField field "")
    | [word] =>
      match replaceWord order word "" with
      | (0, afterTrans) => some (0, report.setField field afterTrans)
      | _ => some (0, report)
    | vecWords =>
      match evaluate (replaceWordDouble order) 0 vecWords with
      | none => some (-1, report)
      | some leftOfSign => (doubleToString leftOfSign 2).map fun afterTrans => (0, report.setField field afterTrans)

mutual

def resolveElement (order : SzWords) : List (String × RuleValue) → FieldMap → Option (Int × FieldMap)
  | [], report => some (0, report)
  | (name, .text value) :: rest, report =>
    match resolveText order (string2IntAtoi name) value report with
    | some (0, report) => resolveElement order rest report
    | stopped => stopped
  | (name, .array items) :: rest, report =>
    match resolveGroups order (string2IntAtoi name) items report with
    | some (0, report) => resolveElement order rest report
    | stopped => stopped
  | (_, .other) :: rest, report => resolveElement order rest report

/-- The items of an array, each a group named by its first member; one without members is
read past its end. -/
def resolveGroups (order : SzWords) (field : Int) :
    List (List (String × RuleValue)) → FieldMap → Option (Int × FieldMap)
  | [], report => some (0, report)
  | [] :: _, _ => none
  | ((name, value) :: members) :: rest, report =>
    match resolveElement order ((name, value) :: members) (.mk (fun _ => none) []) with
    | some (0, group) => resolveGroups order field rest (report.addGroup field (string2IntAtoi name) group)
    | some _ => some (-1, report)
    | none => none

end

end SzEzSTEP

end Simutgw.RuleWordProc
