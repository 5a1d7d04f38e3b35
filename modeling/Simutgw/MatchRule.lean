import Std.Data.TreeMap.Lemmas
import Simutgw.TgwStringUtil

/-! The rules that say how an order is traded, and the search for the rule of an
order. Both exchanges keep the rules in the order of their ids and the conditions of a
rule in the order of their fields; a field is a name in Shanghai and a tag in
Shenzhen. The library for regular expressions is a parameter. -/

namespace Simutgw.MatchRule
open Std TgwStringUtil

/-- `std::regex`: the one that a map's entry starts with, the compilation, which may
throw, and the match of a whole text. -/
structure RegexLibrary where
  Regex : Type
  blank : Regex
  assign : String → Option Regex
  regexMatch : String → Regex → Bool

/-- A member of a document, by its kind. -/
inductive JsonValue
  | object (text : String)
  | array (text : String)
  | other (text : String)
deriving DecidableEq

namespace JsonValue

def isObject : Option JsonValue → Bool
  | some (object _) => true
  | _ => false

def isArray : Option JsonValue → Bool
  | some (array _) => true
  | _ => false

end JsonValue

/-- What an insertion reads of a rule's document. A member is `none` where it is absent
or not of the kind that is asked for. -/
structure RuleDoc where
  ruleId : Option String := none
  judge_cond : Option (List (String × Option String)) := none
  timestamp : Option Int := none
  rule_confirm : Option JsonValue := none
  rule_match : Option JsonValue := none

variable (lib : RegexLibrary)

structure MatchRuleBase (Key : Type) [Ord Key] where
  ui64RuleId : UInt64 := 0
  ui64Timestamp : UInt64 := 0
  docRegexes : List (String × String) := []
  docRuleConfirm : JsonValue := .object "{}"
  docRuleMatch : JsonValue := .array "[]"
  mapRegexs : TreeMap Key lib.Regex := ∅

variable {lib} {Key : Type} [Ord Key]

/-- The members are compiled in their order, each into the entry of its field. Where a
text does not compile, the entry is there all the same and the rest is left out. -/
def assignAll (key : String → Key) : TreeMap Key lib.Regex → List (String × String) → TreeMap Key lib.Regex × Bool
  | mapRegexs, [] => (mapRegexs, true)
  | mapRegexs, (strName, strValue) :: members =>
    match lib.assign strValue with
    | none => (mapRegexs.insertIfNew (key strName) lib.blank, false)
    | some regex => assignAll key (mapRegexs.insert (key strName) regex) members

/-- The regexes of the members join those that the rule has. `false` is a throw. -/
def setRegex (key : String → Key) (rule : MatchRuleBase lib Key) (iRuleId : UInt64) (members : List (String × String))
    (timestamp : UInt64) : MatchRuleBase lib Key × Bool :=
  let (mapRegexs, assigned) := assignAll key rule.mapRegexs members
  let rule := { rule with ui64RuleId := iRuleId, docRegexes := members, mapRegexs := mapRegexs }
  if assigned then ({ rule with ui64Timestamp := timestamp }, true) else (rule, false)

/-- An insertion returns a code or throws. -/
inductive Inserted
  | returned (code : Int)
  | threw
deriving DecidableEq

abbrev Rules (lib : RegexLibrary) (Key : Type) [Ord Key] := TreeMap UInt64 (MatchRuleBase lib Key)

/-- What the exchanges do differently: the field of a name, and which members become
the documents of a rule that is new or not. -/
structure Exchange (lib : RegexLibrary) (Key : Type) [Ord Key] where
  key : String → Key
  setDocs : Bool → RuleDoc → MatchRuleBase lib Key → Option (MatchRuleBase lib Key)

/-- The texts of the conditions, if each of them is a text. -/
def condTexts : List (String × Option String) → Option (List (String × String))
  | [] => some []
  | (_, none) :: _ => none
  | (name, some text) :: members => (condTexts members).map ((name, text) :: ·)

/-- `none` where the conditions of a document without any are asked for. The update of
the database, if there is one, comes last. -/
def insertSingleRule (exchange : Exchange lib Key) (doc : RuleDoc) (bUpdateToDb updated : Bool)
    (rules : Rules lib Key) : Option (Inserted × Rules lib Key) :=
  match doc.ruleId with
  | none => some (.returned (-1), rules)
  | some strRuleId =>
    let ui64RuleId := string2UInt64 strRuleId
    let ui64Timestamp := UInt64.ofInt (doc.timestamp.getD 0)
    match doc.judge_cond.map condTexts with
    | some none => some (.returned (-1), rules)
    | none => if ui64Timestamp = 0 then some (.returned (-1), rules) else none
    | some (some members) =>
      if ui64Timestamp = 0 then some (.returned (-1), rules)
      else
        let code := if bUpdateToDb && !updated then -1 else 0
        match rules[ui64RuleId]? with
        | none =>
          match setRegex exchange.key {} ui64RuleId members ui64Timestamp with
          | (_, false) => some (.threw, rules)
          | (ptr, true) =>
            (exchange.setDocs true doc ptr).map fun ptr => (.returned code, rules.insert ui64RuleId ptr)
        | some rule =>
          match setRegex exchange.key rule ui64RuleId members ui64Timestamp with
          | (rule, false) => some (.threw, rules.insert ui64RuleId rule)
          | (rule, true) =>
            (exchange.setDocs false doc rule).map fun rule => (.returned code, rules.insert ui64RuleId rule)

/-- A document to insert, with whether it goes to the database and gets there. -/
structure Insertion where
  doc : RuleDoc
  bUpdateToDb : Bool := true
  updated : Bool := true

/-- The rules after insertions one by one, whatever each of them returned. -/
def insertAll (exchange : Exchange lib Key) (rules : Rules lib Key) (insertions : List Insertion) :
    Option (Rules lib Key) :=
  insertions.foldlM (fun rules insertion =>
    (insertSingleRule exchange insertion.doc insertion.bUpdateToDb insertion.updated rules).map Prod.snd) rules

/-- One element of an array: its rule, unless it is no object, and whether the update of
the database gets there. -/
structure Element where
  doc : Option RuleDoc
  updated : Bool := true

/-- What an insertion is given. -/
inductive RuleInput
  | object (element : Element)
  | array (elements : List Element)
  | other

/-- A member is asked for of a value that is no object. -/
def insertElement (exchange : Exchange lib Key) (bUpdateToDb : Bool) (element : Element) (rules : Rules lib Key) :
    Option (Inserted × Rules lib Key) :=
  element.doc.bind fun doc => insertSingleRule exchange doc bUpdateToDb element.updated rules

/-- The loop over an array, which the first failure leaves. -/
def insertElements (exchange : Exchange lib Key) (bUpdateToDb : Bool) :
    List Element → Rules lib Key → Option (Inserted × Rules lib Key)
  | [], rules => some (.returned 0, rules)
  | element :: elements, rules =>
    match insertElement exchange bUpdateToDb element rules with
    | none => none
    | some (.threw, rules) => some (.threw, rules)
    | some (.returned iRes, rules) =>
      if iRes ≠ 0 then some (.returned (-1), rules) else insertElements exchange bUpdateToDb elements rules

def insertRuleWithoutlock (exchange : Exchange lib Key) (docValue : RuleInput) (bUpdateToDb : Bool)
    (rules : Rules lib Key) : Option (Inserted × Rules lib Key) :=
  match docValue with
  | .other => some (.returned (-1), rules)
  | .array elements => insertElements exchange bUpdateToDb elements rules
  | .object element => insertElements exchange bUpdateToDb [element] rules

section Reload

/-- What the parser makes of a text that is neither wrong nor null: the value, and its
members where it is an object. -/
structure Parsed where
  value : JsonValue
  members : List (String × Option String) := []

/-- The columns of a row. Only the id is asked whether it is null. -/
structure RuleRow where
  idmatch_rule : Option String
  judge_cond : String := ""
  rule_confirm : String := ""
  rule_match : String := ""
  ruleChangeTime : String := ""

/-- The member for a column: none for an empty text, and the reload fails where the
text does not parse. -/
def columnMember (parse : String → Option Parsed) (strQueryValue : String) : Option (Option Parsed) :=
  if strQueryValue.isEmpty then some none else (parse strQueryValue).map some

def ruleOfRow (parse : String → Option Parsed) (row : RuleRow) : Option RuleDoc := do
  let strRuleId ← row.idmatch_rule
  if strRuleId.isEmpty then none else
  let judge_cond ← columnMember parse row.judge_cond
  let rule_confirm ← columnMember parse row.rule_confirm
  let rule_match ← columnMember parse row.rule_match
  let ui64Timestamp := string2UInt64 row.ruleChangeTime
  some
    { ruleId := some strRuleId
      judge_cond := judge_cond.bind fun parsed =>
        if JsonValue.isObject (some parsed.value) then some parsed.members else none
      -- The insertion asks for a signed word.
      timestamp := if ui64Timestamp < 2147483648 then some ui64Timestamp.toNat else none
      rule_confirm := rule_confirm.map Parsed.value
      rule_match := rule_match.map Parsed.value }

/-- The rules are cleared before anything else. `rows` is what the query yields, if
there is a connection and it is a selection. -/
def reloadFromDb (exchange : Exchange lib Key) (parse : String → Option Parsed) (rows : Option (List RuleRow)) :
    Option (Int × Rules lib Key) :=
  let rules : Rules lib Key := ∅
  match rows.bind fun rows => rows.mapM (ruleOfRow parse) with
  | none => some (-1, rules)
  | some docs =>
    match insertRuleWithoutlock exchange (.array (docs.map fun doc => { doc := some doc })) false rules with
    | none => none
    | some (.returned iRes, rules) => if iRes ≠ 0 then some (-1, rules) else some (0, rules)
    | some (.threw, rules) => some (-1, rules)

end Reload

def setRuleConfirm (doc : RuleDoc) (rule : MatchRuleBase lib Key) : MatchRuleBase lib Key :=
  match doc.rule_confirm with
  | some docValue => { rule with docRuleConfirm := docValue }
  | none => rule

def setRuleMatch (doc : RuleDoc) (rule : MatchRuleBase lib Key) : MatchRuleBase lib Key :=
  match doc.rule_match with
  | some docValue => { rule with docRuleMatch := docValue }
  | none => rule

/-- A rule's id is one that the channel is linked to. No links stand for all rules. -/
def linked (in_mapLinkRules : TreeMap UInt64 UInt64) (ruleId : UInt64) : Bool :=
  in_mapLinkRules.isEmpty || in_mapLinkRules.contains ruleId

namespace Sh

def exchange (lib : RegexLibrary) : Exchange lib String where
  key strName := strName
  setDocs _ doc rule :=
    let rule := if JsonValue.isObject doc.rule_confirm then setRuleConfirm doc rule else rule
    some (if JsonValue.isArray doc.rule_match then setRuleMatch doc rule else rule)

/-- The loop over a rule's regexes. A field that the order does not have leaves it with
the hit there was. -/
def regexHit (in_docDeclareOrder : String → Option String) : Bool → List (String × lib.Regex) → Bool
  | bRegexHit, [] => bRegexHit
  | bRegexHit, (field, regex) :: regexs =>
    match in_docDeclareOrder field with
    | none => bRegexHit
    | some strOrdValue => if lib.regexMatch strOrdValue regex then regexHit in_docDeclareOrder true regexs else false

def findRule (in_docDeclareOrder : String → Option String) (in_mapLinkRules : TreeMap UInt64 UInt64) :
    List (UInt64 × MatchRuleBase lib String) → Option (UInt64 × MatchRuleBase lib String)
  | [] => none
  | (ruleId, rule) :: rules =>
    if !linked in_mapLinkRules ruleId then findRule in_docDeclareOrder in_mapLinkRules rules
    else if regexHit in_docDeclareOrder false rule.mapRegexs.toList then some (ruleId, rule)
    else findRule in_docDeclareOrder in_mapLinkRules rules

/-- `none` is the code for no rule. -/
def getRule (rules : Rules lib String) (in_docDeclareOrder : String → Option String)
    (in_mapLinkRules : TreeMap UInt64 UInt64) : Option (UInt64 × MatchRuleBase lib String) :=
  findRule in_docDeclareOrder in_mapLinkRules rules.toList

end Sh

namespace Sz

/-- A new rule gets the document of the confirmation as that of the trades. -/
def exchange (lib : RegexLibrary) : Exchange lib Int where
  key strName := string2IntAtoi strName
  setDocs isNew doc rule :=
    let rule := if JsonValue.isObject doc.rule_confirm then setRuleConfirm doc rule else rule
    if JsonValue.isObject doc.rule_match then
      if isNew then doc.rule_confirm.map fun docValue => { rule with docRuleMatch := docValue }
      else some (setRuleMatch doc rule)
    else some rule

/-- The loop over a rule's regexes. A field that the message does not have ends the
whole search, which is `none`. -/
def regexHit (in_fixmsg : Int → Option String) : Bool → List (Int × lib.Regex) → Option Bool
  | bRegexHit, [] => some bRegexHit
  | _, (field, regex) :: regexs =>
    match in_fixmsg field with
    | none => none
    | some strOrdValue => if lib.regexMatch strOrdValue regex then regexHit in_fixmsg true regexs else some false

def findRule (in_fixmsg : Int → Option String) (in_mapLinkRules : TreeMap UInt64 UInt64) :
    List (UInt64 × MatchRuleBase lib Int) → Option (UInt64 × MatchRuleBase lib Int)
  | [] => none
  | (ruleId, rule) :: rules =>
    if !linked in_mapLinkRules ruleId then findRule in_fixmsg in_mapLinkRules rules
    else
      match regexHit in_fixmsg false rule.mapRegexs.toList with
      | none => none
      | some bRegexHit =>
        if bRegexHit then some (ruleId, rule) else findRule in_fixmsg in_mapLinkRules rules

/-- `none` is the code for no rule. -/
def getRule (rules : Rules lib Int) (in_fixmsg : Int → Option String)
    (in_mapLinkRules : TreeMap UInt64 UInt64) : Option (UInt64 × MatchRuleBase lib Int) :=
  findRule in_fixmsg in_mapLinkRules rules.toList

end Sz

end Simutgw.MatchRule
