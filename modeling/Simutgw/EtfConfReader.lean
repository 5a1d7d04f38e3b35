import Mathlib.Logic.Function.Basic
import Simutgw.Etf
import Simutgw.TgwStringUtilDouble

/-! The reader of Shanghai's files of exchange-traded funds. Lines of a key and a value
set the fund's own fields, and the lines between two marks are its components; a fund
that passes its check goes into the table. -/

namespace Simutgw
open TgwStringUtil

/-- A component as a file gives it. -/
structure ShEtfComponent extends SzEtfComponent where
  underlyingSymbol : String := ""
  deriving DecidableEq

/-- What a file of Shanghai's gives of a fund. Whether it is published has no value
before the file says it. -/
structure ShEtf where
  securityID : String := ""
  creationRedemptionUnit : UInt64 := 0
  estimateCashComponent : UInt64 := 0
  maxCashRatio : Rat := 0
  publish : Option Bool := none
  creation : Bool := false
  redemption : Bool := false
  totalRecordNum : UInt64 := 0
  tradingDay : String := ""
  preTradingDay : String := ""
  cashComponent : UInt64 := 0
  navPerCU : UInt64 := 0
  nav : UInt64 := 0
  components : List ShEtfComponent := []
  deriving DecidableEq

/-- The fund as the checks of the orders know it. -/
def ShEtf.toSzEtf (etf : ShEtf) : SzEtf :=
  { creationRedemptionUnit := etf.creationRedemptionUnit
    maxCashRatio := etf.maxCashRatio
    creation := etf.creation
    redemption := etf.redemption
    navPerCU := etf.navPerCU
    components := etf.components.map ShEtfComponent.toSzEtfComponent }

abbrev EtfTable := String → Option ShEtf

namespace ValidateETF

/-- The security that stands for cash. -/
def cashSecurity := "159900"

def validateETFComponentInfo (cpn : ShEtfComponent) : Int :=
  if cpn.underlyingSecurityID.isEmpty then -1
  else if cpn.underlyingSecurityID = cashSecurity then
    if onlyCash ≠ cpn.substituteFlag then -1
    else if 0 = cpn.creationCashSubstitute then -1
    else 0
  else if onlySecurity = cpn.substituteFlag then
    if 0 = cpn.componentShare then -1 else 0
  else if securityAndCash = cpn.substituteFlag then
    if 0 = cpn.componentShare then -1
    else if 0 = cpn.premiumRatio then -1
    else 0
  else if onlyCash = cpn.substituteFlag then
    if 0 = cpn.creationCashSubstitute ∨ 0 = cpn.redemptionCashSubstitute then -1 else 0
  else 0

/-- The check of the unit stands twice in the source. -/
def validateETFInfo (etf : ShEtf) : Int :=
  if etf.securityID.isEmpty then -1
  else if 0 = etf.creationRedemptionUnit then -1
  else if 0 = etf.creationRedemptionUnit then -1
  else if etf.totalRecordNum.toNat ≠ etf.components.length then -1
  else 0

end ValidateETF

namespace EtfConfReader
open ValidateETF

/-- The values of the key that says what is allowed. -/
def notCreAndNotRed : UInt64 := 0
def creAndRed : UInt64 := 1
def creAndNotRed : UInt64 := 2
def notCreAndRed : UInt64 := 3

/-- An amount that stays zero where it cannot be read. -/
def moneyInLi (text : String) : UInt64 := (string2UInt64MoneyInLiStrtoui64 text 0).2

/-- Other keys are passed over. -/
def setSHETFInfo (etf : ShEtf) (in_strKey in_strValue : String) : ShEtf :=
  if in_strKey = "Fundid1" then { etf with securityID := in_strValue }
  else if in_strKey = "CreationRedemptionUnit" then { etf with creationRedemptionUnit := string2UInt64 in_strValue }
  else if in_strKey = "EstimateCashComponent" then { etf with estimateCashComponent := moneyInLi in_strValue }
  else if in_strKey = "MaxCashRatio" then { etf with maxCashRatio := string2DoubleAtof in_strValue }
  else if in_strKey = "Publish" then { etf with publish := some (in_strValue = "Y") }
  else if in_strKey = "CreationRedemption" then
    let ui64Trans := string2UInt64 in_strValue
    if notCreAndNotRed = ui64Trans then { etf with creation := false, redemption := false }
    else if creAndRed = ui64Trans then { etf with creation := true, redemption := true }
    else if creAndNotRed = ui64Trans then { etf with creation := true, redemption := false }
    else if notCreAndRed = ui64Trans then { etf with creation := false, redemption := true }
    else etf
  else if in_strKey = "Recordnum" then { etf with totalRecordNum := string2UInt64 in_strValue }
  else if in_strKey = "TradingDay" then { etf with tradingDay := in_strValue }
  else if in_strKey = "PreTradingDay" then { etf with preTradingDay := in_strValue }
  else if in_strKey = "CashComponent" then { etf with cashComponent := moneyInLi in_strValue }
  else if in_strKey = "NAVperCU" then { etf with navPerCU := moneyInLi in_strValue }
  else if in_strKey = "NAV" then { etf with nav := moneyInLi in_strValue }
  else etf

/-- The last of the seven members is not read, and the amount is that of creations and
of redemptions. -/
def setSHETFComponentInfo (cpn : ShEtfComponent) : List String → Int × ShEtfComponent
  | [underlyingSecurityID, underlyingSymbol, share, flag, premium, cash, _] =>
    (0, { cpn with
      underlyingSecurityID := underlyingSecurityID
      underlyingSymbol := underlyingSymbol
      componentShare := string2UInt64 share
      substituteFlag := string2IntAtoi flag
      premiumRatio := string2DoubleAtof premium
      creationCashSubstitute := moneyInLi cash
      redemptionCashSubstitute := moneyInLi cash })
  | _ => (-1, cpn)

def addETFInfo (etf : ShEtf) (g_mapSZETF : EtfTable) : EtfTable :=
  if validateETFInfo etf ≠ 0 then g_mapSZETF else Function.update g_mapSZETF etf.securityID (some etf)

/-- The cut of a text at each of some characters; it has at least one token. -/
def splitAny (stops : Char → Bool) (text : String) : List String := (text.toList.splitOnP stops).map String.ofList

def vecLine (content : String) : List String := splitAny (fun char => char == '\r' || char == '\n') content

/-- The loop over the lines, in its two states; `none` is a return of -1 from within. A
line among the components that is none, nor the closing mark, is only logged. -/
def readLines : Bool → ShEtf → List String → Option ShEtf
  | _, etf, [] => some etf
  | false, etf, strTmp :: rest =>
    match splitAny (· == '=') strTmp with
    | [mark] => readLines (mark = "TAGTAG") etf rest
    | [key, value] => readLines false (setSHETFInfo etf key value) rest
    | _ => readLines false etf rest
  | true, etf, strTmp :: rest =>
    let vecMember := splitAny (· == '|') strTmp
    if vecMember.length = 7 then
      let (iRes, etfCpn) := setSHETFComponentInfo {} vecMember
      if iRes ≠ 0 then none
      else if validateETFComponentInfo etfCpn ≠ 0 then none
      else readLines true { etf with components := etf.components ++ [etfCpn] } rest
    else if vecMember = ["ENDENDEND"] then readLines false etf rest
    else readLines true etf rest

/-- The code, and the table. What becomes of the fund at the table is not told. -/
def parseSHETFAndStore (in_strETFContent : String) (g_mapSZETF : EtfTable) : Int × EtfTable :=
  match readLines false {} (vecLine in_strETFContent) with
  | none => (-1, g_mapSZETF)
  | some etf => (0, addETFInfo etf g_mapSZETF)

end EtfConfReader

end Simutgw
