import Simutgw.Logic.Hash
import Simutgw.OrderValide
import Simutgw.TradePolicyManage

/-! Shenzhen's orders, taken from the messages of the exchange's own protocol. A
message becomes an order with the texts of its fields; the quantity and the price are
numbers as well, and the price's text is that of its number from then on. -/

namespace Simutgw
open SofString TgwStringUtil Logic

/-- What a message holds: its session, the fields of its header and of its body by
their names, and the entries of the group of its parties. -/
structure StepMessage where
  sessionId : String
  beginString : String
  header : Hash String String
  body : Hash String String
  noPartyIDs : List (Hash String String)

/-- A field that is not set leaves the empty text. -/
def StepMessage.field (message : StepMessage) (name : String) : String := (message.body name).getD ""

namespace StgwFixUtil

/-- What the parties say of an order: its seat, its account and its branch. -/
structure Parties where
  seat : String := ""
  account : String := ""
  marketBranchid : String := ""

def partyOf (parties : Parties) (group : Hash String String) : Parties :=
  let partyid := (group "PartyID").getD ""
  let partyidsource := (group "PartyIDSource").getD ""
  let partyRole := (group "PartyRole").getD ""
  if partyidsource = "5" ∧ partyRole = "5" then { parties with account := partyid }
  else if partyidsource = "C" ∧ partyRole = "1" then { parties with seat := partyid }
  else if partyidsource = "D" ∧ partyRole = "4001" then { parties with marketBranchid := partyid }
  else parties

/-- The last entry of a kind counts. -/
def getNopartyIds (message : StepMessage) : Parties := message.noPartyIDs.foldl partyOf {}

end StgwFixUtil

/-- What orders are taken with: the connections' names by their sender where the
connections are managed at all, the search for a rule, the policies, and the time. -/
structure StepSetting where
  connName : Option (Hash String String) := none
  orderMatchRule : StepMessage → TradePolicyCell → TradePolicyCell := fun _ cell => cell
  tradePolicy : TradePolicyManage := {}
  globalPolicy : Policy
  now : Int := 0

namespace SzStepOrderHelper
open StgwFixUtil

/-- The policy of an order, its rule first. -/
def policyOf (setting : StepSetting) (message : StepMessage) (senderCompID seat : String) : TradePolicyCell :=
  let (name, cell) : String × TradePolicyCell :=
    match setting.connName with
    | none => ("", {})
    | some names => ((names senderCompID).getD "", setting.orderMatchRule message {})
  cell.set (setting.tradePolicy.getSzSeat name seat setting.globalPolicy).2

/-- A message without a sender or a target throws. Without a rule an order needs a type
of trade. -/
def newOrder2Struct (setting : StepSetting) (message : StepMessage) : Option OrderMessage :=
  match message.header "SenderCompID", message.header "TargetCompID" with
  | some senderCompID, some targetCompID =>
    let parties := getNopartyIds message
    let orderqty := message.field "OrderQty"
    let orderPrice := string2UInt64MoneyInLi (message.field "Price")
    let order : OrderMessage :=
      { rcvTime := setting.now
        tradeMarket := tradeMarketSz
        sessionId := message.sessionId
        securitySeat := parties.seat
        accountId := parties.account
        marketBranchid := parties.marketBranchid
        beginString := message.beginString
        clOrdId := message.field "ClOrdID"
        msgType := (message.header "MsgType").getD ""
        strOrderqtyOrigin := orderqty
        orderqtyOrigin := string2UInt64 orderqty
        leavesQty := string2UInt64 orderqty
        strLeavesQty := orderqty
        ordType := message.field "OrdType"
        orderPrice
        strOrderPrice := itostr orderPrice
        stockID := message.field "SecurityID"
        senderCompID
        side := message.field "Side"
        targetCompID
        timeInForce := message.field "TimeInForce"
        transactTime := message.field "TransactTime"
        strMinQty := message.field "MinQty"
        strCashorderqty := ((message.body "CashOrderQty").map fun text => itostr (string2UInt64MoneyInLi text)).getD ""
        ownerType := message.field "OwnerType"
        cashMargin := message.field "CashMargin"
        maxPriceLevels := message.field "MaxPriceLevels"
        applID := message.field "ApplID"
        origClOrdId := message.field "OrigClOrdID"
        tradePolicy := policyOf setting message senderCompID parties.seat }
    if order.tradePolicy.ruleId = 0 then
      match StockOrderHelper.checkOrderTradeType order with
      | (0, order) => some order
      | _ => none
    else some order
  | _, _ => none

end SzStepOrderHelper
end Simutgw
