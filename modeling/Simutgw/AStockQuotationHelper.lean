import Simutgw.RapidJsonHelper
import Simutgw.TgwMarketInfoProc
import Simutgw.TgwStringUtilDouble

/-! The quotation messages, decoded into one structure that is used for all of them, and
written back as text. -/

namespace Simutgw
open SofString TgwStringUtil RapidJsonHelper

/-- The structure a message is decoded into: what the gateway stores of a quote, what it
tests, and what only the writer reads. -/
structure QuotContent extends AStockQuot where
  zqmc : String := ""
  mdStreamID : String := ""
  hqktype : String := ""
  priceUpperLimit : String := ""
  priceLowerLimit : String := ""
  zrsp : UInt64 := 0
  jrkp : UInt64 := 0
  zgjg : UInt64 := 0
  zdjg : UInt64 := 0
  cjbs : UInt64 := 0
  sjw2 : UInt64 := 0
  sjw3 : UInt64 := 0
  sjw4 : UInt64 := 0
  sjw5 : UInt64 := 0
  ssl2 : UInt64 := 0
  ssl3 : UInt64 := 0
  ssl4 : UInt64 := 0
  ssl5 : UInt64 := 0
  bjw2 : UInt64 := 0
  bjw3 : UInt64 := 0
  bjw4 : UInt64 := 0
  bjw5 : UInt64 := 0
  bsl2 : UInt64 := 0
  bsl3 : UInt64 := 0
  bsl4 : UInt64 := 0
  bsl5 : UInt64 := 0
  syl1 : ℚ := 0
  syl2 : ℚ := 0

namespace AStockQuotationHelper

/-- The texts that mean there is no limit, which is an amount of zero. -/
def noUpperLimit := "999999999.999900"
def noLowerLimit := "-999999999.999900"

/-- `0 != iRes`. -/
def must {α : Type} (read : Except Stop (Int × α)) : Except Stop α := do
  let (iRes, value) ← read
  if iRes ≠ 0 then .error (.code (-2)) else return value

/-- `0 > iRes`, which a member that is not there does not set. -/
def may {α : Type} (read : Except Stop (Int × α)) : Except Stop α := do
  let (iRes, value) ← read
  if iRes < 0 then .error (.code (-2)) else return value

/-- Both limits are compared with their text for none, and else converted. -/
def limitIn (noLimit text : String) (out : UInt64) : Except Stop UInt64 :=
  if text = noLimit then .ok 0 else must (.ok (string2UInt64MoneyInLiStrtoui64 text out))

/-- The structure a refused message leaves half filled is not used again. -/
def decodeJsonStr (parse : String → Document) (in_strMsg : String) (quot : QuotContent) : Except Stop QuotContent :=
  if in_strMsg.isEmpty then .error (.code 1)
  else
    match parse in_strMsg with
    | .parseError | .null => .error (.code (-2))
    | .other => .error .undefined
    | .object jsonMessage => do
      let zqdm ← must (getStringFromJsonValue jsonMessage "ZQDM" quot.zqdm)
      let hqsj ← must (getStringFromJsonValue jsonMessage "OrigTime" quot.hqsj)
      -- the return code is not looked at
      let (_, mdStreamID) ← getStringFromJsonValue jsonMessage "MDStreamID" quot.mdStreamID
      let hqktype ← must (getStringFromJsonValue jsonMessage "hqktype" quot.hqktype)
      let tpbz ← must (getStringFromJsonValue jsonMessage "TPBZ" quot.tpbz)
      let priceUpperLimit ← may (getStringFromJsonValue jsonMessage "PriceUpperLimit" quot.priceUpperLimit)
      let maxgain ← limitIn noUpperLimit priceUpperLimit quot.maxgain
      let priceLowerLimit ← may (getStringFromJsonValue jsonMessage "PriceLowerLimit" quot.priceLowerLimit)
      let minfall ← limitIn noLowerLimit priceLowerLimit quot.minfall
      let zjjg ← must (getUINT64MoneyFromJsonValue jsonMessage "ZJJG" quot.zjjg)
      let cjsl ← must (getUINT64FromJsonValue jsonMessage "CJSL" quot.cjsl)
      let cjje ← must (getUINT64MoneyFromJsonValue jsonMessage "CJJE" quot.cjje)
      let sjw1 ← must (getUINT64MoneyFromJsonValue jsonMessage "SJW1" quot.sjw1)
      let ssl1 ← must (getUINT64FromJsonValue jsonMessage "SSL1" quot.ssl1)
      let bjw1 ← must (getUINT64MoneyFromJsonValue jsonMessage "BJW1" quot.bjw1)
      let bsl1 ← must (getUINT64FromJsonValue jsonMessage "BSL1" quot.bsl1)
      return { quot with
        zqdm, hqsj, mdStreamID, hqktype, tpbz, priceUpperLimit, maxgain, priceLowerLimit, minfall, zjjg, cjsl, cjje
        sjw1, ssl1, bjw1, bsl1, originStr := in_strMsg }

/-- Shanghai's indices. A code of another length is taken for one. -/
def validateIndexNumber (in_strIndexNumber : String) : Bool :=
  if in_strIndexNumber.utf8ByteSize ≠ 6 then true else in_strIndexNumber.startsWith "000"

/-- The market it notes in the structure is not read again. -/
def validate (io_astockQuot : QuotContent) : Int :=
  if io_astockQuot.zqdm.isEmpty then -1
  else if io_astockQuot.hqktype = "SZSTEP.W.010" then 0
  else if io_astockQuot.hqktype = "SHHQ" then
    if io_astockQuot.mdStreamID ∈ ["MD002", "MD003", "MD004"] then
      if validateIndexNumber io_astockQuot.zqdm then 1 else 0
    else -1
  else -1

/-- One round of the reading loop, from the message on. `none` ends the loop. -/
def readMessage (parse : String → Document) (ptime : String → Option Int) (replies : Replies) (message : String)
    (quot : QuotContent) (store : QuoteStore) : Option (QuotContent × QuoteStore) :=
  match decodeJsonStr parse message quot with
  | .error _ => none
  | .ok quot =>
    if validate quot < 0 then none
    else some (quot, (TgwMarketInfoProc.readRealMarketInfo ptime store replies quot.toAStockQuot).2)

def quoted (member : String × String) : String := "\"" ++ member.1 ++ "\":\"" ++ member.2 ++ "\""

/-- A flat object of texts, written without escapes. -/
def written (members : List (String × String)) : String := "\x7b" ++ ",".intercalate (members.map quoted) ++ "\x7d"

def redisMembers (quot : QuotContent) (syl1 syl2 : Int64) : List (String × String) :=
  [("ZQDM", quot.zqdm), ("ZQMC", quot.zqmc), ("CJSL", itostr quot.cjsl ++ ".00"), ("CJJE", iLiToStr quot.cjje 4),
    ("ZJJG", iLiToStr quot.zjjg 6), ("ZRSP", iLiToStr quot.zrsp 4), ("PriceUpperLimit", iLiToStr quot.maxgain 4),
    ("PriceLowerLimit", iLiToStr quot.minfall 4), ("JRKP", iLiToStr quot.jrkp 6), ("ZGJG", iLiToStr quot.zgjg 6),
    ("ZDJG", iLiToStr quot.zdjg 6), ("CJBS", itostr quot.cjbs), ("SJW1", iLiToStr quot.sjw1 6),
    ("SJW2", iLiToStr quot.sjw2 6), ("SJW3", iLiToStr quot.sjw3 6), ("SJW4", iLiToStr quot.sjw4 6),
    ("SJW5", iLiToStr quot.sjw5 6), ("SSL1", iLiToStr quot.ssl1 2), ("SSL2", iLiToStr quot.ssl2 2),
    ("SSL3", iLiToStr quot.ssl3 2), ("SSL4", iLiToStr quot.ssl4 2), ("SSL5", iLiToStr quot.ssl5 2),
    ("BJW1", iLiToStr quot.bjw1 6), ("BJW2", iLiToStr quot.bjw2 6), ("BJW3", iLiToStr quot.bjw3 6),
    ("BJW4", iLiToStr quot.bjw4 6), ("BJW5", iLiToStr quot.bjw5 6), ("BSL1", iLiToStr quot.bsl1 2),
    ("BSL2", iLiToStr quot.bsl2 2), ("BSL3", iLiToStr quot.bsl3 2), ("BSL4", iLiToStr quot.bsl4 2),
    ("BSL5", iLiToStr quot.bsl5 2), ("SYL1", iLiToStr syl1.toUInt64 6), ("SYL2", iLiToStr syl2.toUInt64 6),
    ("TPBZ", quot.tpbz), ("hqktype", quot.hqktype), ("OrigTime", quot.hqsj)]

/-- A ratio that no signed word holds has no defined conversion. -/
def toRedisString (quot : QuotContent) : Option String := do
  let syl1 ← toInt64 quot.syl1
  let syl2 ← toInt64 quot.syl2
  return written (redisMembers quot syl1 syl2)

end AStockQuotationHelper
end Simutgw
