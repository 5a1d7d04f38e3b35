import Simutgw.Proofs.FlatObjects
import Simutgw.Proofs.MoneyText

/-! What a message says of a quote, apart from what the structure held before. The structure
is never emptied, and three members may be missing. -/

namespace Simutgw.Proofs.QuoteIsolation
open TgwStringUtil RapidJsonHelper AStockQuotationHelper MoneyText FlatObjects

abbrev Members := List (String × JsonValue)

/-- A limit's amount. -/
def limitOf (noLimit text : String) : UInt64 := if text = noLimit then 0 else string2UInt64MoneyInLi text

/-! The members by themselves. -/

def textMember (jsonMessage : Members) (key : String) : Except Stop (Option String) :=
  match jsonMessage.lookup key with
  | none => .ok none
  | some (.array written) => .ok (some written)
  | some (.text value) => .ok (some value)
  | some _ => .error .undefined

def mustText (jsonMessage : Members) (key : String) : Except Stop String :=
  match textMember jsonMessage key with
  | .ok (some text) => .ok text
  | .ok none => .error (.code (-2))
  | .error stop => .error stop

def amount (jsonMessage : Members) (key : String) : Except Stop UInt64 :=
  match jsonMessage.lookup key with
  | some (.text text) => .ok (string2UInt64MoneyInLi text)
  | _ => .error .undefined

def count (jsonMessage : Members) (key : String) : Except Stop UInt64 :=
  match jsonMessage.lookup key with
  | none => .error .undefined
  | some (.text text) => .ok (string2UInt64 text)
  | some (.integer value) => if 0 ≤ value then .ok value.toUInt64 else .error .undefined
  | some _ => .error (.code (-2))

/-- All that a message says. -/
structure Reading where
  zqdm : String
  hqsj : String
  mdStreamID : Option String
  hqktype : String
  tpbz : String
  upper : Option String
  lower : Option String
  zjjg : UInt64
  cjsl : UInt64
  cjje : UInt64
  sjw1 : UInt64
  ssl1 : UInt64
  bjw1 : UInt64
  bsl1 : UInt64

def reading (jsonMessage : Members) : Except Stop Reading := do
  let zqdm ← mustText jsonMessage "ZQDM"
  let hqsj ← mustText jsonMessage "OrigTime"
  let mdStreamID ← textMember jsonMessage "MDStreamID"
  let hqktype ← mustText jsonMessage "hqktype"
  let tpbz ← mustText jsonMessage "TPBZ"
  let upper ← textMember jsonMessage "PriceUpperLimit"
  let lower ← textMember jsonMessage "PriceLowerLimit"
  let zjjg ← amount jsonMessage "ZJJG"
  let cjsl ← count jsonMessage "CJSL"
  let cjje ← amount jsonMessage "CJJE"
  let sjw1 ← amount jsonMessage "SJW1"
  let ssl1 ← count jsonMessage "SSL1"
  let bjw1 ← amount jsonMessage "BJW1"
  let bsl1 ← count jsonMessage "BSL1"
  return { zqdm, hqsj, mdStreamID, hqktype, tpbz, upper, lower, zjjg, cjsl, cjje, sjw1, ssl1, bjw1, bsl1 }

/-- The structure afterwards: the three texts that may be missing stay as they were. -/
def filled (message : String) (quot : QuotContent) (reading : Reading) : QuotContent :=
  let priceUpperLimit := reading.upper.getD quot.priceUpperLimit
  let priceLowerLimit := reading.lower.getD quot.priceLowerLimit
  { quot with
    zqdm := reading.zqdm, hqsj := reading.hqsj, mdStreamID := reading.mdStreamID.getD quot.mdStreamID
    hqktype := reading.hqktype, tpbz := reading.tpbz, priceUpperLimit, priceLowerLimit
    maxgain := limitOf noUpperLimit priceUpperLimit, minfall := limitOf noLowerLimit priceLowerLimit
    zjjg := reading.zjjg, cjsl := reading.cjsl, cjje := reading.cjje, sjw1 := reading.sjw1, ssl1 := reading.ssl1
    bjw1 := reading.bjw1, bsl1 := reading.bsl1, originStr := message }

/-! The readers, seen through the members. -/

variable (jsonMessage : Members) (key : String)

theorem getString_eq (out : String) : getStringFromJsonValue jsonMessage key out =
    (fun text => (if text.isSome then 0 else 1, text.getD out)) <$> textMember jsonMessage key := by
  rw [getStringFromJsonValue, textMember]
  cases jsonMessage.lookup key with
  | none => rfl
  | some value => cases value <;> rfl

theorem must_getString (out : String) :
    must (getStringFromJsonValue jsonMessage key out) = mustText jsonMessage key := by
  rw [getString_eq, mustText]
  rcases textMember jsonMessage key with stop | text
  · rfl
  · cases text <;> rfl

theorem may_getString (out : String) : may (getStringFromJsonValue jsonMessage key out) =
    (fun text => text.getD out) <$> textMember jsonMessage key := by
  rw [getString_eq]
  rcases textMember jsonMessage key with stop | text
  · rfl
  · cases text <;> rfl

theorem must_getMoney (out : UInt64) :
    must (getUINT64MoneyFromJsonValue jsonMessage key out) = amount jsonMessage key := by
  rw [getUINT64MoneyFromJsonValue, amount]
  cases jsonMessage.lookup key with
  | none => rfl
  | some value =>
    cases value with
    | text text =>
      simp only [reported_eq]
      rfl
    | integer | array | other => rfl

theorem must_getCount (out : UInt64) :
    must (getUINT64FromJsonValue jsonMessage key out) = count jsonMessage key := by
  rw [getUINT64FromJsonValue, count]
  cases jsonMessage.lookup key with
  | none => rfl
  | some value =>
    cases value with
    | integer value =>
      simp only
      split <;> rfl
    | text | array | other => rfl

theorem limitIn_eq (noLimit text : String) (out : UInt64) : limitIn noLimit text out = pure (limitOf noLimit text) := by
  rw [limitIn, limitOf, reported_eq]
  split <;> rfl

/-- Decoding is reading the message, and then filling in what it says. -/
theorem decode_eq (parse : String → Document) {message : String} (nonempty : message.isEmpty = false)
    (object : parse message = .object jsonMessage) (quot : QuotContent) :
    decodeJsonStr parse message quot = filled message quot <$> reading jsonMessage := by
  rw [decodeJsonStr, nonempty, object]
  simp only [must_getString, may_getString, must_getMoney, must_getCount, limitIn_eq]
  simp only [getString_eq, reading, map_bind, bind_map_left, pure_bind, map_pure]
  rfl

/-! The messages the decoder takes. -/

/-- A member the decoder reads as a text. -/
def Textual : Option JsonValue → Prop
  | some (.text _) | some (.array _) => True
  | _ => False

def Monetary : Option JsonValue → Prop
  | some (.text _) => True
  | _ => False

def IsCount : Option JsonValue → Prop
  | some (.text _) => True
  | some (.integer value) => 0 ≤ value
  | _ => False

/-- Twelve members have to be there, and the other three are texts where they are. -/
structure Readable (jsonMessage : Members) : Prop where
  texts : ∀ key ∈ ["ZQDM", "OrigTime", "hqktype", "TPBZ"], Textual (jsonMessage.lookup key)
  others : ∀ key ∈ ["MDStreamID", "PriceUpperLimit", "PriceLowerLimit"],
    jsonMessage.lookup key = none ∨ Textual (jsonMessage.lookup key)
  amounts : ∀ key ∈ ["ZJJG", "CJJE", "SJW1", "BJW1"], Monetary (jsonMessage.lookup key)
  counts : ∀ key ∈ ["CJSL", "SSL1", "BSL1"], IsCount (jsonMessage.lookup key)

theorem textMember_ok_iff : (∃ text, textMember jsonMessage key = .ok text) ↔
    jsonMessage.lookup key = none ∨ Textual (jsonMessage.lookup key) := by
  rw [textMember]
  cases jsonMessage.lookup key with
  | none => simp
  | some value => cases value <;> simp [Textual]

theorem mustText_ok_iff : (∃ text, mustText jsonMessage key = .ok text) ↔ Textual (jsonMessage.lookup key) := by
  rw [mustText, textMember]
  cases jsonMessage.lookup key with
  | none => simp [Textual]
  | some value => cases value <;> simp [Textual]

theorem amount_ok_iff : (∃ value, amount jsonMessage key = .ok value) ↔ Monetary (jsonMessage.lookup key) := by
  rw [amount]
  cases jsonMessage.lookup key with
  | none => simp [Monetary]
  | some value => cases value <;> simp [Monetary]

theorem count_ok_iff : (∃ value, count jsonMessage key = .ok value) ↔ IsCount (jsonMessage.lookup key) := by
  rw [count]
  cases jsonMessage.lookup key with
  | none => simp [IsCount]
  | some value =>
    cases value with
    | integer value =>
      simp only [IsCount]
      split <;> simp_all
    | text | array | other => simp [IsCount]

theorem textMember_none_iff {text : Option String} (read : textMember jsonMessage key = .ok text) :
    text = none ↔ jsonMessage.lookup key = none := by
  rw [textMember] at read
  cases found : jsonMessage.lookup key with
  | none =>
    rw [found] at read
    exact ⟨fun _ => rfl, fun _ => (Except.ok.inj read).symm⟩
  | some value =>
    rw [found] at read
    cases value with
    | text | array =>
      rw [← Except.ok.inj read]
      simp
    | integer | other => exact nomatch read

theorem bind_ok_iff {α β : Type} {first : Except Stop α} {next : α → Except Stop β} {result : β} :
    first >>= next = .ok result ↔ ∃ value, first = .ok value ∧ next value = .ok result := by
  constructor
  · intro same
    cases first with
    | error stop => exact nomatch same
    | ok value => exact ⟨value, rfl, same⟩
  · intro ⟨value, same, after⟩
    rw [same]
    exact after

theorem reading_ok_iff : (∃ content, reading jsonMessage = .ok content) ↔ Readable jsonMessage := by
  simp only [reading, bind_ok_iff]
  constructor
  · intro ⟨_, _, zqdm, _, hqsj, _, mdStreamID, _, hqktype, _, tpbz, _, upper, _, lower, _, zjjg, _, cjsl, _, cjje,
      _, sjw1, _, ssl1, _, bjw1, _, bsl1, _⟩
    refine ⟨?_, ?_, ?_, ?_⟩
    · simp only [List.forall_mem_cons, ← mustText_ok_iff]
      exact ⟨⟨_, zqdm⟩, ⟨_, hqsj⟩, ⟨_, hqktype⟩, ⟨_, tpbz⟩, by simp⟩
    · simp only [List.forall_mem_cons, ← textMember_ok_iff]
      exact ⟨⟨_, mdStreamID⟩, ⟨_, upper⟩, ⟨_, lower⟩, by simp⟩
    · simp only [List.forall_mem_cons, ← amount_ok_iff]
      exact ⟨⟨_, zjjg⟩, ⟨_, cjje⟩, ⟨_, sjw1⟩, ⟨_, bjw1⟩, by simp⟩
    · simp only [List.forall_mem_cons, ← count_ok_iff]
      exact ⟨⟨_, cjsl⟩, ⟨_, ssl1⟩, ⟨_, bsl1⟩, by simp⟩
  · intro ⟨texts, others, amounts, counts⟩
    simp only [List.forall_mem_cons, ← mustText_ok_iff] at texts
    simp only [List.forall_mem_cons, ← textMember_ok_iff] at others
    simp only [List.forall_mem_cons, ← amount_ok_iff] at amounts
    simp only [List.forall_mem_cons, ← count_ok_iff] at counts
    obtain ⟨⟨_, zqdm⟩, ⟨_, hqsj⟩, ⟨_, hqktype⟩, ⟨_, tpbz⟩, _⟩ := texts
    obtain ⟨⟨_, mdStreamID⟩, ⟨_, upper⟩, ⟨_, lower⟩, _⟩ := others
    obtain ⟨⟨_, zjjg⟩, ⟨_, cjje⟩, ⟨_, sjw1⟩, ⟨_, bjw1⟩, _⟩ := amounts
    obtain ⟨⟨_, cjsl⟩, ⟨_, ssl1⟩, ⟨_, bsl1⟩, _⟩ := counts
    exact ⟨_, _, zqdm, _, hqsj, _, mdStreamID, _, hqktype, _, tpbz, _, upper, _, lower, _, zjjg, _, cjsl, _, cjje, _,
      sjw1, _, ssl1, _, bjw1, _, bsl1, rfl⟩

theorem reading_others {content : Reading} (read : reading jsonMessage = .ok content) :
    textMember jsonMessage "MDStreamID" = .ok content.mdStreamID ∧
      textMember jsonMessage "PriceUpperLimit" = .ok content.upper ∧
      textMember jsonMessage "PriceLowerLimit" = .ok content.lower := by
  simp only [reading, bind_ok_iff] at read
  obtain ⟨_, _, _, _, _, mdStreamID, _, _, _, _, _, upper, _, lower, _, _, _, _, _, _, _, _, _, _, _, _, _, _, same⟩ := read
  cases Except.ok.inj same
  exact ⟨mdStreamID, upper, lower⟩

theorem reading_missing {content : Reading} (read : reading jsonMessage = .ok content) :
    (content.mdStreamID = none ↔ jsonMessage.lookup "MDStreamID" = none) ∧
      (content.upper = none ↔ jsonMessage.lookup "PriceUpperLimit" = none) ∧
      (content.lower = none ↔ jsonMessage.lookup "PriceLowerLimit" = none) := by
  obtain ⟨mdStreamID, upper, lower⟩ := reading_others jsonMessage read
  exact ⟨textMember_none_iff jsonMessage _ mdStreamID, textMember_none_iff jsonMessage _ upper,
    textMember_none_iff jsonMessage _ lower⟩

/-! Two structures that held something before. -/

/-- What the reading loop stores or tests of two results. -/
def Alike : Except Stop QuotContent → Except Stop QuotContent → Prop
  | .ok first, .ok second => first.toAStockQuot = second.toAStockQuot ∧ first.mdStreamID = second.mdStreamID ∧
      first.hqktype = second.hqktype
  | .error first, .error second => first = second
  | _, _ => False

theorem stored_alike (parse : String → Document) (ptime : String → Option Int) (replies : Replies) (message : String)
    {first second : QuotContent} (store : QuoteStore)
    (alike : Alike (decodeJsonStr parse message first) (decodeJsonStr parse message second)) :
    (readMessage parse ptime replies message first store).map Prod.snd =
      (readMessage parse ptime replies message second store).map Prod.snd := by
  rw [readMessage, readMessage]
  cases one : decodeJsonStr parse message first with
  | error =>
    cases two : decodeJsonStr parse message second with
    | error => rfl
    | ok => simp [one, two, Alike] at alike
  | ok first =>
    cases two : decodeJsonStr parse message second with
    | error => simp [one, two, Alike] at alike
    | ok second =>
      rw [one, two] at alike
      obtain ⟨stored, stream, kind⟩ := alike
      have code : first.zqdm = second.zqdm := congrArg AStockQuot.zqdm stored
      have valid : validate first = validate second := by
        rw [validate, validate, code, stream, kind]
      simp only [valid, stored]
      split <;> rfl

/-- The members that are missing would be taken from the same texts, or from limits of the
same amount. -/
structure Equalled (jsonMessage : Members) (first second : QuotContent) : Prop where
  stream : jsonMessage.lookup "MDStreamID" = none → first.mdStreamID = second.mdStreamID
  upper : jsonMessage.lookup "PriceUpperLimit" = none →
    limitOf noUpperLimit first.priceUpperLimit = limitOf noUpperLimit second.priceUpperLimit
  lower : jsonMessage.lookup "PriceLowerLimit" = none →
    limitOf noLowerLimit first.priceLowerLimit = limitOf noLowerLimit second.priceLowerLimit

theorem getD_eq_iff {α β : Type} (f : α → β) (text : Option α) (first second : α) :
    f (text.getD first) = f (text.getD second) ↔ (text = none → f first = f second) := by
  cases text <;> simp

theorem filled_alike_iff (message : String) (content : Reading) (first second : QuotContent) :
    Alike (.ok (filled message first content)) (.ok (filled message second content)) ↔
      (content.mdStreamID = none → first.mdStreamID = second.mdStreamID) ∧
      (content.upper = none →
        limitOf noUpperLimit first.priceUpperLimit = limitOf noUpperLimit second.priceUpperLimit) ∧
      (content.lower = none →
        limitOf noLowerLimit first.priceLowerLimit = limitOf noLowerLimit second.priceLowerLimit) := by
  have stream := getD_eq_iff id content.mdStreamID first.mdStreamID second.mdStreamID
  have upper := getD_eq_iff (limitOf noUpperLimit) content.upper first.priceUpperLimit second.priceUpperLimit
  have lower := getD_eq_iff (limitOf noLowerLimit) content.lower first.priceLowerLimit second.priceLowerLimit
  simp only [id_eq] at stream
  simp only [Alike, filled, AStockQuot.mk.injEq, true_and, and_true, ← stream, ← upper, ← lower]
  tauto

/-- What is decoded does not depend on what was decoded before exactly where the message is
not taken, or every member it misses had the same text before. -/
theorem decoded_alike_iff (parse : String → Document) (message : String) (first second : QuotContent) :
    Alike (decodeJsonStr parse message first) (decodeJsonStr parse message second) ↔
      (message.isEmpty = false → ∀ jsonMessage, parse message = .object jsonMessage → Readable jsonMessage →
        Equalled jsonMessage first second) := by
  cases empty : message.isEmpty with
  | true => simp [decodeJsonStr, empty, Alike]
  | false =>
    cases parsed : parse message with
    | parseError | null | other => simp [decodeJsonStr, empty, parsed, Alike]
    | object jsonMessage =>
      rw [decode_eq jsonMessage parse empty parsed, decode_eq jsonMessage parse empty parsed]
      have accepted := reading_ok_iff jsonMessage
      cases read : reading jsonMessage with
      | error stop =>
        have refused : ¬ Readable jsonMessage := by
          rw [← accepted, read]
          intro ⟨_, same⟩
          exact nomatch same
        simp [Alike, refused]
      | ok content =>
        have readable := accepted.mp ⟨content, read⟩
        obtain ⟨stream, upper, lower⟩ := reading_missing jsonMessage read
        simp only [Except.map_ok, filled_alike_iff, stream, upper, lower, forall_const, Document.object.injEq]
        constructor
        · intro ⟨streams, uppers, lowers⟩ other same _
          subst same
          exact ⟨streams, uppers, lowers⟩
        · intro equalled
          have same := equalled jsonMessage rfl readable
          exact ⟨same.stream, same.upper, same.lower⟩

/-- A message without an upper limit. -/
def unlimited : List (String × String) :=
  [("ZQDM", "600000"), ("OrigTime", "20170629091921000"), ("MDStreamID", "MD002"), ("hqktype", "SHHQ"), ("TPBZ", "F"),
    ("PriceLowerLimit", "9.0000"), ("ZJJG", "10.000000"), ("CJSL", "100.00"), ("CJJE", "1000.0000"),
    ("SJW1", "10.010000"), ("SSL1", "100.00"), ("BJW1", "9.990000"), ("BSL1", "100.00")]

def emptied : QuotContent where
  zqdm := ""
  hqsj := ""
  tpbz := ""
  maxgain := 0
  minfall := 0
  zjjg := 0
  cjsl := 0
  cjje := 0
  sjw1 := 0
  ssl1 := 0
  bjw1 := 0
  bsl1 := 0
  originStr := ""

/-- Behind a quote with an upper limit the limit of that one is stored. -/
theorem limit_left_behind : ¬ ∀ (message : String) (first second : QuotContent),
    Alike (decodeJsonStr flatDocument message first) (decodeJsonStr flatDocument message second) := by
  intro alike
  obtain ⟨message, nonempty, object⟩ : ∃ message : String, message.isEmpty = false ∧
      flatDocument message = .object (unlimited.map fun member => (member.1, .text member.2)) :=
    ⟨written unlimited, by decide +kernel, flatDocument_flat unlimited (by decide) (by decide +kernel)⟩
  have readable : Readable (unlimited.map fun member => (member.1, .text member.2)) := by
    refine ⟨?_, ?_, ?_, ?_⟩ <;> simp [unlimited, Textual, Monetary, IsCount, List.lookup_cons]
  obtain ⟨content, read⟩ := (reading_ok_iff _).mpr readable
  have missing := (reading_missing _ read).2.1.mpr (by simp [unlimited, List.lookup_cons])
  have same := alike message emptied { emptied with priceUpperLimit := "11.0000" }
  rw [decode_eq _ _ nonempty object, decode_eq _ _ nonempty object, read] at same
  have limits := ((filled_alike_iff _ _ _ _).mp same).2.1 missing
  exact absurd limits (by decide +kernel)

end Simutgw.Proofs.QuoteIsolation
