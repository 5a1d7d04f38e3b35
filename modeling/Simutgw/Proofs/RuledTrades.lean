import Simutgw.MatchTask
import Simutgw.ReportPass
import Simutgw.SzConnection
import Simutgw.Proofs.CalendarStamps

/-! The trades of an order with a rule: those that the rule lists for it, and the reports
that come of them in Shanghai and in Shenzhen. Whether an element can be resolved is a
matter of the element and the order, not of the numbers that have been drawn by then. -/

namespace Simutgw.Proofs.RuledTrades
open ReportSql RuleWordProc TimeStringUtil SofString TgwStringUtil

/-- A word or an expression is resolved for an order. -/
def Resolves (order : ReportedOrder) (time : CalendarTime) (conns : MapShConns) (elem : RuleElement)
    (column : String) : Prop :=
  ∃ out code text, code ≠ -1 ∧ ShDb.resolveRule (ruleWords order time conns) elem column out = some (code, text)

/-- Every column of a trade's row can be resolved from the element. -/
def Evaluates (order : ReportedOrder) (time : CalendarTime) (conns : MapShConns) (elem : RuleElement) : Prop :=
  ∀ column ∈ reportColumns, Resolves order time conns elem column

section Rows

variable {order : ReportedOrder} {elem : RuleElement}

/-- The two sets of counters have the order's session, or neither has. -/
def Alike (order : ReportedOrder) (conns others : MapShConns) : Prop :=
  (conns order.sessionId).isSome = (others order.sessionId).isSome

theorem drawn_alike (conns : MapShConns) (elem : RuleElement) (ruleKey : String) :
    Alike order conns (drawn order conns elem ruleKey) := by
  have counted (conn : ShNumbers) (there : (conns order.sessionId).isSome) :
      Alike order conns (Function.update conns order.sessionId (some conn)) := by
    rw [Alike, there, Function.update_self, Option.isSome_some]
  unfold drawn
  split
  next words conn member there =>
    have session : (conns order.sessionId).isSome := by rw [there, Option.isSome_some]
    split_ifs
    · exact counted _ session
    · exact counted _ session
    · exact rfl
  next => exact rfl

/-- Two sets of words know the same fields and have the same numbers, whatever these are. -/
structure SameWords (words others : ShWords) : Prop where
  fields : words.jsOrder = others.jsOrder
  recNum : words.recNum.isSome = others.recNum.isSome
  cjbh : words.cjbh.isSome = others.cjbh.isSome

theorem ruleWords_same (time later : CalendarTime) {conns others : MapShConns} (alike : Alike order conns others) :
    SameWords (ruleWords order time conns) (ruleWords order later others) :=
  ⟨rfl, by simpa [ruleWords, Alike] using alike, by simpa [ruleWords, Alike] using alike⟩

theorem both_or_none {mine theirs : Option UInt64} (present : mine.isSome = theirs.isSome) :
    (mine = none ∧ theirs = none) ∨ ∃ value other, mine = some value ∧ theirs = some other := by
  cases mine with
  | none => exact .inl ⟨rfl, Option.isNone_iff_eq_none.mp (Option.isSome_eq_false_iff.mp present.symm)⟩
  | some value =>
    obtain ⟨other, there⟩ := Option.isSome_iff_exists.mp present.symm
    exact .inr ⟨value, other, rfl, there⟩

theorem replaceWord_code {words others : ShWords} (same : SameWords words others) (word out left : String) :
    (ShDb.replaceWord words word out).1 = (ShDb.replaceWord others word left).1 := by
  unfold ShDb.replaceWord
  dsimp only
  split
  next => rfl
  next rest dollar =>
    split_ifs
    · obtain ⟨mine, theirs⟩ | ⟨value, other, mine, theirs⟩ := both_or_none same.recNum
      · simp only [mine, theirs]
      · simp only [mine, theirs]
    · rfl
    · rfl
    · rfl
    · obtain ⟨mine, theirs⟩ | ⟨value, other, mine, theirs⟩ := both_or_none same.cjbh
      · simp only [mine, theirs]
      · simp only [mine, theirs]
    · rfl
  next atValue field =>
    rw [same.fields]
    split
    next => rfl
    next => rfl
  next => rfl

/-- Whether a member is resolved does not depend on the numbers, the time or what is
handed out without one. -/
theorem resolves_alike {time : CalendarTime} {conns : MapShConns} {column : String}
    (resolves : Resolves order time conns elem column) (later : CalendarTime) {others : MapShConns}
    (alike : Alike order conns others) (left : String) :
    ∃ code text, code ≠ -1 ∧ ShDb.resolveRule (ruleWords order later others) elem column left = some (code, text) := by
  obtain ⟨out, code, text, success, resolved⟩ := resolves
  have same := ruleWords_same time later alike
  unfold ShDb.resolveRule at resolved ⊢
  split at resolved
  next words member =>
    split at resolved
    next nothing => exact absurd nothing (mt List.map_eq_nil_iff.mp (List.splitOn_ne_nil _ _))
    next word only =>
      have codes := replaceWord_code same word out left
      rw [Option.some.inj resolved] at codes
      exact ⟨_, _, codes ▸ success, rfl⟩
    next several =>
      split at resolved
      next =>
        cases resolved
        exact absurd rfl success
      next value evaluated =>
        have again : evaluate (ShDb.replaceWordDouble (ruleWords order later others)) 0 (splitBlank words) = some value :=
          evaluated
        obtain ⟨trans, printed, pair⟩ := Option.map_eq_some_iff.mp resolved
        rw [again]
        dsimp only
        rw [printed]
        cases pair
        exact ⟨_, _, success, rfl⟩
  next =>
    cases resolved
    exact absurd rfl success

theorem appendColumns_made {columns : List String} {time : CalendarTime} {conns : MapShConns}
    (resolves : ∀ column ∈ columns, Resolves order time conns elem column) (clock : String → CalendarTime)
    (strEmpty sql out : String) {others : MapShConns} (alike : Alike order conns others) :
    ∃ whole left after, appendColumns order clock elem strEmpty columns sql out others = (some (whole, left), after) ∧
      Alike order conns after := by
  induction columns generalizing sql out others with
  | nil => exact ⟨sql, out, others, rfl, alike⟩
  | cons column columns ih =>
    obtain ⟨code, text, success, resolved⟩ :=
      resolves_alike (resolves column List.mem_cons_self) (clock column) alike out
    simp only [appendColumns, resolved, success, if_false]
    apply ih (fun other inside => resolves other (List.mem_cons_of_mem _ inside))
    exact alike.trans (drawn_alike others elem column)

/-- A statement for the trade of an element. -/
def StatementOf (order : ReportedOrder) (elem : RuleElement) (sql : String) : Prop :=
  ∃ clock out before whole left after,
    appendColumns order clock elem "NULL" reportColumns reportHead out before = (some (whole, left), after) ∧
      sql = whole ++ ");"

theorem reportRows_each {elems : List RuleElement} {time : CalendarTime} {conns : MapShConns}
    (evaluate : ∀ elem ∈ elems, Evaluates order time conns elem) (clock : Nat → String → CalendarTime) (i : Nat)
    (out : String) {others : MapShConns} (alike : Alike order conns others) :
    (reportRows order clock (elems.map some) i out others).1 = 0 ∧
      List.Forall₂ (StatementOf order) elems (reportRows order clock (elems.map some) i out others).2.1 := by
  induction elems generalizing i out others with
  | nil => exact ⟨rfl, .nil⟩
  | cons elem elems ih =>
    obtain ⟨whole, left, after, appended, still⟩ :=
      appendColumns_made (evaluate elem List.mem_cons_self) (clock i) "NULL" reportHead out alike
    obtain ⟨code, rows⟩ := ih (fun other inside => evaluate other (List.mem_cons_of_mem _ inside)) (i + 1) left still
    simp only [List.map_cons, reportRows, appended]
    exact ⟨code, .cons ⟨clock i, out, others, whole, left, after, appended, rfl⟩ rows⟩

end Rows

/-- An order of Shanghai's whose rule lists trades that all evaluate, and the report its
task has queued. -/
structure ShRuled (docs : List String) where
  order : OrderMessage
  cache : StockCache
  report : QueuedReport
  member : String → RuleElement
  docRuleConfirm : Option RuleElement
  time : CalendarTime
  conns : MapShConns
  market : order.isSh = true
  ruled : order.tradePolicy.ruleId ≠ 0
  queued : report.order.toOrderMessage ∈ (TaskShRuleMatch.matchOrder cache order).pushed
  rule : report.ptrRuleSh = some ⟨docRuleConfirm, some (docs.map fun doc => some (member doc))⟩
  evaluate : ∀ doc ∈ docs, Evaluates report.order time conns (member doc)

/-- The same of Shenzhen's. -/
structure SzRuled (docs : List String) where
  order : OrderMessage
  cache : StockCache
  report : SzReport
  docRuleConfirm : Option String
  setting : SzSetting
  conns : Conns
  market : order.isSz = true
  ruled : order.tradePolicy.ruleId ≠ 0
  queued : report.order ∈ (TaskSzRuleMatch.matchOrder cache order).pushed
  rule : report.ptrRuleSz = some ⟨docRuleConfirm, some (docs.map some)⟩
  evaluate : ∀ doc ∈ docs, (SzReport.resolveRule setting conns report doc).code = 0

/-- The task queues one report, and whenever that is popped there is a statement for each
trade, in their order. -/
def ShRuled.OneEach {docs : List String} (sh : ShRuled docs) : Prop :=
  (TaskShRuleMatch.matchOrder sh.cache sh.order).pushed = [sh.report.order.toOrderMessage] ∧
    ∀ (clock : Nat → String → CalendarTime) (conns : MapShConns), Alike sh.report.order sh.conns conns →
      List.Forall₂ (StatementOf sh.report.order) (docs.map sh.member) (building clock sh.report conns).2.1

/-- The message that is sent, if one is. -/
def sent (sending : Sending) : List FixMessage := if sending.code = 0 then [sending.message] else []

/-- A message for the trade of an element. -/
def MessageOf {docs : List String} (sz : SzRuled docs) (doc : String) (message : FixMessage) : Prop :=
  ∃ conns, message = (SzReport.resolveRule sz.setting conns sz.report doc).message

def SzRuled.OneEach {docs : List String} (sz : SzRuled docs) : Prop :=
  (TaskSzRuleMatch.matchOrder sz.cache sz.order).pushed = [sz.report.order] ∧
    ∀ (transId : String) (conns : Conns), List.Forall₂ (MessageOf sz) docs
      (sent (SzReport.build sz.setting conns sz.report (sz.report.building transId)))

section Reports

variable {docs : List String}

theorem pushed_filled {cache : StockCache} {order report : OrderMessage}
    (queued : report ∈ (ruleMatchOrder cache order).pushed) :
    report = order.markedAs .matchAll ∧ (ruleMatchOrder cache order).pushed = [report] := by
  simp only [ruleMatchOrder, OutMemoryManage.pushed] at queued ⊢
  split at queued
  next accepted =>
    obtain rfl := List.mem_singleton.mp queued
    rw [if_pos accepted]
    exact ⟨rfl, rfl⟩
  next => cases queued

theorem sh_not_sz {order : OrderMessage} (market : order.isSh = true) : order.isSz = false := by
  rw [OrderMessage.isSh, beq_iff_eq] at market
  rw [OrderMessage.isSz, market]
  decide

theorem ShRuled.one_each (sh : ShRuled docs) : sh.OneEach := by
  obtain ⟨filled, alone⟩ := pushed_filled sh.queued
  refine ⟨alone, ?_⟩
  intro clock conns alike
  have market : sh.report.order.isSh = true := by rw [filled]; exact sh.market
  have ruled : sh.report.order.tradePolicy.ruleId ≠ 0 := by rw [filled]; exact sh.ruled
  have matched : sh.report.order.matchType = .matchAll := by rw [filled]; rfl
  have evaluate : ∀ elem ∈ docs.map sh.member, Evaluates sh.report.order sh.time sh.conns elem := by
    simpa only [List.forall_mem_map] using sh.evaluate
  have rows := (reportRows_each evaluate clock 0 "" alike).2
  simp only [building, matched, procSingleReport, sh_not_sz market, market, ruled, sh.rule, fixToSHReportJsonRule,
    ne_eq, not_false_eq_true, if_true, Bool.false_eq_true, if_false]
  rwa [List.map_map] at rows

/-- The code of a report by rule does not depend on the connections. -/
theorem resolveRule_code (setting : SzSetting) (conns others : Conns) (report : SzReport) (doc : String) :
    (SzReport.resolveRule setting conns report doc).code = (SzReport.resolveRule setting others report doc).code := by
  unfold SzReport.resolveRule
  split
  · rfl
  · split
    · dsimp only
      split
      · rfl
      · split
        · rfl
        · rfl
    · rfl

theorem SzRuled.building_eq (sz : SzRuled docs) (transId : String) :
    sz.report.building transId = SzReport.procMsgType8ReportJsonRule ⟨sz.docRuleConfirm, some (docs.map some)⟩ := by
  obtain ⟨filled, _⟩ := pushed_filled sz.queued
  have market : sz.report.order.isSz = true := by rw [filled]; exact sz.market
  have ruled : sz.report.order.tradePolicy.ruleId ≠ 0 := by rw [filled]; exact sz.ruled
  have matched : sz.report.order.matchType = .matchAll := by rw [filled]; rfl
  simp only [SzReport.building, matched, SzReport.procSingleReport, SzReport.procRuled, market, ruled, sz.rule,
    Bool.not_true, Bool.false_eq_true, if_false, ne_eq, not_false_eq_true, if_true]

theorem SzRuled.one_each_iff (sz : SzRuled docs) : sz.OneEach ↔ docs.length ≤ 1 := by
  obtain ⟨_, alone⟩ := pushed_filled sz.queued
  have evaluate := sz.evaluate
  unfold SzRuled.OneEach
  simp only [sz.building_eq]
  cases docs with
  | nil =>
    refine iff_of_true ⟨alone, fun transId conns => ?_⟩ (Nat.zero_le 1)
    exact .nil
  | cons doc docs =>
    have first (conns : Conns) : (SzReport.resolveRule sz.setting conns sz.report doc).code = 0 :=
      (resolveRule_code _ _ _ _ _).trans (evaluate doc List.mem_cons_self)
    have one (conns : Conns) : sent (SzReport.build sz.setting conns sz.report (SzReport.procMsgType8ReportJsonRule
        ⟨sz.docRuleConfirm, some ((doc :: docs).map some)⟩)) =
        [(SzReport.resolveRule sz.setting conns sz.report doc).message] := if_pos (first conns)
    constructor
    · intro ⟨_, each⟩
      have lengths := (each "" sz.conns).length_eq
      rw [one, List.length_singleton] at lengths
      exact lengths.le
    · intro short
      obtain rfl := List.length_eq_zero_iff.mp (Nat.le_zero.mp (Nat.le_of_succ_le_succ short))
      refine ⟨alone, fun transId conns => ?_⟩
      rw [one]
      exact .cons ⟨conns, rfl⟩ .nil

end Reports

/-- Shanghai's loop reports every trade of the rule; Shenzhen's does just where there is
not more than one. -/
theorem one_report_each_iff (docs : List String) (sh : ShRuled docs) (sz : SzRuled docs) :
    sh.OneEach ∧ (sz.OneEach ↔ docs.length ≤ 1) := ⟨sh.one_each, sz.one_each_iff⟩

/-- A rule's order in a market, from a counter. -/
def ruledOrder (tradeMarket : String) : OrderMessage where
  tradeMarket := tradeMarket
  tradePolicy := { ruleId := 7 }
  beginString := "STEP.1.0.0"
  senderCompID := "counter"
  targetCompID := "simutgw"
  msgType := Step.msgTypeNewOrder
  sessionId := "sh"

/-- Every column of every trade is a word of its own. -/
def shSample (docs : List String) : ShRuled docs where
  order := ruledOrder tradeMarketSh
  cache := fun _ _ => none
  report :=
    { order := { (ruledOrder tradeMarketSh).markedAs .matchAll with }
      ptrRuleSh := some ⟨none, some (docs.map fun _ => some fun _ => some (.text "1"))⟩ }
  member _ _ := some (.text "1")
  docRuleConfirm := none
  time := CalendarStamps.halfMinute
  conns _ := some {}
  market := by decide
  ruled := by decide
  queued := List.mem_singleton_self _
  rule := rfl
  evaluate := by
    intro doc _ column _
    have word : splitBlank "1" = ["1"] := by decide +kernel
    refine ⟨"", 0, "1", by decide, ?_⟩
    simp only [ShDb.resolveRule, word]
    rfl

/-- The order came in a message, and a trade sets the text of an execution report. -/
def szSample (docs : List String) : SzRuled docs where
  order := ruledOrder tradeMarketSz
  cache := fun _ _ => none
  report :=
    { order := (ruledOrder tradeMarketSz).markedAs .matchAll
      szfixMsg := Logic.Hash.set (fun _ => none) [("BeginString", "STEP.1.0.0"), ("SenderCompID", "counter"),
        ("TargetCompID", "simutgw"), ("ApplID", "010")]
      ptrRuleSz := some ⟨none, some (docs.map some)⟩
      genuine := by
        intro sender named
        exact (Option.some.inj named).symm }
  docRuleConfirm := none
  setting := { ver110 := false, resolveElement := fun doc _ => some [("Text", doc)] }
  conns _ := none
  market := by decide
  ruled := by decide
  queued := List.mem_singleton_self _
  rule := rfl
  evaluate := by
    intro doc _
    rfl

/-- One trade is reported in both markets. -/
theorem one_trade_alike : (shSample ["first"]).OneEach ∧ (szSample ["first"]).OneEach := by
  obtain ⟨sh, sz⟩ := one_report_each_iff ["first"] (shSample _) (szSample _)
  exact ⟨sh, sz.mpr (by decide)⟩

/-- Of two trades Shenzhen reports one. -/
theorem two_trades_differ : ¬ ∀ (docs : List String) (sh : ShRuled docs) (sz : SzRuled docs),
    sh.OneEach ∧ sz.OneEach := by
  intro alike
  have short := (szSample ["first", "second"]).one_each_iff.mp (alike _ (shSample _) _).2
  exact absurd short (by decide)

end Simutgw.Proofs.RuledTrades
