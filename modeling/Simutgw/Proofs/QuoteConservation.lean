import Simutgw.Logic.Runs
import Simutgw.Proofs.DecimalText
import Simutgw.Proofs.QuoteMatching

/-! One order matched against quote after quote until it is filled or cancelled. A
quote the order takes gives a slice of it. Every slice should be reported once and
taken off the quote, and what is reported, cancelled and pending should always be
the order's quantity. -/

namespace Simutgw.Proofs.QuoteConservation
open ABStockMatch DecimalText MarketInfoHelper OutMemoryManage QuoteMatching SofString TgwStringUtil Logic

inductive Standing where
  | pending
  | filled
  | cancelled
  | rejected
  deriving DecidableEq

def standingOf : MatchType → Standing
  | .matchAll => .filled
  | .cancelMatch => .cancelled
  | .matchPart | .notMatch => .pending
  | .outOfRange | .stopTrans | .errorMatch => .rejected

/-- The order between two events, and every message pushed for it so far. -/
structure Desk where
  order : OrderMessage
  standing : Standing
  reports : List OrderMessage

inductive Event where
  | attempt (round : Round)
  | cancel (request : OrderMessage) (transId : String)

/-- The holdings are whatever other orders have left. -/
inductive Step : Steps Desk Event
  | attempt {desk : Desk} (db : StockDb) (cache : StockCache) (round : Round) {attempt : Attempt}
      (live : desk.standing = .pending) (ran : enableQuoMatch db round cache desk.order = some attempt) :
      Step desk (.attempt round)
        ⟨attempt.order, standingOf attempt.order.matchType, desk.reports ++ attempt.pushed⟩
  | cancel {desk : Desk} (request : OrderMessage) (transId : String) (live : desk.standing = .pending) :
      Step desk (.cancel request transId)
        ⟨TaskCancelOrder.procCancelSuccess request desk.order transId, .cancelled,
          desk.reports ++ pushed (TaskCancelOrder.procCancelSuccess request desk.order transId)⟩

/-- An order as it is first queued. -/
structure Fresh (order : OrderMessage) : Prop where
  leaves : order.leavesQty = order.orderqtyOrigin
  text : order.strLeavesQty = order.strOrderqtyOrigin
  origin : string2UInt64 order.strOrderqtyOrigin = order.orderqtyOrigin

def Desk.start (order : OrderMessage) : Desk := ⟨order, .pending, []⟩

def isTrade (report : OrderMessage) : Bool :=
  report.matchType == .matchAll || report.matchType == .matchPart

def trades (reports : List OrderMessage) : List OrderMessage := reports.filter isTrade

namespace Desk

def reported (desk : Desk) : Nat := ((trades desk.reports).map fun report => report.orderqtyMatched.toNat).sum

def cancelledQty (desk : Desk) : Nat :=
  if desk.standing = .cancelled then (string2UInt64 desk.order.lastQty).toNat else 0

def unmatched (desk : Desk) : Nat :=
  match desk.standing with
  | .pending | .rejected => desk.order.leavesQty.toNat
  | .filled | .cancelled => 0

end Desk

def Conserved (origin : UInt64) (desk : Desk) : Prop :=
  desk.reported + desk.cancelledQty + desk.unmatched = origin.toNat

/-- The quantity and price a quote gives an order. -/
def sliceOf (order : OrderMessage) (quote : Quote) : UInt64 × UInt64 :=
  (if quote.cjsl < order.leavesQty then quote.cjsl else order.leavesQty, quote.cjje / quote.cjsl)

/-- The field the order read the quote's volume from. -/
def capacityField (order : OrderMessage) : String :=
  volumeField order.tradePolicy.quotationMatchType order (MatchUtil.getOrderCircleID order)

/-- One report of the slice, and the quote's volume less the slice. -/
def Sliced (order : OrderMessage) (round : Round) (attempt : Attempt) : Prop :=
  (∀ quote, round.quote = some quote → ¬ Takes order quote) ∧ trades attempt.pushed = [] ∧ attempt.written = [] ∨
    ∃ quote report, round.quote = some quote ∧ Takes order quote ∧ attempt.pushed = [report] ∧ isTrade report = true ∧
      (report.orderqtyMatched, report.priceMatched) = sliceOf order quote ∧
      report.lastQty = itostr (sliceOf order quote).1 ∧ report.lastPx = iLiToStr (sliceOf order quote).2 4 ∧
      (capacityField order, itostr (quote.cjsl - (sliceOf order quote).1)) ∈ attempt.written

/-- What a trade needs: its report is taken, the write-back succeeds and goes to
the field the volume was read from, and no remainder is cancelled with the trade. -/
structure Clean (order : OrderMessage) (round : Round) (quote : Quote) : Prop where
  delivered : pushBack order = 0
  stored : round.stored = true
  named : volumeField round.quotationType order (MatchUtil.getOrderCircleID order) = capacityField order
  whole : cancelsRemainder order.delType = true → order.leavesQty ≤ quote.cjsl

/-- A partly filled order is cancelled through its text, which reads back below 2^63. -/
def Meets (desk : Desk) : Event → Prop
  | .attempt round => ∀ quote, round.quote = some quote → Takes desk.order quote → Clean desk.order round quote
  | .cancel _ _ => desk.order.leavesQty.toNat < 2 ^ 63 ∨ desk.order.leavesQty = desk.order.orderqtyOrigin

theorem pushed_delivered {msg : OrderMessage} (delivered : pushBack msg = 0) : pushed msg = [msg] := by
  simp [pushed, delivered]

theorem reported_append (order : OrderMessage) (standing : Standing) (before more : List OrderMessage) :
    Desk.reported ⟨order, standing, before ++ more⟩ =
      ((trades before).map fun report => report.orderqtyMatched.toNat).sum +
        ((trades more).map fun report => report.orderqtyMatched.toNat).sum := by
  simp [Desk.reported, trades]

theorem trades_rejection {order : OrderMessage} (rejected : order.matchType = .errorMatch) :
    trades (pushed order) = [] := by
  unfold pushed
  split
  · simp [trades, isTrade, rejected]
  · rfl

section Attempts

variable {db : StockDb} {cache : StockCache} {round : Round} {order : OrderMessage} {attempt : Attempt}

theorem reports_delivered {hqsj : String} {after : OrderMessage} {cjsl cjje : UInt64}
    (closed : Closes round order hqsj after cjsl cjje attempt) (delivered : pushBack after = 0) :
    attempt.pushed = [after] := by
  rw [closed.report]
  exact pushed_delivered delivered

theorem leaves_stored {hqsj : String} {after : OrderMessage} {cjsl cjje : UInt64}
    (closed : Closes round order hqsj after cjsl cjje attempt) (stored : round.stored = true) :
    attempt.order = after := by
  have left := closed.left
  simpa only [stored, if_true] using left

/-- A run of the task on quotes that meet the condition reports its slice once. -/
theorem attempt_sliced (ran : enableQuoMatch db round cache order = some attempt)
    (clean : ∀ quote, round.quote = some quote → Takes order quote → Clean order round quote) :
    Sliced order round attempt := by
  cases enableQuoMatch_outcome ran with
  | refused untaken refused unwritten quiet =>
    refine Or.inl ⟨untaken, ?_, unwritten⟩
    rcases quiet with silent | ⟨rejected, report⟩
    · simp [silent, trades]
    · rw [report, trades_rejection rejected]
  | @part quote _ after read takes short holds booked closed =>
    obtain ⟨delivered, stored, named, _⟩ := clean quote read takes
    obtain ⟨_, _, _, wrote⟩ := booked
    have slice : sliceOf order quote = (quote.cjsl, quote.cjje / quote.cjsl) := by simp [sliceOf, short]
    have report := reports_delivered closed (by rw [wrote]; exact delivered)
    refine Or.inr ⟨quote, after, read, takes, report, ?_⟩
    rw [slice, closed.written, stored, UInt64.sub_self, ← named]
    refine ⟨?_, ?_, ?_, ?_, ?_⟩
    all_goals rw [wrote]
    all_goals first | rfl | exact List.mem_cons_self
  | @cut quote _ _ read takes short cancels _ _ _ _ _ =>
    have whole := (clean quote read takes).whole cancels
    exact absurd short (UInt64.not_lt.mpr whole)
  | @whole quote _ after read takes enough booked closed =>
    obtain ⟨delivered, stored, named, _⟩ := clean quote read takes
    obtain ⟨_, _, _, wrote⟩ := booked
    have slice : sliceOf order quote = (order.leavesQty, quote.cjje / quote.cjsl) := by
      simp [sliceOf, UInt64.not_lt.mpr enough]
    have report := reports_delivered closed (by rw [wrote]; exact delivered)
    refine Or.inr ⟨quote, after, read, takes, report, ?_⟩
    rw [slice, closed.written, stored, ← named]
    refine ⟨?_, ?_, ?_, ?_, ?_⟩
    all_goals rw [wrote]
    all_goals first | rfl | exact List.mem_cons_self

end Attempts

/-- What holds of an order between two events: its quantity is conserved, and the
text a cancel would read stands for its leaves. -/
structure Held (origin : UInt64) (desk : Desk) : Prop where
  original : desk.order.orderqtyOrigin = origin
  parsed : string2UInt64 desk.order.strOrderqtyOrigin = origin
  text : desk.standing = .pending →
    desk.order.leavesQty = origin ∧ desk.order.strLeavesQty = desk.order.strOrderqtyOrigin ∨
      desk.order.leavesQty ≠ origin ∧ desk.order.strLeavesQty = itostr desk.order.leavesQty
  within : desk.order.leavesQty ≤ origin
  conserved : Conserved origin desk

theorem fresh_held {order : OrderMessage} (fresh : Fresh order) : Held order.orderqtyOrigin (.start order) where
  original := rfl
  parsed := fresh.origin
  text := fun _ => Or.inl ⟨fresh.leaves, fresh.text⟩
  within := by rw [Desk.start, fresh.leaves]; exact UInt64.le_refl _
  conserved := by
    simp [Conserved, Desk.start, Desk.reported, Desk.cancelledQty, Desk.unmatched, trades, fresh.leaves]

theorem attempt_held {origin : UInt64} {desk : Desk} {db : StockDb} {cache : StockCache} {round : Round}
    {attempt : Attempt} (held : Held origin desk) (live : desk.standing = .pending)
    (ran : enableQuoMatch db round cache desk.order = some attempt) (meets : Meets desk (.attempt round)) :
    Held origin ⟨attempt.order, standingOf attempt.order.matchType, desk.reports ++ attempt.pushed⟩ := by
  obtain ⟨original, parsed, text, within, conserved⟩ := held
  have text := text live
  simp only [Conserved, Desk.cancelledQty, live, reduceCtorEq, if_false, Desk.unmatched] at conserved
  cases enableQuoMatch_outcome ran with
  | refused untaken refused unwritten quiet =>
    have untraded : trades attempt.pushed = [] := by
      rcases quiet with silent | ⟨rejected, report⟩
      · simp [silent, trades]
      · rw [report, trades_rejection rejected]
    obtain ⟨matchType, dataError, error, errorCode, wrote, notAll, notPart, notCancel⟩ := refused
    rw [wrote]
    refine ⟨original, parsed, fun _ => text, within, ?_⟩
    have standing : standingOf matchType = .pending ∨ standingOf matchType = .rejected := by
      cases matchType <;> simp_all [standingOf]
    simp only [Conserved, reported_append, untraded, Desk.cancelledQty, Desk.unmatched]
    rcases standing with standing | standing <;>
    · simp only [standing]
      simpa [Desk.reported] using conserved
  | @part quote _ after read takes short holds booked closed =>
    obtain ⟨delivered, stored, named, _⟩ := meets quote read takes
    obtain ⟨_, _, _, wrote⟩ := booked
    have remains := UInt64.toNat_sub_of_le _ _ (UInt64.le_of_lt short)
    have left := leaves_stored closed stored
    have report := reports_delivered closed (by rw [wrote]; exact delivered)
    have positive : quote.cjsl.toNat ≠ 0 := fun zero => takes.volume (UInt64.toNat_inj.mp zero)
    rw [UInt64.lt_iff_toNat_lt] at short
    rw [UInt64.le_iff_toNat_le] at within
    have leaves : after.leavesQty = desk.order.leavesQty - quote.cjsl := by rw [wrote]; rfl
    rw [left, report]
    refine ⟨?_, ?_, fun _ => Or.inr ⟨?_, ?_⟩, ?_, ?_⟩
    · rw [wrote]
      exact original
    · rw [wrote]
      exact parsed
    · rw [ne_eq, ← UInt64.toNat_inj, leaves, remains]
      omega
    · rw [wrote]
      rfl
    · rw [UInt64.le_iff_toNat_le, leaves, remains]
      omega
    · have standing : standingOf after.matchType = .pending := by rw [wrote]; rfl
      have sum : ((trades [after]).map fun report => report.orderqtyMatched.toNat).sum = quote.cjsl.toNat := by
        rw [wrote]
        rfl
      simp only [Conserved, reported_append, sum, Desk.cancelledQty, Desk.unmatched, standing, leaves, remains]
      simp only [Desk.reported] at conserved
      simp only [reduceCtorEq, if_false]
      omega
  | @cut quote _ _ read takes short cancels _ _ _ _ _ =>
    have whole := (meets quote read takes).whole cancels
    exact absurd short (UInt64.not_lt.mpr whole)
  | @whole quote _ after read takes enough booked closed =>
    obtain ⟨delivered, stored, named, _⟩ := meets quote read takes
    obtain ⟨_, _, _, wrote⟩ := booked
    have left := leaves_stored closed stored
    have report := reports_delivered closed (by rw [wrote]; exact delivered)
    have standing : standingOf after.matchType = .filled := by rw [wrote]; rfl
    rw [left, report]
    refine ⟨?_, ?_, fun live => ?_, ?_, ?_⟩
    · rw [wrote]
      exact original
    · rw [wrote]
      exact parsed
    · rw [standing] at live
      exact nomatch live
    · rw [wrote]
      exact within
    · have sum : ((trades [after]).map fun report => report.orderqtyMatched.toNat).sum = desk.order.leavesQty.toNat := by
        rw [wrote]
        rfl
      simp only [Conserved, reported_append, sum, Desk.cancelledQty, Desk.unmatched, standing]
      simp only [Desk.reported] at conserved
      simp only [reduceCtorEq, if_false]
      omega

theorem cancel_held {origin : UInt64} {desk : Desk} (held : Held origin desk) (live : desk.standing = .pending)
    (request : OrderMessage) (transId : String) (meets : Meets desk (.cancel request transId)) :
    Held origin ⟨TaskCancelOrder.procCancelSuccess request desk.order transId, .cancelled,
      desk.reports ++ pushed (TaskCancelOrder.procCancelSuccess request desk.order transId)⟩ := by
  obtain ⟨original, parsed, text, within, conserved⟩ := held
  have quantity : string2UInt64 desk.order.strLeavesQty = desk.order.leavesQty := by
    rcases text live with ⟨whole, first⟩ | ⟨partly, later⟩
    · rw [first, parsed, whole]
    · rw [later]
      refine string2UInt64_itostr (meets.resolve_right ?_)
      rw [original]
      exact partly
  have untraded : trades (pushed (TaskCancelOrder.procCancelSuccess request desk.order transId)) = [] := by
    unfold pushed
    split
    · rfl
    · rfl
  simp only [Conserved, Desk.cancelledQty, live, reduceCtorEq, if_false, Desk.unmatched] at conserved
  refine ⟨parsed, parsed, (fun live => nomatch live), within, ?_⟩
  have cancelled : string2UInt64 (TaskCancelOrder.procCancelSuccess request desk.order transId).lastQty =
      desk.order.leavesQty := quantity
  simp only [Conserved, reported_append, untraded, Desk.cancelledQty, if_true, cancelled, Desk.unmatched]
  simpa [Desk.reported] using conserved

theorem step_held {origin : UInt64} {before after : Desk} {event : Event} (held : Held origin before)
    (step : Step before event after) (meets : Meets before event) : Held origin after := by
  cases step with
  | attempt _ _ _ live ran => exact attempt_held held live ran meets
  | cancel request transId live => exact cancel_held held live request transId meets

/-- In every run whose trades are clean and whose cancels can read their quantity,
nothing of the order is lost or counted twice; and each further run of the task on
such a quote reports its slice once and writes back the volume less the slice. -/
theorem quote_matches_conserve {order : OrderMessage} {events : List Event} {desk : Desk} (fresh : Fresh order)
    (run : Run (Steps.guarded Step Meets) (.start order) events desk) :
    Conserved order.orderqtyOrigin desk ∧
      ∀ db cache round attempt, enableQuoMatch db round cache desk.order = some attempt →
        Meets desk (.attempt round) → Sliced desk.order round attempt :=
  ⟨(run.invariant (fun _ _ _ held taken => step_held held taken.1 taken.2) (fresh_held fresh)).conserved,
    fun _ _ _ _ ran meets => attempt_sliced ran meets⟩

/-- A Shenzhen order to buy a hundred shares at ten. -/
def sampleBuy (delType : DeclarationType) : OrderMessage where
  iSide := 1
  delType := delType
  orderqtyOrigin := 100
  leavesQty := 100
  orderPrice := 10000
  tradeMarket := tradeMarketSz
  tradeType := .aTrade
  strOrderqtyOrigin := "100"
  strLeavesQty := "100"
  senderCompID := "F000001"
  side := "1"
  stockID := "000001"

/-- A quote of sixty shares at ten, read and written back. -/
def sampleRound : Round where
  quotationType := .averagePrice
  quote := some { maxGain := 0, minFall := 0, cjsl := 60, cjje := 600000, hqsj := "", tpbz := "F" }
  stored := true
  cancelId := "000000000000001"
  transId := "000000000000002"

theorem sampleBuy_fresh (delType : DeclarationType) : Fresh (sampleBuy delType) :=
  ⟨rfl, rfl, show string2UInt64 "100" = 100 by decide +kernel⟩

/-- Sixty shares filled, the other forty cancelled. -/
theorem quote_matches_conserve_cancelled :
    ∃ desk, desk.reported = 60 ∧ desk.cancelledQty = 40 ∧ Conserved 100 desk := by
  refine ⟨_, ?_, ?_, (quote_matches_conserve (sampleBuy_fresh .ordinaryLimit)
    (.cons ⟨.attempt (fun _ _ => none) (fun _ _ => none) sampleRound rfl rfl, ?_⟩
      (.single ⟨.cancel (sampleBuy .ordinaryLimit) "000000000000003" rfl, Or.inl (by decide)⟩))).1⟩
  · rfl
  · rfl
  · intro quote read takes
    cases read
    exact ⟨rfl, rfl, rfl, fun cancels => nomatch cancels⟩

/-- The sixty shares of a market order whose remainder is cancelled are in no report. -/
theorem remainder_cancel_loses_trade :
    ¬ ∀ (order : OrderMessage) (events : List Event) (desk : Desk), Fresh order →
      Run Step (.start order) events desk → Conserved order.orderqtyOrigin desk := by
  intro always
  have conserved := always (sampleBuy .matchAtMarketAndRemainderCancel) _ _ (sampleBuy_fresh _)
    (.single (.attempt (fun _ _ => none) (fun _ _ => none) sampleRound rfl rfl))
  revert conserved
  unfold Conserved
  decide

end Simutgw.Proofs.QuoteConservation
