import Simutgw.Logic.Runs
import Simutgw.Proofs.OrderQuantities
import Simutgw.Proofs.QuoteConservation

/-! The attempts on one order while the write-back of the quote may fail. A match whose
write-back fails is undone by its match type alone: its report is out by then, and the
quantities, the texts and the reserve stay as the trade left them. -/

namespace Simutgw.Proofs.WriteBackFailure
open ABStockMatch DecimalText MarketInfoHelper OutMemoryManage QuoteMatching QuoteConservation SofString TgwStringUtil Logic

/-- The order, whether a copy of it is in the queue, and all that was pushed for it, as
it stood when it was pushed. -/
structure Desk where
  order : OrderMessage
  queued : Bool
  reports : List OrderMessage

/-- The holdings an attempt finds, and what it meets. -/
structure Attempting where
  db : StockDb
  cache : StockCache
  round : Round

def start (order : OrderMessage) : Desk := ⟨order, true, []⟩

/-- The task runs on the copy that was queued. -/
def attempt (desk : Desk) (attempting : Attempting) : Option Desk :=
  if desk.queued then
    (enableQuoMatch attempting.db attempting.round attempting.cache desk.order).map fun attempt =>
      ⟨attempt.order, attempt.requeued, desk.reports ++ attempt.pushed⟩
  else none

def Attempts : Steps Desk Attempting := fun before attempting after => attempt before attempting = some after

def reported (reports : List OrderMessage) : Nat :=
  ((trades reports).map fun report => report.orderqtyMatched.toNat).sum

/-- The matcher has traded, and the write-back of what the quote has left fails. -/
def Undone (attempting : Attempting) (order : OrderMessage) : Prop :=
  attempting.round.stored = false ∧ ∃ quote matched, attempting.round.quote = some quote ∧
    quotMatchByMarket attempting.db attempting.round attempting.cache order quote = some matched ∧
    (matched.order.matchType = .matchAll ∨ matched.order.matchType = .matchPart)

/-- An order that waits as it did before, with no trade reported. -/
structure Restored (before after : Desk) : Prop where
  requeued : after.queued = true
  leaves : after.order.leavesQty = before.order.leavesQty ∧ after.order.strLeavesQty = before.order.strLeavesQty
  cumulated : after.order.strCumQty = before.order.strCumQty
  reserve : after.order.sellCps = before.order.sellCps ∧ after.order.sellEtfCps = before.order.sellEtfCps ∧
    after.order.rdpEtfCps = before.order.rdpEtfCps
  silent : reported after.reports = reported before.reports

/-- What an attempt should keep: no more is reported than was ordered, and a match that
is undone is undone altogether. -/
structure Lawful (origin : UInt64) (before : Desk) (attempting : Attempting) (after : Desk) : Prop where
  within : reported after.reports ≤ origin.toNat
  restored : Undone attempting before.order → Restored before after

/-- The write-back of a trade succeeds. A remainder that the matcher cancels itself is
never written back. -/
def Stored (desk : Desk) (attempting : Attempting) : Prop :=
  ∀ quote, attempting.round.quote = some quote → Takes desk.order quote →
    attempting.round.stored = true ∨ (cancelsRemainder desk.order.delType = true ∧ quote.cjsl < desk.order.leavesQty)

def LawfulAttempts (origin : UInt64) : Steps Desk Attempting := fun before attempting after =>
  Attempts before attempting after ∧ Lawful origin before attempting after

variable {attempting : Attempting} {order : OrderMessage} {before after : Desk} {origin : UInt64}

theorem traded_matchType {quote : Quote} {matched : Matched}
    (done : traded attempting.db attempting.round attempting.cache order quote = some matched) :
    matched.order.matchType =
      (fill (cancelsRemainder order.delType) attempting.round attempting.cache order quote.cjsl quote.cjje).order.matchType := by
  obtain ⟨⟨_, _, _, wrote⟩, _, _, _⟩ := traded_booked done
  rw [wrote]
  rfl

theorem undone_iff {attempt : Attempt}
    (ran : enableQuoMatch attempting.db attempting.round attempting.cache order = some attempt) :
    Undone attempting order ↔ attempting.round.stored = false ∧ ∃ quote, attempting.round.quote = some quote ∧
      Takes order quote ∧ ¬ (cancelsRemainder order.delType = true ∧ quote.cjsl < order.leavesQty) := by
  constructor
  · intro undone
    obtain ⟨unstored, quote, matched, read, done, trade⟩ := undone
    refine ⟨unstored, quote, read, ?_⟩
    by_cases takes : Takes order quote
    · refine ⟨takes, ?_⟩
      intro cut
      rw [quotMatchByMarket_takes takes] at done
      have type := traded_matchType done
      simp only [fill, cut.1, cut.2, if_true] at type
      rw [type] at trade
      obtain all | part := trade
      · cases all
      · cases part
    · obtain ⟨refused, found, _, _, _, _, rfl, notAll, notPart, _⟩ :=
        quotMatchByMarket_refuses attempting.db attempting.round attempting.cache takes
      rw [found] at done
      cases done
      obtain all | part := trade
      · exact absurd all notAll
      · exact absurd part notPart
  · intro taken
    obtain ⟨unstored, quote, read, takes, uncut⟩ := taken
    cases done : quotMatchByMarket attempting.db attempting.round attempting.cache order quote with
    | none => simp [enableQuoMatch, quotMatchOrder, read, done] at ran
    | some matched =>
      refine ⟨unstored, quote, matched, read, done, ?_⟩
      rw [quotMatchByMarket_takes takes] at done
      rw [traded_matchType done]
      unfold fill
      split
      next short =>
        have holds : cancelsRemainder order.delType = false := by
          rw [← Bool.not_eq_true]
          intro cancels
          exact uncut ⟨cancels, short⟩
        rw [holds]
        exact .inr rfl
      next => exact .inl rfl

theorem stored_of_not_undone {attempt : Attempt} {quote : Quote}
    (ran : enableQuoMatch attempting.db attempting.round attempting.cache order = some attempt)
    (done : ¬ Undone attempting order) (read : attempting.round.quote = some quote) (takes : Takes order quote)
    (uncut : ¬ (cancelsRemainder order.delType = true ∧ quote.cjsl < order.leavesQty)) :
    attempting.round.stored = true := by
  rw [← Bool.not_eq_false]
  intro unstored
  exact done ((undone_iff ran).mpr ⟨unstored, quote, read, takes, uncut⟩)

theorem stored_iff {attempt : Attempt}
    (ran : enableQuoMatch attempting.db attempting.round attempting.cache before.order = some attempt) :
    Stored before attempting ↔ ¬ Undone attempting before.order := by
  constructor
  · intro stored undone
    obtain ⟨unstored, quote, read, takes, uncut⟩ := (undone_iff ran).mp undone
    obtain kept | cut := stored quote read takes
    · rw [unstored] at kept
      cases kept
    · exact uncut cut
  · intro done quote read takes
    by_cases cut : cancelsRemainder before.order.delType = true ∧ quote.cjsl < before.order.leavesQty
    · exact .inr cut
    · exact .inl (stored_of_not_undone ran done read takes cut)

theorem reported_append (front back : List OrderMessage) : reported (front ++ back) = reported front + reported back := by
  simp [reported, trades]

theorem reported_pushed_le (order : OrderMessage) : reported (pushed order) ≤ order.orderqtyMatched.toNat := by
  unfold pushed reported trades
  split
  · cases traded : isTrade order <;> simp [traded]
  · exact Nat.zero_le _

/-- While an order waits, the reported and the leaves are within what was ordered. -/
structure Within (origin : UInt64) (desk : Desk) : Prop where
  told : reported desk.reports ≤ origin.toNat
  waiting : desk.queued = true → reported desk.reports + desk.order.leavesQty.toNat ≤ origin.toNat

/-- While an order waits, it has leaves and its text shows some. -/
structure Waiting (desk : Desk) : Prop where
  leaves : desk.queued = true → desk.order.leavesQty ≠ 0
  text : desk.queued = true → desk.order.strLeavesQty ≠ itostr 0

theorem attempts_cases (attempts : Attempts before attempting after) :
    before.queued = true ∧ ∃ attempt, enableQuoMatch attempting.db attempting.round attempting.cache before.order = some attempt ∧
      after = ⟨attempt.order, attempt.requeued, before.reports ++ attempt.pushed⟩ := by
  unfold Attempts WriteBackFailure.attempt at attempts
  split at attempts
  next queued =>
    obtain ⟨attempt, ran, same⟩ := Option.map_eq_some_iff.mp attempts
    exact ⟨queued, attempt, ran, same.symm⟩
  next => cases attempts

theorem quiet_reported {attempt : Attempt}
    (quiet : attempt.pushed = [] ∨ attempt.order.matchType = .errorMatch ∧ attempt.pushed = pushed attempt.order) :
    reported attempt.pushed = 0 := by
  obtain silent | ⟨rejected, report⟩ := quiet
  · rw [silent]
    rfl
  · rw [report, reported, trades_rejection rejected]
    rfl

theorem reported_other {message : OrderMessage} (other : isTrade message = false) : reported (pushed message) = 0 := by
  unfold pushed
  split
  · simp [reported, trades, other]
  · rfl

theorem within_attempt (within : Within origin before) (attempts : Attempts before attempting after)
    (done : ¬ Undone attempting before.order) : Within origin after := by
  obtain ⟨queued, attempt, ran, rfl⟩ := attempts_cases attempts
  have waiting := within.waiting queued
  cases enableQuoMatch_outcome ran with
  | refused untaken refused unwritten quiet =>
    obtain ⟨_, _, _, _, wrote, _, _, _⟩ := refused
    refine ⟨?_, fun _ => ?_⟩
    · rw [reported_append, quiet_reported quiet]
      exact within.told
    · rw [reported_append, quiet_reported quiet, wrote]
      exact waiting
  | @part quote _ after read takes short holds booked closed =>
    have kept := stored_of_not_undone ran done read takes (by simp [holds])
    obtain ⟨_, _, _, wrote⟩ := booked
    have remains := UInt64.toNat_sub_of_le _ _ (UInt64.le_of_lt short)
    have report : reported attempt.pushed ≤ quote.cjsl.toNat := by
      rw [closed.report]
      apply (reported_pushed_le after).trans
      rw [wrote]
      exact Nat.le_refl _
    rw [UInt64.lt_iff_toNat_lt] at short
    refine ⟨?_, fun _ => ?_⟩
    · rw [reported_append]
      omega
    · have left := leaves_stored closed kept
      have leaves : attempt.order.leavesQty = before.order.leavesQty - quote.cjsl := by
        rw [left, wrote]
        rfl
      rw [reported_append, leaves, remains]
      omega
  | @cut quote _ cancelled read takes short cancels cancel booked report unwritten ends =>
    have silent : reported attempt.pushed = 0 := by
      rw [report]
      apply reported_other
      rw [cancel]
      rfl
    refine ⟨?_, fun requeued => ?_⟩
    · rw [reported_append, silent]
      exact within.told
    · rw [ends] at requeued
      cases requeued
  | @whole quote _ after read takes enough booked closed =>
    have kept := stored_of_not_undone ran done read takes fun cut => absurd cut.2 (UInt64.not_lt.mpr enough)
    obtain ⟨_, _, _, wrote⟩ := booked
    have report : reported attempt.pushed ≤ before.order.leavesQty.toNat := by
      rw [closed.report]
      apply (reported_pushed_le after).trans
      rw [wrote]
      exact Nat.le_refl _
    refine ⟨?_, fun requeued => ?_⟩
    · rw [reported_append]
      omega
    · have ends := closed.requeued
      rw [kept, if_pos rfl, wrote] at ends
      rw [ends] at requeued
      cases requeued

/-- The step: no undone match is restored. After a part the leaves are less, and after
the whole their text is that of none. -/
theorem not_restored (waiting : Waiting before) (attempts : Attempts before attempting after)
    (undone : Undone attempting before.order) : ¬ Restored before after := by
  obtain ⟨queued, attempt, ran, rfl⟩ := attempts_cases attempts
  obtain ⟨unstored, quote, read, takes, uncut⟩ := (undone_iff ran).mp undone
  intro restored
  cases enableQuoMatch_outcome ran with
  | refused untaken refused unwritten quiet => exact untaken quote read takes
  | @part quote' _ after read' takes' short holds booked closed =>
    have left := closed.left
    rw [unstored, if_neg Bool.false_ne_true] at left
    obtain ⟨_, _, _, wrote⟩ := booked
    have leaves : attempt.order.leavesQty = before.order.leavesQty - quote'.cjsl := by
      rw [left, wrote]
      rfl
    have same := restored.leaves.1
    rw [leaves, ← UInt64.toNat_inj, UInt64.toNat_sub_of_le _ _ (UInt64.le_of_lt short)] at same
    have positive : quote'.cjsl.toNat ≠ 0 := fun zero => takes'.volume (UInt64.toNat_inj.mp zero)
    rw [UInt64.lt_iff_toNat_lt] at short
    omega
  | @cut quote' _ _ read' takes' short cancels _ _ _ _ _ =>
    rw [read] at read'
    cases read'
    exact uncut ⟨cancels, short⟩
  | @whole quote' _ after read' takes' enough booked closed =>
    have left := closed.left
    rw [unstored, if_neg Bool.false_ne_true] at left
    obtain ⟨_, _, _, wrote⟩ := booked
    have text : attempt.order.strLeavesQty = itostr 0 := by
      rw [left, wrote]
      rfl
    exact waiting.text queued (restored.leaves.2 ▸ text)

theorem waiting_attempt (waiting : Waiting before) (attempts : Attempts before attempting after)
    (done : ¬ Undone attempting before.order) : Waiting after := by
  obtain ⟨queued, attempt, ran, rfl⟩ := attempts_cases attempts
  cases enableQuoMatch_outcome ran with
  | refused untaken refused unwritten quiet =>
    obtain ⟨_, _, _, _, wrote, _, _, _⟩ := refused
    refine ⟨fun _ => ?_, fun _ => ?_⟩
    · rw [wrote]
      exact waiting.leaves queued
    · rw [wrote]
      exact waiting.text queued
  | @part quote _ after read takes short holds booked closed =>
    have kept := stored_of_not_undone ran done read takes (by simp [holds])
    have left := leaves_stored closed kept
    obtain ⟨_, _, _, wrote⟩ := booked
    have leaves : attempt.order.leavesQty = before.order.leavesQty - quote.cjsl := by
      rw [left, wrote]
      rfl
    have text : attempt.order.strLeavesQty = itostr (before.order.leavesQty - quote.cjsl) := by
      rw [left, wrote]
      rfl
    have some : before.order.leavesQty - quote.cjsl ≠ 0 := by
      rw [ne_eq, ← UInt64.toNat_inj, UInt64.toNat_sub_of_le _ _ (UInt64.le_of_lt short)]
      rw [UInt64.lt_iff_toNat_lt] at short
      simp only [UInt64.toNat_zero]
      omega
    refine ⟨fun _ => ?_, fun _ => ?_⟩
    · rw [leaves]
      exact some
    · rw [text]
      intro same
      exact some (OrderQuantities.itostr_inj same)
  | @cut quote _ _ read takes short cancels _ _ _ _ ends =>
    refine ⟨fun requeued => ?_, fun requeued => ?_⟩
    all_goals
      rw [ends] at requeued
      cases requeued
  | @whole quote _ after read takes enough booked closed =>
    have kept := stored_of_not_undone ran done read takes fun cut => absurd cut.2 (UInt64.not_lt.mpr enough)
    obtain ⟨_, _, _, wrote⟩ := booked
    have ends := closed.requeued
    rw [kept, if_pos rfl, wrote] at ends
    refine ⟨fun requeued => ?_, fun requeued => ?_⟩
    all_goals
      rw [ends] at requeued
      cases requeued

theorem start_within (fresh : Fresh order) : Within order.orderqtyOrigin (start order) where
  told := Nat.zero_le _
  waiting := fun _ => by simp [start, reported, trades, fresh.leaves]

theorem start_waiting (fresh : Fresh order) (some : order.orderqtyOrigin ≠ 0) : Waiting (start order) where
  leaves := fun _ => fresh.leaves ▸ some
  text := by
    intro _ none
    have read := fresh.origin
    rw [← fresh.text] at read
    apply some
    rw [← read, show order.strLeavesQty = itostr 0 from none]
    exact string2UInt64_itostr (by decide)

/-- Runs whose trades are all written back report no more than was ordered and have no
match to undo; and of an order for something, no run that has one keeps the law. -/
theorem undone_matches_lawful {attemptings : List Attempting} {desk : Desk} (fresh : Fresh order) :
    (Run (Attempts.guarded Stored) (start order) attemptings desk →
      Run (LawfulAttempts order.orderqtyOrigin) (start order) attemptings desk) ∧
    (order.orderqtyOrigin ≠ 0 → Run (LawfulAttempts order.orderqtyOrigin) (start order) attemptings desk →
      Run (Attempts.guarded Stored) (start order) attemptings desk) := by
  refine ⟨?_, ?_⟩
  · intro run
    refine run.mono ?_ (start_within fresh)
    intro before attempting after within taken
    obtain ⟨attempts, stored⟩ := taken
    obtain ⟨_, attempt, ran, _⟩ := attempts_cases attempts
    have done := (stored_iff ran).mp stored
    have kept := within_attempt within attempts done
    exact ⟨⟨attempts, kept.told, fun undone => absurd undone done⟩, kept⟩
  · intro some run
    refine run.mono ?_ (start_waiting fresh some)
    intro before attempting after waiting taken
    obtain ⟨attempts, lawful⟩ := taken
    obtain ⟨_, attempt, ran, _⟩ := attempts_cases attempts
    have done : ¬ Undone attempting before.order := fun undone =>
      not_restored waiting attempts undone (lawful.restored undone)
    exact ⟨⟨attempts, (stored_iff ran).mpr done⟩, waiting_attempt waiting attempts done⟩

/-- A quote with this much volume at ten, and whether its rest can be written back. -/
def sampleAttempt (volume : UInt64) (stored : Bool) : Attempting where
  db := fun _ _ => none
  cache := fun _ _ => none
  round := {
    quotationType := .averagePrice
    quote := some { maxGain := 0, minFall := 0, cjsl := volume, cjje := volume * 10000, hqsj := "", tpbz := "F" }
    stored
    cancelId := "000000000000001"
    transId := "000000000000002" }

/-- Sixty shares and then the other forty, both written back. -/
theorem undone_matches_lawful_filled :
    ∃ desk, Run (LawfulAttempts 100) (start (sampleBuy .ordinaryLimit)) [sampleAttempt 60 true, sampleAttempt 60 true] desk ∧
      Run (Attempts.guarded Stored) (start (sampleBuy .ordinaryLimit)) [sampleAttempt 60 true, sampleAttempt 60 true] desk ∧
      reported desk.reports = 100 := by
  have stored : ∀ desk, Stored desk (sampleAttempt 60 true) := fun _ _ _ _ => .inl rfl
  have run : Run (Attempts.guarded Stored) (start (sampleBuy .ordinaryLimit))
      [sampleAttempt 60 true, sampleAttempt 60 true] _ := .cons ⟨rfl, stored _⟩ (.single ⟨rfl, stored _⟩)
  have lawful := (undone_matches_lawful (sampleBuy_fresh .ordinaryLimit)).1 run
  exact ⟨_, lawful, (undone_matches_lawful (sampleBuy_fresh .ordinaryLimit)).2 (by decide) lawful, by decide⟩

/-- A hundred shares are filled by one quote and then by another, as the first could not
be written back. -/
theorem fills_twice :
    ∃ desk, Run Attempts (start (sampleBuy .ordinaryLimit)) [sampleAttempt 100 false, sampleAttempt 100 true] desk ∧
      reported desk.reports = 200 ∧
      ¬ ∀ (order : OrderMessage) (attemptings : List Attempting) (desk : Desk), Fresh order →
        Run Attempts (start order) attemptings desk → reported desk.reports ≤ order.orderqtyOrigin.toNat := by
  have run : Run Attempts (start (sampleBuy .ordinaryLimit)) [sampleAttempt 100 false, sampleAttempt 100 true] _ :=
    .cons rfl (.single rfl)
  refine ⟨_, run, by decide, ?_⟩
  intro always
  have bounded := always _ _ _ (sampleBuy_fresh .ordinaryLimit) run
  revert bounded
  decide

end Simutgw.Proofs.WriteBackFailure
