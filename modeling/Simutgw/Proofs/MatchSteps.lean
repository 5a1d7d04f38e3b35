import Simutgw.MatchSteps
import Simutgw.Proofs.QuoteMatching

/-! The steps of a match task are the task: run with nothing in between, they leave
what the task leaves. -/

namespace Simutgw.Proofs.MatchSteps
open ABStockMatch OutMemoryManage SofString UserStockHelper QuoteMatching

/-- A step of a task nobody watches. -/
def alone (db : StockDb) (attempt : Attempt) : Op → Option Attempt
  | .settle _ => some attempt
  | .write change => some { attempt with order := change attempt.order }
  | .book =>
    (updateAfterTrade db attempt.cache attempt.order).map fun updated =>
      { attempt with order := updated.order, cache := updated.cache }
  | .push => some { attempt with pushed := attempt.pushed ++ pushed attempt.order }
  | .release =>
    (TaskCancelOrder.released attempt.cache attempt.order).map fun updated =>
      { attempt with order := updated.order, cache := updated.cache }
  | .requeue => some { attempt with requeued := true }

def runAlone (db : StockDb) : List Op → Attempt → Option Attempt
  | [], attempt => some attempt
  | op :: ops, attempt => (alone db attempt op).bind (runAlone db ops)

theorem runAlone_append (db : StockDb) (front back : List Op) (attempt : Attempt) :
    runAlone db (front ++ back) attempt = (runAlone db front attempt).bind (runAlone db back) := by
  induction front generalizing attempt with
  | nil => rfl
  | cons op front ih =>
    simp only [List.cons_append, runAlone]
    cases alone db attempt op with
    | none => rfl
    | some next => exact ih next

def attemptOf (matched : Matched) : Attempt :=
  { order := matched.order, cache := matched.cache, pushed := matched.pushed }

/-- The steps leave what the matcher leaves, and the order's match type is the one
the matcher returns. -/
structure Follows (db : StockDb) (cache : StockCache) (order : OrderMessage) (steps : MatchType × List Op)
    (result : Option Matched) : Prop where
  left : runAlone db steps.2 { order, cache } = result.map attemptOf
  type : ∀ matched, result = some matched → matched.order.matchType = steps.1

variable {db : StockDb} {round : Round} {cache : StockCache} {order : OrderMessage}

theorem fillOps_alone (remainderCancel : Bool) (cjsl cjje : UInt64) :
    runAlone db (fillOps remainderCancel round order cjsl cjje) { order, cache } =
      some (attemptOf (fill remainderCancel round cache order cjsl cjje)) := by
  unfold fillOps fill
  split
  · cases remainderCancel <;> rfl
  · rfl

theorem fill_type (remainderCancel : Bool) (cjsl cjje : UInt64) :
    (fill remainderCancel round cache order cjsl cjje).order.matchType = fillType remainderCancel order cjsl := by
  unfold fill fillType
  split
  · cases remainderCancel <;> rfl
  · rfl

theorem matchWith_follows (limit remainderCancel : Bool) (cjsl cjje : UInt64) :
    Follows db cache order (matchWithOps limit remainderCancel round order cjsl cjje)
      (matchWith limit remainderCancel db round cache order cjsl cjje) := by
  unfold matchWithOps matchWith
  rcases checkMatchMethod_cases order cjsl cjje limit with ⟨_, passed⟩ | ⟨_, refused, found, _⟩
  · simp only [passed]
    constructor
    · rw [runAlone_append, fillOps_alone]
      simp only [Option.bind_some, runAlone, alone, attemptOf]
      cases updateAfterTrade db (fill remainderCancel round cache order cjsl cjje).cache
        (fill remainderCancel round cache order cjsl cjje).order <;> rfl
    · intro matched done
      obtain ⟨updated, booked, rfl⟩ := Option.map_eq_some_iff.mp done
      obtain ⟨_, _, wrote⟩ := updateAfterTrade_order booked
      have type : (fill remainderCancel round cache order cjsl cjje).order.matchType = _ := fill_type _ _ _
      simp only [wrote, withTransId, type]
  · simp only [found]
    constructor
    · simp only [runAlone, alone, found, Option.bind_some, Option.map_some, attemptOf]
    · intro matched done
      cases done
      rfl

theorem Follows.marked {steps : MatchType × List Op} {result : Option Matched}
    (follows : Follows db cache (order.markedAs .notMatch) steps result) :
    Follows db cache order (Prod.map id (.write (·.markedAs .notMatch) :: ·) steps) result := by
  refine ⟨?_, follows.type⟩
  simp only [Prod.map_snd, runAlone, alone, Option.bind_some]
  exact follows.left

theorem quotMatchByMarket_follows (quote : Quote) :
    Follows db cache order (quotMatchByMarketOps round order quote) (quotMatchByMarket db round cache order quote) := by
  unfold quotMatchByMarketOps quotMatchByMarket
  apply Follows.marked
  rcases checkTPBZ_cases (order.markedAs .notMatch) quote.tpbz with ⟨_, passed⟩ | ⟨_, refused, found, _⟩
  · simp only [passed]
    split
    next =>
      constructor
      · rfl
      · intro matched done
        cases done
        rfl
    next =>
      cases (order.markedAs .notMatch).delType with
      | ordinaryLimit =>
        rcases checkMaxGainAndMinFall_cases (order.markedAs .notMatch) quote with
          ⟨_, passed⟩ | ⟨_, refused, found, _⟩
        · simp only [passed]
          exact matchWith_follows ..
        · simp only [found]
          constructor
          · simp only [runAlone, alone, found, Option.bind_some, Option.map_some, attemptOf]
          · intro matched done
            cases done
            rfl
      | _ => exact matchWith_follows ..
  · simp only [found]
    constructor
    · simp only [runAlone, alone, found, Option.bind_some, Option.map_some, attemptOf]
    · intro matched done
      cases done
      rfl

/-- What a run leaves, without the text of the write-back. -/
def unwritten (attempt : Attempt) : Attempt := { attempt with written := [] }

theorem quotMatchOrder_follows (db : StockDb) (round : Round) (cache : StockCache) (order : OrderMessage) :
    runAlone db (quotMatchOrderOps round order).2 { order, cache } =
        (quotMatchOrder db round cache order).map unwritten ∧
      ∀ attempt, quotMatchOrder db round cache order = some attempt →
        attempt.order.matchType = (quotMatchOrderOps round order).1 := by
  unfold quotMatchOrderOps quotMatchOrder
  cases round.quote with
  | none =>
    constructor
    · rfl
    · intro attempt done
      cases done
      rfl
  | some quote =>
    have follows : Follows db cache order _ (quotMatchByMarket db round cache order quote) :=
      quotMatchByMarket_follows quote
    obtain ⟨left, type⟩ := follows
    cases found : quotMatchByMarket db round cache order quote with
    | none =>
      rw [found] at left
      simp only [found, Option.bind_eq_bind, Option.bind_none, Option.map_none]
      constructor
      · split
        next => exact left
        split <;> rw [runAlone_append, left] <;> rfl
      · intro attempt done
        cases done
    | some matched =>
      have typed := type matched found
      rw [found] at left
      simp only [found, Option.bind_eq_bind, Option.bind_some, typed]
      split
      next =>
        refine ⟨left, ?_⟩
        intro attempt done
        cases done
        exact typed
      next =>
        cases round.stored with
        | true =>
          simp only [if_true, runAlone_append, left]
          refine ⟨rfl, ?_⟩
          intro attempt done
          cases done
          exact typed
        | false =>
          simp only [Bool.false_eq_true, if_false, runAlone_append, left]
          refine ⟨rfl, ?_⟩
          intro attempt done
          cases done
          rfl

theorem answerOps_alone (attempt : Attempt) (order : OrderMessage) (same : attempt.order.delType = order.delType)
    (fresh : attempt.requeued = false) :
    runAlone db (answerOps attempt.order.matchType order) attempt = some (answer attempt) := by
  unfold answerOps answer
  cases attempt.order.matchType with
  | matchPart =>
    simp only [same]
    cases holdsRemainder order.delType with
    | true => rfl
    | false =>
      obtain ⟨_, _, _, _, _⟩ := attempt
      cases fresh
      rfl
  | _ => rfl

theorem fill_delType (remainderCancel : Bool) (cjsl cjje : UInt64) :
    (fill remainderCancel round cache order cjsl cjje).order.delType = order.delType := by
  unfold fill
  split
  · cases remainderCancel <;> rfl
  · rfl

theorem quotMatchByMarket_delType {quote : Quote} {matched : Matched}
    (done : quotMatchByMarket db round cache order quote = some matched) : matched.order.delType = order.delType := by
  by_cases takes : Takes order quote
  · rw [quotMatchByMarket_takes takes] at done
    obtain ⟨⟨_, _, _, wrote⟩, _⟩ := traded_booked done
    rw [wrote]
    exact fill_delType ..
  · obtain ⟨refused, found, refusal⟩ := quotMatchByMarket_refuses db round cache takes
    rw [found] at done
    cases done
    obtain ⟨_, _, _, _, rfl, _⟩ := refusal
    rfl

/-- The declaration type, by which the task answers, is the order's from the start. -/
theorem quotMatchOrder_delType {attempt : Attempt} (done : quotMatchOrder db round cache order = some attempt) :
    attempt.order.delType = order.delType ∧ attempt.requeued = false := by
  unfold quotMatchOrder at done
  split at done
  · cases done
    exact ⟨rfl, rfl⟩
  · obtain ⟨matched, found, done⟩ := Option.bind_eq_some_iff.mp done
    have same := quotMatchByMarket_delType found
    split at done
    · cases done
      exact ⟨same, rfl⟩
    split at done <;>
    · cases done
      exact ⟨same, rfl⟩

theorem enableQuoMatchOps_alone :
    runAlone db (enableQuoMatchOps round order) { order, cache } =
      (enableQuoMatch db round cache order).map unwritten := by
  obtain ⟨left, type⟩ := quotMatchOrder_follows db round cache order
  unfold enableQuoMatchOps enableQuoMatch
  simp only [runAlone_append, left]
  cases found : quotMatchOrder db round cache order with
  | none => rfl
  | some attempt =>
    obtain ⟨same, fresh⟩ := quotMatchOrder_delType found
    simp only [Option.map_some, Option.bind_some, ← type attempt found]
    exact (answerOps_alone (unwritten attempt) order same fresh).trans (by
      unfold answer unwritten
      cases attempt.order.matchType <;> rfl)

theorem simulatedOps_alone (outcome : Outcome) (change : OrderMessage → OrderMessage) (requeue : Bool) :
    runAlone db (simulatedOps outcome change requeue) { order, cache } =
      (simulated db cache (change order) requeue).map unwritten := by
  unfold simulatedOps simulated
  simp only [runAlone_append, runAlone, alone, Option.bind_some]
  cases updateAfterTrade db cache (change order) with
  | none => rfl
  | some updated => cases requeue <;> rfl

theorem simulMatchAllOps_alone :
    runAlone db (simulMatchAllOps round order) { order, cache } =
      (simulMatchAll db round cache order).map unwritten :=
  simulatedOps_alone ..

theorem dividedOps_alone (matchType : MatchType) (matched : UInt64) :
    runAlone db (dividedOps round order matchType matched) { order, cache } =
      (divided db round cache order matchType matched).map unwritten :=
  simulatedOps_alone ..

theorem matchOrderOps_alone :
    (matchOrderOps round order).bind (runAlone db · { order, cache }) =
      (matchOrder db round cache order).map unwritten := by
  unfold matchOrderOps matchOrder
  cases order.tradePolicy.matchMode with
  | enAbleQuta => exact enableQuoMatchOps_alone
  | simulMatchAll => exact simulMatchAllOps_alone
  | simulMatchByDivide =>
    simp only [simulMatchByDivideOps, simulMatchByDivide]
    split
    next => rfl
    split <;> exact dividedOps_alone ..
  | simulNotMatch => rfl
  | simulErrMatch =>
    simp only [simulErrMatchOps, simulErrMatch]
    split <;> rfl
  | simulMatchPart =>
    simp only [simulMatchPartOps, simulMatchPart]
    split
    next => rfl
    split <;> exact dividedOps_alone ..

end Simutgw.Proofs.MatchSteps
