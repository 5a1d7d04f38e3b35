import Simutgw.Logic.Runs
import Simutgw.MatchTask
import Simutgw.Proofs.DecimalText
import Simutgw.Proofs.QuoteMatching

/-! The quantities of an order over the runs of its tasks and its cancels. Each branch
writes the same few fields in its own way; what a branch writes is an effect on the
quantities alone, and which effects leave them consistent is read off the effects. -/

namespace Simutgw.Proofs.OrderQuantities
open Logic ABStockMatch QuoteMatching DecimalText SofString TgwStringUtil

/-- The numbers and texts of an order's quantities, and its status. -/
structure Quantities where
  origin : UInt64
  leaves : UInt64
  unmatched : UInt64
  strOrigin : String
  strLeaves : String
  strCum : String
  status : String
  deriving DecidableEq

def quantities (order : OrderMessage) : Quantities where
  origin := order.orderqtyOrigin
  leaves := order.leavesQty
  unmatched := order.orderqtyUnmatched
  strOrigin := order.strOrderqtyOrigin
  strLeaves := order.strLeavesQty
  strCum := order.strCumQty
  status := order.ordStatus

/-- The number a text begins with. -/
def numberIn (text : String) : Nat := Nat.ofDigitChars 10 (text.toList.takeWhile Char.isDigit) 0

structure Consistent (now : Quantities) : Prop where
  unmatched : now.unmatched = now.leaves
  leavesText : numberIn now.strLeaves = now.leaves.toNat
  cumText : numberIn now.strCum + now.leaves.toNat = now.origin.toNat
  filled : now.status = Step.ordStatusFill ↔ now.leaves = 0

/-- What a step does to the quantities. -/
inductive Effect where
  | idle
  | part (qty : UInt64)
  | cut (qty : UInt64)
  | whole
  | slice (qty : UInt64)
  | withdraw
  deriving DecidableEq

namespace Effect

def apply (now : Quantities) : Effect → Quantities
  | idle => now
  | part qty =>
    { now with
      leaves := now.leaves - qty
      unmatched := now.leaves - qty
      strLeaves := itostr (now.leaves - qty)
      strCum := itostr (now.origin - (now.leaves - qty))
      status := Step.ordStatusPartFill }
  | cut qty =>
    { now with
      origin := string2UInt64 now.strOrigin
      leaves := now.leaves - qty
      unmatched := now.leaves - qty
      strLeaves := itostr (now.leaves - qty)
      strCum := itostr (now.leaves - qty)
      status := Step.ordStatusCancel }
  | whole =>
    { now with
      unmatched := 0
      strLeaves := itostr 0
      strCum := itostr now.origin
      status := Step.ordStatusFill }
  | slice qty =>
    { now with
      leaves := now.leaves - qty
      unmatched := now.leaves - qty
      strLeaves := itostr (now.leaves - qty)
      strCum := itostr qty
      status := Step.ordStatusPartFill }
  | withdraw =>
    { now with
      origin := string2UInt64 now.strOrigin
      unmatched := string2UInt64 now.strLeaves
      strLeaves := "0"
      strCum := itostr (string2UInt64 now.strOrigin - string2UInt64 now.strLeaves)
      status := Step.ordStatusCancel }

/-- Which effects leave the quantities consistent: an idle one where they were; a part
that leaves no more than the original; a cut of half of it; a slice that is the first and
not the last. A complete fill keeps its leaves, and a cancel its number of them. -/
def Sound (now : Quantities) : Effect → Prop
  | idle => Consistent now
  | part qty => now.leaves - qty ≤ now.origin
  | cut qty => 2 * (now.leaves - qty).toNat = (string2UInt64 now.strOrigin).toNat
  | whole => now.leaves = 0
  | slice qty => now.leaves = now.origin ∧ qty < now.leaves
  | withdraw => False

end Effect

/-- What a match against the quote does to them. -/
def quoteEffect (round : Round) (order : OrderMessage) : Effect :=
  match round.quote with
  | none => .idle
  | some quote =>
    if Takes order quote then
      if quote.cjsl < order.leavesQty then
        if cancelsRemainder order.delType then .cut quote.cjsl else .part quote.cjsl
      else .whole
    else .idle

/-- What a run of an order's task does to its quantities. -/
def effectOf (kind : TaskKind) (round : Round) (order : OrderMessage) : Effect :=
  match kind with
  | .aBStockMatch =>
    match order.tradePolicy.matchMode with
    | .enAbleQuta => quoteEffect round order
    | .simulMatchAll => .whole
    | .simulMatchByDivide =>
      let part := order.orderqtyOrigin / UInt64.ofNat order.tradePolicy.partMatchNum.toNat
      .slice (if part ≠ 0 ∧ order.leavesQty ≥ 2 * part then part else order.leavesQty)
    | .simulNotMatch | .simulErrMatch => .idle
    | .simulMatchPart =>
      if order.leavesQty ≠ order.orderqtyOrigin then .idle
      else .slice (if order.orderqtyOrigin = 1 then order.orderqtyOrigin else order.orderqtyOrigin / 2)
  | .etfMatch => if order.side = Step.sideCrt ∨ order.side = Step.sideRdp then .whole else .idle
  | .shRuleMatch | .szRuleMatch | .cancelOrder | .validOrder => .idle

/-- The steps on an order: a run of its task, under whatever holdings, quote and answers
it meets, and a cancel by request. -/
inductive MatchStep where
  | work (kind : TaskKind) (db : StockDb) (round : Round) (cache : StockCache)
  | cancel (request : OrderMessage) (transId : String)

namespace MatchStep

def run (order : OrderMessage) : MatchStep → Option OrderMessage
  | work kind db round cache => (kind.run db round cache order).map Attempt.order
  | cancel request transId => some (TaskCancelOrder.procCancelSuccess request order transId)

def effect (order : OrderMessage) : MatchStep → Effect
  | work kind _ round _ => effectOf kind round order
  | cancel _ _ => .withdraw

end MatchStep

def Stepping : Steps OrderMessage MatchStep := fun before step after => step.run before = some after

/-- The quantities after a step, and the leaves no more than before it. -/
structure Lawful (before : OrderMessage) (_ : MatchStep) (after : OrderMessage) : Prop where
  consistent : Consistent (quantities after)
  leaves : after.leavesQty ≤ before.leavesQty

section Effects

variable {now : Quantities} {qty : UInt64}

theorem numberIn_itostr (value : UInt64) : numberIn (itostr value) = value.toNat := by
  have digits : (Nat.toDigits 10 value.toNat).takeWhile Char.isDigit = Nat.toDigits 10 value.toNat := by
    apply List.takeWhile_eq_self_iff.mpr
    intro char member
    exact Nat.isDigit_of_mem_toDigits (by decide) (by decide) member
  rw [numberIn, itostr_toList, digits, Nat.ofDigitChars_ten_toDigits]

theorem itostr_inj {one two : UInt64} (same : itostr one = itostr two) : one = two := by
  have read := congrArg numberIn same
  rw [numberIn_itostr, numberIn_itostr] at read
  exact UInt64.toNat_inj.mp read

theorem unfilled {status : String} {leaves : UInt64} (other : status ≠ Step.ordStatusFill)
    (some : leaves.toNat ≠ 0) : status = Step.ordStatusFill ↔ leaves = 0 := by
  refine iff_of_false other fun nothing => ?_
  rw [nothing] at some
  exact some UInt64.toNat_zero

theorem part_lawful_iff (short : qty < now.leaves) :
    Consistent ((Effect.part qty).apply now) ↔ now.leaves - qty ≤ now.origin := by
  have less := UInt64.lt_iff_toNat_lt.mp short
  have left := UInt64.toNat_sub_of_le _ _ (UInt64.le_of_lt short)
  have bound := now.origin.toNat_lt
  have top := now.leaves.toNat_lt
  have word := UInt64.toNat_sub now.origin (now.leaves - qty)
  rw [UInt64.le_iff_toNat_le]
  constructor
  · intro consistent
    have cum : numberIn (itostr (now.origin - (now.leaves - qty))) + (now.leaves - qty).toNat = now.origin.toNat :=
      consistent.cumText
    rw [numberIn_itostr] at cum
    omega
  · intro fits
    refine ⟨rfl, numberIn_itostr _, ?_, ?_⟩
    · show numberIn (itostr (now.origin - (now.leaves - qty))) + (now.leaves - qty).toNat = now.origin.toNat
      rw [numberIn_itostr]
      omega
    · apply unfilled (by decide : Step.ordStatusPartFill ≠ Step.ordStatusFill)
      show (now.leaves - qty).toNat ≠ 0
      omega

theorem cut_lawful_iff (short : qty < now.leaves) :
    Consistent ((Effect.cut qty).apply now) ↔
      2 * (now.leaves - qty).toNat = (string2UInt64 now.strOrigin).toNat := by
  have less := UInt64.lt_iff_toNat_lt.mp short
  have left := UInt64.toNat_sub_of_le _ _ (UInt64.le_of_lt short)
  constructor
  · intro consistent
    have cum : numberIn (itostr (now.leaves - qty)) + (now.leaves - qty).toNat =
      (string2UInt64 now.strOrigin).toNat := consistent.cumText
    rw [numberIn_itostr] at cum
    omega
  · intro half
    refine ⟨rfl, numberIn_itostr _, ?_, ?_⟩
    · show numberIn (itostr (now.leaves - qty)) + (now.leaves - qty).toNat = (string2UInt64 now.strOrigin).toNat
      rw [numberIn_itostr]
      omega
    · apply unfilled (by decide : Step.ordStatusCancel ≠ Step.ordStatusFill)
      show (now.leaves - qty).toNat ≠ 0
      omega

theorem whole_lawful_iff : Consistent (Effect.whole.apply now) ↔ now.leaves = 0 := by
  constructor
  · intro consistent
    exact consistent.unmatched.symm
  · intro nothing
    refine ⟨nothing.symm, ?_, ?_, iff_of_true rfl nothing⟩
    · show numberIn (itostr 0) = now.leaves.toNat
      rw [numberIn_itostr, nothing]
    · show numberIn (itostr now.origin) + now.leaves.toNat = now.origin.toNat
      rw [numberIn_itostr, nothing]
      rfl

theorem slice_lawful_iff :
    (Consistent ((Effect.slice qty).apply now) ∧ now.leaves - qty ≤ now.leaves) ↔
      now.leaves = now.origin ∧ qty < now.leaves := by
  have bound := now.origin.toNat_lt
  have top := now.leaves.toNat_lt
  have small := qty.toNat_lt
  have word := UInt64.toNat_sub now.leaves qty
  rw [UInt64.lt_iff_toNat_lt, ← UInt64.toNat_inj, UInt64.le_iff_toNat_le]
  constructor
  · rintro ⟨consistent, -⟩
    have cum : numberIn (itostr qty) + (now.leaves - qty).toNat = now.origin.toNat := consistent.cumText
    rw [numberIn_itostr] at cum
    have open' : (now.leaves - qty).toNat ≠ 0 := by
      intro nothing
      have filled := consistent.filled.mpr (UInt64.toNat_inj.mp (nothing.trans UInt64.toNat_zero.symm))
      exact absurd filled (by decide : Step.ordStatusPartFill ≠ Step.ordStatusFill)
    omega
  · rintro ⟨first, short⟩
    refine ⟨⟨rfl, numberIn_itostr _, ?_, ?_⟩, by omega⟩
    · show numberIn (itostr qty) + (now.leaves - qty).toNat = now.origin.toNat
      rw [numberIn_itostr]
      omega
    · apply unfilled (by decide : Step.ordStatusPartFill ≠ Step.ordStatusFill)
      show (now.leaves - qty).toNat ≠ 0
      omega

/-- A cancel by request says that nothing is left, and that the order is not filled. -/
theorem withdraw_inconsistent : ¬ Consistent (Effect.withdraw.apply now) := by
  intro consistent
  have left : numberIn "0" = now.leaves.toNat := consistent.leavesText
  have nothing : now.leaves = 0 := UInt64.toNat_inj.mp (left.symm.trans (by decide))
  exact absurd (consistent.filled.mpr nothing) (by decide : Step.ordStatusCancel ≠ Step.ordStatusFill)

/-- A part that is filled, cut or not, is less than what was left. -/
def Short (now : Quantities) (effect : Effect) : Prop :=
  ∀ qty, effect = .part qty ∨ effect = .cut qty → qty < now.leaves

theorem effect_lawful_iff (effect : Effect) (short : Short now effect) :
    (Consistent (effect.apply now) ∧ (effect.apply now).leaves ≤ now.leaves) ↔ effect.Sound now := by
  have less {qty : UInt64} (short : qty < now.leaves) : now.leaves - qty ≤ now.leaves := by
    rw [UInt64.le_iff_toNat_le, UInt64.toNat_sub_of_le _ _ (UInt64.le_of_lt short)]
    omega
  cases effect with
  | idle => exact and_iff_left (UInt64.le_refl _)
  | part qty =>
    have short := short qty (.inl rfl)
    exact (and_iff_left (less short)).trans (part_lawful_iff short)
  | cut qty =>
    have short := short qty (.inr rfl)
    exact (and_iff_left (less short)).trans (cut_lawful_iff short)
  | whole => exact (and_iff_left (UInt64.le_refl _)).trans whole_lawful_iff
  | slice qty => exact slice_lawful_iff
  | withdraw => exact iff_of_false (fun both => withdraw_inconsistent both.1) id

end Effects

section Steps

variable {db : StockDb} {round : Round} {cache : StockCache} {order : OrderMessage} {attempt : Attempt}

theorem quantities_refused {before after : OrderMessage} (refused : Refused before after) :
    quantities after = quantities before := by
  obtain ⟨_, _, _, _, rfl, _⟩ := refused
  rfl

theorem quantities_booked {filled after : OrderMessage} (booked : Booked filled after) :
    quantities after = quantities filled := by
  obtain ⟨_, _, _, rfl⟩ := booked
  rfl

theorem quantities_closed {hqsj : String} {after : OrderMessage} {cjsl cjje : UInt64}
    (closed : Closes round order hqsj after cjsl cjje attempt) : quantities attempt.order = quantities after := by
  rw [closed.left]
  split <;> rfl

theorem simulated_quantities {asked : OrderMessage} {requeue : Bool}
    (done : simulated db cache asked requeue = some attempt) : quantities attempt.order = quantities asked := by
  obtain ⟨updated, books, rfl⟩ := Option.map_eq_some_iff.mp done
  obtain ⟨_, _, wrote⟩ := updateAfterTrade_order books
  simp only [wrote]
  rfl

theorem divided_effect {matchType : MatchType} {qty : UInt64}
    (done : divided db round cache order matchType qty = some attempt) :
    quantities attempt.order = (Effect.slice qty).apply (quantities order) :=
  simulated_quantities done

theorem quoted_effect (done : enableQuoMatch db round cache order = some attempt) :
    quantities attempt.order = (quoteEffect round order).apply (quantities order) := by
  unfold quoteEffect
  cases enableQuoMatch_outcome done with
  | refused untaken refused _ _ =>
    rw [quantities_refused refused]
    cases read : round.quote with
    | none => rfl
    | some quote =>
      simp only [if_neg (untaken quote read)]
      rfl
  | part read takes short holds booked closed =>
    rw [quantities_closed closed, quantities_booked booked]
    simp only [read, if_pos takes, if_pos short, holds, Bool.false_eq_true, if_false]
    rfl
  | cut read takes short cancels cancel booked _ _ _ =>
    rw [quantities_booked booked, cancel]
    simp only [read, if_pos takes, if_pos short, cancels, if_true]
    rfl
  | whole read takes enough booked closed =>
    rw [quantities_closed closed, quantities_booked booked]
    simp only [read, if_pos takes, if_neg (UInt64.not_lt.mpr enough)]
    rfl

theorem simulErrMatch_quantities (cache : StockCache) (order : OrderMessage) :
    quantities (simulErrMatch cache order).order = quantities order := by
  unfold simulErrMatch
  split
  · obtain ⟨errorCode, wrote⟩ := withErrorCode_eq { order with
      matchType := .errorMatch, dataError := true, error := "模拟错误应答" } SzErrCode.c20001 ShErrCode.c215
    simp only [wrote]
    rfl
  · rfl

theorem matchOrder_effect (done : matchOrder db round cache order = some attempt) :
    quantities attempt.order = (effectOf .aBStockMatch round order).apply (quantities order) := by
  unfold matchOrder at done
  cases mode : order.tradePolicy.matchMode with
  | enAbleQuta =>
    rw [mode] at done
    simp only [effectOf, mode]
    exact quoted_effect done
  | simulMatchAll =>
    rw [mode] at done
    simp only [effectOf, mode]
    exact simulated_quantities done
  | simulMatchByDivide =>
    rw [mode] at done
    simp only [simulMatchByDivide] at done
    simp only [effectOf, mode]
    split at done
    · cases done
    · split at done
      next parts =>
        rw [if_pos parts]
        exact divided_effect done
      next rest =>
        rw [if_neg rest]
        exact divided_effect done
  | simulNotMatch =>
    rw [mode] at done
    simp only [effectOf, mode]
    cases done
    rfl
  | simulErrMatch =>
    rw [mode] at done
    simp only [effectOf, mode]
    cases done
    exact simulErrMatch_quantities cache order
  | simulMatchPart =>
    rw [mode] at done
    simp only [simulMatchPart] at done
    simp only [effectOf, mode]
    split at done
    next touched =>
      cases done
      rw [if_pos touched]
      rfl
    next untouched =>
      rw [if_neg untouched]
      split at done
      next single =>
        rw [if_pos single]
        exact divided_effect done
      next many =>
        rw [if_neg many]
        exact divided_effect done

theorem step_effect {before after : OrderMessage} {step : MatchStep} (taken : Stepping before step after) :
    quantities after = (step.effect before).apply (quantities before) := by
  cases step with
  | work kind db round cache =>
    obtain ⟨attempt, done, rfl⟩ := Option.map_eq_some_iff.mp taken
    cases kind with
    | aBStockMatch => exact matchOrder_effect done
    | etfMatch =>
      simp only [TaskKind.run, TaskEtfMatch.matchOrder] at done
      simp only [MatchStep.effect, effectOf]
      split at done
      next trades =>
        rw [if_pos trades]
        exact simulated_quantities done
      next other =>
        rw [if_neg other]
        cases done
        rfl
    | shRuleMatch | szRuleMatch =>
      cases done
      rfl
    | cancelOrder | validOrder => cases done
  | cancel request transId =>
    cases taken
    rfl

theorem quoteEffect_short (round : Round) (order : OrderMessage) :
    Short (quantities order) (quoteEffect round order) := by
  unfold quoteEffect Short
  cases round.quote with
  | none => simp
  | some quote =>
    simp only
    split
    next =>
      split
      next short => split <;> simp [quantities, short]
      next => simp
    next => simp

theorem effect_short (step : MatchStep) (order : OrderMessage) : Short (quantities order) (step.effect order) := by
  cases step with
  | cancel request transId => simp [Short, MatchStep.effect]
  | work kind db round cache =>
    simp only [MatchStep.effect]
    cases kind with
    | aBStockMatch =>
      cases mode : order.tradePolicy.matchMode with
      | enAbleQuta =>
        simp only [effectOf, mode]
        exact quoteEffect_short round order
      | simulMatchPart =>
        simp only [effectOf, mode]
        split <;> simp [Short]
      | _ => simp [effectOf, mode, Short]
    | etfMatch =>
      simp only [effectOf]
      split <;> simp [Short]
    | _ => simp [effectOf, Short]

theorem step_lawful_iff {before after : OrderMessage} {step : MatchStep} (taken : Stepping before step after) :
    Lawful before step after ↔ (step.effect before).Sound (quantities before) := by
  have effect := step_effect taken
  rw [← effect_lawful_iff _ (effect_short step before), ← effect]
  exact ⟨fun lawful => ⟨lawful.consistent, lawful.leaves⟩, fun both => ⟨both.1, both.2⟩⟩

end Steps

/-- The runs that keep the quantities consistent throughout are those whose every step has
a sound effect. -/
theorem quantities_consistent_iff (order : OrderMessage) (steps : List MatchStep) (last : OrderMessage) :
    Run (fun before step after => Stepping before step after ∧ Lawful before step after) order steps last ↔
      Run (Stepping.guarded fun before step => (step.effect before).Sound (quantities before)) order steps last :=
  Run.lawful_iff_guarded (fun _ _ _ (_ : True) => step_lawful_iff) (fun _ _ _ _ _ _ => trivial) trivial

/-- An order of a hundred that nothing has touched yet, matched in full whatever the quote. -/
def freshHundred : OrderMessage where
  orderqtyOrigin := 100
  leavesQty := 100
  orderqtyUnmatched := 100
  strOrderqtyOrigin := "100"
  strLeavesQty := "100"
  strCumQty := "0"
  tradeType := .aTrade
  tradePolicy := { matchMode := .simulMatchAll }

def quietRound : Round where
  quotationType := .averagePrice
  quote := none
  stored := true
  cancelId := "1"
  transId := "1"

/-- Its complete fill still has a hundred left. -/
theorem complete_fill_keeps_leaves :
    Consistent (quantities freshHundred) ∧ ∃ after,
      Stepping freshHundred (.work .aBStockMatch (fun _ _ => none) quietRound (fun _ _ => none)) after ∧
      after.ordStatus = Step.ordStatusFill ∧ after.leavesQty = 100 ∧
      ¬ Lawful freshHundred (.work .aBStockMatch (fun _ _ => none) quietRound (fun _ _ => none)) after := by
  refine ⟨⟨rfl, by decide, by decide, by decide⟩, _, rfl, rfl, rfl, fun lawful => ?_⟩
  exact absurd lawful.consistent.unmatched (by decide)

end Simutgw.Proofs.OrderQuantities
