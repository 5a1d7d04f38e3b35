import Simutgw.Logic.Runs
import Simutgw.Proofs.DecimalText
import Simutgw.TgwMarketInfoProc
import Mathlib.Algebra.BigOperators.Group.List.Basic

/-! The volume issued to the orders against the volume the market traded. Every gap
is measured from the quote stored last, so what has been issued stays below the
last cumulative volume as long as that never falls; only a suspended quote can
make it fall. -/

namespace Simutgw.TgwMarketInfoProc
open Logic SofString TgwStringUtil MarketInfoHelper Proofs.DecimalText

/-- The largest cumulative word among the quotes. -/
def largest (word : AStockQuot → UInt64) (quots : List AStockQuot) : Nat :=
  (quots.map fun quot => (word quot).toNat).foldr max 0

def issuedCjsl (feed : Feed) : Nat := (feed.issued.map fun issue => issue.gapCjsl.toNat).sum

def issuedCjje (feed : Feed) : Nat := (feed.issued.map fun issue => issue.gapCjje.toNat).sum

/-- Nothing is issued, or the difference of the two words as numbers. -/
def Unwrapped (previous now gap : UInt64) : Prop := gap = 0 ∨ previous.toNat + gap.toNat = now.toNat

structure Covered (feed : Feed) : Prop where
  cjsl : issuedCjsl feed ≤ largest AStockQuot.cjsl feed.accepted
  cjje : issuedCjje feed ≤ largest AStockQuot.cjje feed.accepted
  unwrapped : ∀ issue ∈ feed.issued, Unwrapped issue.previousCjsl issue.quot.cjsl issue.gapCjsl ∧
    Unwrapped issue.previousCjje issue.quot.cjje issue.gapCjje

/-- A quote whose texts the next one reads back as they were. -/
def Readable (quot : AStockQuot) : Prop :=
  quot.hqsj.isEmpty = false ∧ quot.cjsl.toNat < 2 ^ 63 ∧ quot.cjje.toNat < 2 ^ 63

instance (quot : AStockQuot) : Decidable (Readable quot) := inferInstanceAs (Decidable (_ ∧ _ ∧ _))

/-- What an arrival must meet. A quote that gets stored is readable, was compared
with the one before, and if it is a suspended one does not fall behind it; the
record does not expire between two quotes. -/
def Meets (ptime : String → Option Int) (zqdm : String) (feed : Feed) : Arrival → Prop
  | .quot replies quot =>
    (calcQuotationGap ptime (getCurrentQuotationByStockId feed.store replies.hmget zqdm) quot).code = 0 →
    replies.hmsetQuot = true →
    Readable quot ∧
      ∀ previous, getCurrentQuotationByStockId feed.store true zqdm = some previous →
        replies.hmget = true ∧ (quot.tpbz ≠ "F" → previous.cjsl ≤ quot.cjsl ∧ previous.cjje ≤ quot.cjje)
  | .expire => getCurrentQuotationByStockId feed.store true zqdm = none

theorem largest_append (word : AStockQuot → UInt64) (quots : List AStockQuot) (quot : AStockQuot) :
    largest word (quots ++ [quot]) = max (largest word quots) (word quot).toNat := by
  induction quots with
  | nil => simp [largest]
  | cons first quots ih =>
    simp only [largest, List.cons_append, List.map_cons, List.foldr_cons] at ih ⊢
    rw [ih]
    omega

/-- The words a quote is compared with: those stored last, or zero. -/
def previousCjsl (store : QuoteStore) (answered : Bool) (zqdm : String) : UInt64 :=
  ((getCurrentQuotationByStockId store answered zqdm).map PreviousQuot.cjsl).getD 0

def previousCjje (store : QuoteStore) (answered : Bool) (zqdm : String) : UInt64 :=
  ((getCurrentQuotationByStockId store answered zqdm).map PreviousQuot.cjje).getD 0

/-- A gap that is let through is the difference to the previous quote, which is not ahead. -/
theorem gapFrom_issues {previousCjsl previousCjje : UInt64} {quot : AStockQuot} {isRecordBefore : Bool}
    (through : (gapFrom previousCjsl previousCjje quot isRecordBefore).code = 0) :
    (quot.tpbz ≠ "F" ∧ (gapFrom previousCjsl previousCjje quot isRecordBefore).cjsl = 0 ∧
        (gapFrom previousCjsl previousCjje quot isRecordBefore).cjje = 0) ∨
      (quot.tpbz = "F" ∧
        previousCjsl.toNat + (gapFrom previousCjsl previousCjje quot isRecordBefore).cjsl.toNat = quot.cjsl.toNat ∧
        previousCjje.toNat + (gapFrom previousCjsl previousCjje quot isRecordBefore).cjje.toNat = quot.cjje.toNat) := by
  unfold gapFrom at through ⊢
  split at through
  next suspended => exact .inl ⟨suspended, by simp [suspended], by simp [suspended]⟩
  next trading =>
    simp only at through
    split at through
    next => exact absurd through (by simp)
    next ahead =>
      split at through
      next => exact absurd through (by simp)
      next grows =>
        obtain ⟨volumes, turnovers⟩ := not_or.mp ahead
        rw [gt_iff_lt, UInt64.lt_iff_toNat_lt, Nat.not_lt] at volumes turnovers
        refine .inr ⟨Decidable.not_not.mp trading, ?_, ?_⟩
        · simp only [trading, ahead, grows, if_false]
          rw [UInt64.toNat_sub_of_le _ _ (UInt64.le_iff_toNat_le.mpr volumes)]
          omega
        · simp only [trading, ahead, grows, if_false]
          rw [UInt64.toNat_sub_of_le _ _ (UInt64.le_iff_toNat_le.mpr turnovers)]
          omega

theorem gapFrom_code (previousCjsl previousCjje : UInt64) (quot : AStockQuot) (isRecordBefore : Bool) :
    (gapFrom previousCjsl previousCjje quot isRecordBefore).code ∈ [0, 1, -3] := by
  unfold gapFrom
  simp only
  split
  next => simp
  next =>
    split
    next => simp
    next => split <;> simp

theorem calcQuotationGap_code (ptime : String → Option Int) (previous : Option PreviousQuot) (quot : AStockQuot) :
    (calcQuotationGap ptime previous quot).code = 0 ∨
      ((calcQuotationGap ptime previous quot).code < 0 ∨ (calcQuotationGap ptime previous quot).code = 1) := by
  have codes (previousCjsl previousCjje : UInt64) (isRecordBefore : Bool) :
      (gapFrom previousCjsl previousCjje quot isRecordBefore).code = 0 ∨
        ((gapFrom previousCjsl previousCjje quot isRecordBefore).code < 0 ∨
          (gapFrom previousCjsl previousCjje quot isRecordBefore).code = 1) := by
    have code := gapFrom_code previousCjsl previousCjje quot isRecordBefore
    simp only [List.mem_cons, List.not_mem_nil, or_false] at code
    omega
  unfold calcQuotationGap
  split
  next => exact codes 0 0 false
  next previous =>
    split
    next => simp
    next diff _ =>
      split
      next => simp
      next =>
        split
        next => simp
        next =>
          split
          next => simp
          next => exact codes previous.cjsl previous.cjje true

theorem calcQuotationGap_issues {ptime : String → Option Int} {previous : Option PreviousQuot} {quot : AStockQuot}
    (through : (calcQuotationGap ptime previous quot).code = 0) :
    (quot.tpbz ≠ "F" ∧ (calcQuotationGap ptime previous quot).cjsl = 0 ∧
        (calcQuotationGap ptime previous quot).cjje = 0) ∨
      (quot.tpbz = "F" ∧
        ((previous.map PreviousQuot.cjsl).getD 0).toNat + (calcQuotationGap ptime previous quot).cjsl.toNat =
          quot.cjsl.toNat ∧
        ((previous.map PreviousQuot.cjje).getD 0).toNat + (calcQuotationGap ptime previous quot).cjje.toNat =
          quot.cjje.toNat) := by
  cases previous with
  | none => exact gapFrom_issues through
  | some previous =>
    have passed : calcQuotationGap ptime (some previous) quot = gapFrom previous.cjsl previous.cjje quot true := by
      unfold calcQuotationGap at through ⊢
      simp only at through ⊢
      split at through
      next => exact absurd through (by simp)
      next diff _ =>
        split at through
        next => exact absurd through (by simp)
        next later =>
          split at through
          next => exact absurd through (by simp)
          next ordered =>
            split at through
            next => exact absurd through (by simp)
            next changed => simp [later, ordered, changed]
    rw [passed] at through ⊢
    exact gapFrom_issues through

theorem storeSelfUseQuotation_quots (store : QuoteStore) (replies : Replies) (quot : AStockQuot)
    (gapCjsl gapCjje : UInt64) (isRecordBefore : Bool) :
    (storeSelfUseQuotation store replies quot gapCjsl gapCjje isRecordBefore).2.quots =
      if replies.hmsetQuot then
        Function.update store.quots quot.zqdm ((store.quots quot.zqdm).set (quotFields quot))
      else store.quots := by
  unfold storeSelfUseQuotation
  cases replies.hmsetQuot with
  | false => rfl
  | true =>
    simp only [not_true_eq_false, if_false, if_true]
    split
    next => rfl
    next =>
      split
      next => rfl
      next => split <;> rfl

theorem stored_reads_back {quots : String → Hash String String} {store : QuoteStore} {quot : AStockQuot}
    (readable : Readable quot)
    (stored : store.quots = Function.update quots quot.zqdm ((quots quot.zqdm).set (quotFields quot))) :
    getCurrentQuotationByStockId store true quot.zqdm = some ⟨quot.cjsl, quot.cjje, quot.hqsj⟩ := by
  obtain ⟨timed, volume, turnover⟩ := readable
  have once : ((quotFields quot).map Prod.fst).Nodup := by simp [quotFields]
  have holds (field value : String) (written : (field, value) ∈ quotFields quot) :
      store.quots quot.zqdm field = some value := by
    rw [stored, Function.update_self, Hash.set_of_mem _ written once]
  have cjsl := holds "CJSL" (itostr quot.cjsl) (by simp [quotFields])
  have cjje := holds "CJJE" (itostr quot.cjje) (by simp [quotFields])
  have hqsj := holds "OrigTime" quot.hqsj (by simp [quotFields])
  simp [getCurrentQuotationByStockId, Hash.get, cjsl, cjje, hqsj, timed, string2UInt64_itostr volume,
    string2UInt64_itostr turnover]

/-- What has been issued stays below the record, which is one of the accepted quotes. -/
structure Recorded (zqdm : String) (feed : Feed) : Prop where
  fresh : getCurrentQuotationByStockId feed.store true zqdm = none → feed.issued = []
  last : ∀ previous, getCurrentQuotationByStockId feed.store true zqdm = some previous →
    (issuedCjsl feed ≤ previous.cjsl.toNat ∧ previous.cjsl.toNat ≤ largest AStockQuot.cjsl feed.accepted) ∧
      (issuedCjje feed ≤ previous.cjje.toNat ∧ previous.cjje.toNat ≤ largest AStockQuot.cjje feed.accepted)
  unwrapped : ∀ issue ∈ feed.issued, Unwrapped issue.previousCjsl issue.quot.cjsl issue.gapCjsl ∧
    Unwrapped issue.previousCjje issue.quot.cjje issue.gapCjje

theorem Recorded.covered {zqdm : String} {feed : Feed} (recorded : Recorded zqdm feed) : Covered feed := by
  refine ⟨?_, ?_, recorded.unwrapped⟩
  · cases previous : getCurrentQuotationByStockId feed.store true zqdm with
    | none => simp [issuedCjsl, recorded.fresh previous]
    | some previous' => exact le_trans (recorded.last _ previous).1.1 (recorded.last _ previous).1.2
  · cases previous : getCurrentQuotationByStockId feed.store true zqdm with
    | none => simp [issuedCjje, recorded.fresh previous]
    | some previous' => exact le_trans (recorded.last _ previous).2.1 (recorded.last _ previous).2.2

@[simp] theorem readRealMarketInfo_gap (ptime : String → Option Int) (store : QuoteStore) (replies : Replies)
    (quot : AStockQuot) :
    (readRealMarketInfo ptime store replies quot).1 =
      calcQuotationGap ptime (getCurrentQuotationByStockId store replies.hmget quot.zqdm) quot := by
  simp only [readRealMarketInfo]
  split <;> rfl

/-- A quote that is not let through, or whose record is not carried out, changes nothing. -/
theorem refused_keeps {ptime : String → Option Int} {store : QuoteStore} {replies : Replies} {quot : AStockQuot}
    (refused : ¬ ((calcQuotationGap ptime (getCurrentQuotationByStockId store replies.hmget quot.zqdm) quot).code = 0 ∧
      replies.hmsetQuot = true)) :
    (readRealMarketInfo ptime store replies quot).2.quots = store.quots := by
  simp only [readRealMarketInfo]
  split
  next => rfl
  next through =>
    have codes := calcQuotationGap_code ptime (getCurrentQuotationByStockId store replies.hmget quot.zqdm) quot
    have unanswered : replies.hmsetQuot = false := by
      rw [← Bool.not_eq_true]
      intro answered
      exact refused ⟨codes.resolve_right through, answered⟩
    simp [storeSelfUseQuotation_quots, unanswered]

theorem accepted_records {ptime : String → Option Int} {store : QuoteStore} {replies : Replies} {quot : AStockQuot}
    (through : (calcQuotationGap ptime (getCurrentQuotationByStockId store replies.hmget quot.zqdm) quot).code = 0)
    (answered : replies.hmsetQuot = true) (readable : Readable quot) :
    getCurrentQuotationByStockId (readRealMarketInfo ptime store replies quot).2 true quot.zqdm =
      some ⟨quot.cjsl, quot.cjje, quot.hqsj⟩ := by
  apply stored_reads_back readable
  simp only [readRealMarketInfo, through]
  rw [if_neg (by omega), storeSelfUseQuotation_quots, if_pos answered]

/-- Reading the record depends on the security's own hash only. -/
theorem getCurrent_congr {store other : QuoteStore} (same : store.quots = other.quots) (answered : Bool)
    (zqdm : String) :
    getCurrentQuotationByStockId store answered zqdm = getCurrentQuotationByStockId other answered zqdm := by
  simp only [getCurrentQuotationByStockId, same]

theorem step_quot {ptime : String → Option Int} {zqdm : String} {before after : Feed} {replies : Replies}
    {quot : AStockQuot} (taken : step ptime zqdm before (.quot replies quot) = some after) :
    quot.zqdm = zqdm ∧
      ((after.store.quots = before.store.quots ∧ after.accepted = before.accepted ∧ after.issued = before.issued) ∨
        ∃ gap, calcQuotationGap ptime (getCurrentQuotationByStockId before.store replies.hmget zqdm) quot = gap ∧
          gap.code = 0 ∧ replies.hmsetQuot = true ∧ after.accepted = before.accepted ++ [quot] ∧
          after.store = (readRealMarketInfo ptime before.store replies quot).2 ∧
          (after.issued = before.issued ∨
            ∃ issue : Issue, after.issued = before.issued ++ [issue] ∧ issue.quot = quot ∧
              issue.gapCjsl = gap.cjsl ∧ issue.gapCjje = gap.cjje ∧
              issue.previousCjsl = previousCjsl before.store replies.hmget zqdm ∧
              issue.previousCjje = previousCjje before.store replies.hmget zqdm)) := by
  simp only [step, arrive, readRealMarketInfo_gap] at taken
  split at taken
  next => cases taken
  next same =>
    obtain rfl : quot.zqdm = zqdm := Decidable.not_not.mp same
    obtain rfl := Option.some.inj taken
    refine ⟨rfl, ?_⟩
    by_cases recorded : (calcQuotationGap ptime
        (getCurrentQuotationByStockId before.store replies.hmget quot.zqdm) quot).code = 0 ∧ replies.hmsetQuot = true
    · refine .inr ⟨_, rfl, recorded.1, recorded.2, by simp only [recorded, and_self, if_true], rfl, ?_⟩
      simp only [recorded, true_and]
      split
      next => exact .inr ⟨_, rfl, rfl, rfl, rfl, rfl, rfl⟩
      next => exact .inl (List.append_nil _)
    · refine .inl ⟨refused_keeps recorded, ?_, ?_⟩
      · simp only [recorded, if_false, List.append_nil]
      · have unissued (isRecordBefore : Bool) : ¬ ((calcQuotationGap ptime
            (getCurrentQuotationByStockId before.store replies.hmget quot.zqdm) quot).code = 0 ∧
              storesVolume replies isRecordBefore = true) := by
          rintro ⟨through, stores⟩
          simp only [storesVolume, Bool.and_eq_true] at stores
          exact recorded ⟨through, stores.1.1⟩
        simp only [unissued, if_false, List.append_nil]

/-- The previous volumes of a quote that meets its condition are the record's,
whether or not there is one. -/
theorem meets_previous {ptime : String → Option Int} {zqdm : String} {feed : Feed} {replies : Replies}
    {quot : AStockQuot} (meets : Meets ptime zqdm feed (.quot replies quot))
    (through : (calcQuotationGap ptime (getCurrentQuotationByStockId feed.store replies.hmget zqdm) quot).code = 0)
    (answered : replies.hmsetQuot = true) :
    getCurrentQuotationByStockId feed.store replies.hmget zqdm = getCurrentQuotationByStockId feed.store true zqdm := by
  cases read : replies.hmget with
  | true => rfl
  | false =>
    cases previous : getCurrentQuotationByStockId feed.store true zqdm with
    | none => rfl
    | some previous' =>
      have compared := ((meets through answered).2 previous' previous).1
      rw [read] at compared
      cases compared

/-- The step for one of the two words: the quote is not behind the one before it,
and what is issued with it is covered by it. -/
theorem covers_word {issued previous gap now : Nat} {suspended : Prop} (covered : issued ≤ previous)
    (moves : (suspended ∧ gap = 0) ∨ previous + gap = now) (behind : suspended → previous ≤ now) :
    issued ≤ now ∧ issued + gap ≤ now := by
  cases moves with
  | inl still =>
    have := behind still.1
    omega
  | inr grows => omega

theorem unwrapped_of_moves {previous now gap : UInt64} {suspended : Prop}
    (moves : (suspended ∧ gap.toNat = 0) ∨ previous.toNat + gap.toNat = now.toNat) : Unwrapped previous now gap := by
  cases moves with
  | inl still => exact .inl (UInt64.toNat_inj.mp still.2)
  | inr grows => exact .inr grows

/-- What has been issued is covered by the words the next quote is compared with,
and a suspended quote that meets its condition is not behind them. -/
theorem Recorded.previous {ptime : String → Option Int} {zqdm : String} {feed : Feed} {replies : Replies}
    {quot : AStockQuot} (recorded : Recorded zqdm feed) (meets : Meets ptime zqdm feed (.quot replies quot))
    (through : (calcQuotationGap ptime (getCurrentQuotationByStockId feed.store replies.hmget zqdm) quot).code = 0)
    (answered : replies.hmsetQuot = true) :
    (issuedCjsl feed ≤ (previousCjsl feed.store true zqdm).toNat ∧
        issuedCjje feed ≤ (previousCjje feed.store true zqdm).toNat) ∧
      (quot.tpbz ≠ "F" → (previousCjsl feed.store true zqdm).toNat ≤ quot.cjsl.toNat ∧
        (previousCjje feed.store true zqdm).toNat ≤ quot.cjje.toNat) := by
  unfold previousCjsl previousCjje
  cases previous : getCurrentQuotationByStockId feed.store true zqdm with
  | none => simp [issuedCjsl, issuedCjje, recorded.fresh previous]
  | some previous' =>
    have last := recorded.last _ previous
    refine ⟨⟨last.1.1, last.2.1⟩, ?_⟩
    intro suspended
    obtain ⟨volumes, turnovers⟩ := ((meets through answered).2 _ previous).2 suspended
    exact ⟨UInt64.le_iff_toNat_le.mp volumes, UInt64.le_iff_toNat_le.mp turnovers⟩

theorem step_recorded {ptime : String → Option Int} {zqdm : String} {before after : Feed} {arrival : Arrival}
    (recorded : Recorded zqdm before) (taken : step ptime zqdm before arrival = some after)
    (meets : Meets ptime zqdm before arrival) : Recorded zqdm after := by
  cases arrival with
  | expire =>
    cases taken
    have nothing : before.issued = [] := recorded.fresh meets
    refine ⟨fun _ => nothing, ?_, recorded.unwrapped⟩
    intro previous found
    simp [getCurrentQuotationByStockId, Hash.get] at found
  | quot replies quot =>
    obtain ⟨rfl, same | ⟨gap, calculated, through, answered, accepted, store, issued⟩⟩ := step_quot taken
    · obtain ⟨quots, accepted, issued⟩ := same
      refine ⟨?_, ?_, ?_⟩
      · rw [getCurrent_congr quots, issued]
        exact recorded.fresh
      · simp only [issuedCjsl, issuedCjje, getCurrent_congr quots, issued, accepted]
        exact recorded.last
      · rw [issued]
        exact recorded.unwrapped
    · subst calculated
      have same := meets_previous meets through answered
      have record := accepted_records through answered (meets through answered).1
      rw [← store] at record
      have words : previousCjsl before.store replies.hmget quot.zqdm = previousCjsl before.store true quot.zqdm ∧
          previousCjje before.store replies.hmget quot.zqdm = previousCjje before.store true quot.zqdm := by
        simp only [previousCjsl, previousCjje, same, and_self]
      obtain ⟨⟨volume, turnover⟩, behind⟩ := recorded.previous meets through answered
      have volumes : (quot.tpbz ≠ "F" ∧ _ ) ∨ _ :=
        (calcQuotationGap_issues through).imp (fun still => ⟨still.1, congrArg UInt64.toNat still.2.1⟩)
          fun grows => grows.2.1
      have turnovers : (quot.tpbz ≠ "F" ∧ _ ) ∨ _ :=
        (calcQuotationGap_issues through).imp (fun still => ⟨still.1, congrArg UInt64.toNat still.2.2⟩)
          fun grows => grows.2.2
      change _ ∨ (previousCjsl before.store replies.hmget quot.zqdm).toNat + _ = _ at volumes
      change _ ∨ (previousCjje before.store replies.hmget quot.zqdm).toNat + _ = _ at turnovers
      rw [words.1] at volumes
      rw [words.2] at turnovers
      have coveredCjsl := covers_word volume volumes fun suspended => (behind suspended).1
      have coveredCjje := covers_word turnover turnovers fun suspended => (behind suspended).2
      refine ⟨?_, ?_, ?_⟩
      · intro nothing
        rw [record] at nothing
        cases nothing
      · intro previous found
        rw [record] at found
        obtain rfl := Option.some.inj found
        simp only [accepted, largest_append, issuedCjsl, issuedCjje]
        refine ⟨⟨?_, le_max_right _ _⟩, ?_, le_max_right _ _⟩
        · cases issued with
          | inl kept =>
            rw [kept]
            exact coveredCjsl.1
          | inr more =>
            obtain ⟨issue, more, -, gapCjsl, -⟩ := more
            rw [more, List.map_append, List.sum_append, List.map_singleton, List.sum_singleton, gapCjsl]
            exact coveredCjsl.2
        · cases issued with
          | inl kept =>
            rw [kept]
            exact coveredCjje.1
          | inr more =>
            obtain ⟨issue, more, -, -, gapCjje, -⟩ := more
            rw [more, List.map_append, List.sum_append, List.map_singleton, List.sum_singleton, gapCjje]
            exact coveredCjje.2
      · intro issue found
        cases issued with
        | inl kept =>
          rw [kept] at found
          exact recorded.unwrapped issue found
        | inr more =>
          obtain ⟨new, more, quoted, gapCjsl, gapCjje, comparedCjsl, comparedCjje⟩ := more
          rw [more, List.mem_append, List.mem_singleton] at found
          cases found with
          | inl old => exact recorded.unwrapped issue old
          | inr here =>
            subst here
            rw [quoted, gapCjsl, gapCjje, comparedCjsl, comparedCjje, words.1, words.2]
            exact ⟨unwrapped_of_moves volumes, unwrapped_of_moves turnovers⟩

/-- What is issued for a security is covered by the largest cumulative volume and
turnover it reported, in every run whose arrivals meet their conditions. -/
theorem issued_within_reported (ptime : String → Option Int) (zqdm : String) {arrivals : List Arrival} {last : Feed}
    (run : Run (Steps.guarded (fun before arrival after => step ptime zqdm before arrival = some after)
      (Meets ptime zqdm)) {} arrivals last) : Covered last := by
  have recorded : Recorded zqdm last := by
    refine run.invariant ?_ ?_
    · intro before arrival after recorded taken
      exact step_recorded recorded taken.1 taken.2
    · refine ⟨fun _ => rfl, ?_, ?_⟩
      · intro previous found
        simp [getCurrentQuotationByStockId, Hash.get] at found
      · intro issue found
        cases found
  exact recorded.covered

theorem accepted_step (ptime : String → Option Int) (before : Feed) (quot : AStockQuot)
    {previous : Option PreviousQuot} {gap : Gap}
    (record : getCurrentQuotationByStockId before.store true quot.zqdm = previous) (readable : Readable quot)
    (calculated : calcQuotationGap ptime previous quot = gap) (through : gap.code = 0) :
    ∃ after, step ptime quot.zqdm before (.quot {} quot) = some after ∧
      getCurrentQuotationByStockId after.store true quot.zqdm = some ⟨quot.cjsl, quot.cjje, quot.hqsj⟩ ∧
      after.accepted = before.accepted ++ [quot] ∧ issuedCjsl after = issuedCjsl before + gap.cjsl.toNat := by
  subst record calculated
  have taken : step ptime quot.zqdm before (.quot {} quot) = some (arrive ptime before {} quot) :=
    if_neg fun other => other rfl
  refine ⟨_, taken, accepted_records through rfl readable, ?_, ?_⟩
  · simp only [arrive, readRealMarketInfo_gap, through]
    rfl
  · simp [issuedCjsl, arrive, readRealMarketInfo_gap, through, storesVolume]

/-- A quote of the morning of one security, with the day's volume and turnover so far. -/
def morningQuot (hqsj tpbz : String) (cjsl cjje : UInt64) : AStockQuot where
  zqdm := "000001"
  hqsj := hqsj
  tpbz := tpbz
  maxgain := 0
  minfall := 0
  zjjg := 10
  cjsl := cjsl
  cjje := cjje
  sjw1 := 10
  ssl1 := 100
  bjw1 := 10
  bsl1 := 100
  originStr := ""

def clock (text : String) : Option Int :=
  if text = "2017-04-13 09:31:00.000" then some 0
  else if text = "2017-04-13 09:32:00.000" then some 60000000
  else if text = "2017-04-13 09:33:00.000" then some 120000000
  else none

def beforeHalt : AStockQuot := morningQuot "2017-04-13 09:31:00.000" "F" 100 1000
def halted : AStockQuot := morningQuot "2017-04-13 09:32:00.000" "T" 0 0
def resumed : AStockQuot := morningQuot "2017-04-13 09:33:00.000" "F" 120 1200

/-- A suspension quote without volumes in between makes the next quote issue the
morning's volume once more. -/
theorem halt_issues_twice :
    ∃ last, Run (fun before arrival after => step clock "000001" before arrival = some after) {}
        [.quot {} beforeHalt, .quot {} halted, .quot {} resumed] last ∧
      issuedCjsl last = 220 ∧ largest AStockQuot.cjsl last.accepted = 120 ∧ ¬ Covered last := by
  obtain ⟨first, taken, record, accepted, issued⟩ := accepted_step clock {} beforeHalt
    (show _ = none from rfl) (by decide) rfl rfl
  obtain ⟨second, taken', record', accepted', issued'⟩ := accepted_step clock first halted record (by decide) rfl rfl
  obtain ⟨last, taken'', record'', accepted'', issued''⟩ := accepted_step clock second resumed record' (by decide) rfl rfl
  have total : issuedCjsl last = 220 := by
    rw [issued'', issued', issued]
    rfl
  have most : largest AStockQuot.cjsl last.accepted = 120 := by
    rw [accepted'', accepted', accepted]
    rfl
  refine ⟨last, .cons taken <| .cons taken' <| .cons taken'' <| .nil _, total, most, ?_⟩
  intro covered
  have := covered.cjsl
  omega

/-- Without the suspension the two quotes issue what was traded. -/
theorem issued_within_reported_morning :
    ∃ last, Run (Steps.guarded (fun before arrival after => step clock "000001" before arrival = some after)
        (Meets clock "000001")) {} [.quot {} beforeHalt, .quot {} resumed] last ∧
      issuedCjsl last = 120 ∧ Covered last := by
  obtain ⟨first, taken, record, accepted, issued⟩ := accepted_step clock {} beforeHalt
    (show _ = none from rfl) (by decide) rfl rfl
  obtain ⟨last, taken', record', accepted', issued'⟩ := accepted_step clock first resumed record (by decide) rfl rfl
  have run : Run (Steps.guarded (fun before arrival after => step clock "000001" before arrival = some after)
      (Meets clock "000001")) {} [.quot {} beforeHalt, .quot {} resumed] last := by
    refine .cons ⟨taken, ?_⟩ <| .cons ⟨taken', ?_⟩ <| .nil _
    · intro _ _
      refine ⟨by decide, ?_⟩
      intro previous found
      cases found
    · intro _ _
      refine ⟨by decide, ?_⟩
      intro previous _
      exact ⟨rfl, fun suspended => absurd rfl suspended⟩
  refine ⟨last, run, ?_, issued_within_reported clock "000001" run⟩
  rw [issued', issued]
  rfl

end Simutgw.TgwMarketInfoProc
