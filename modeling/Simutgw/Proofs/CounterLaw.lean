import Simutgw.Logic.Runs
import Simutgw.Proofs.OrderOutcome
import Simutgw.Proofs.ReportOutlet
import Simutgw.SystemCounter

/-! The counters against what was built, and the figure printed for reports. Validations are
counted before anything is sent for them, and Shanghai's cancels and refusals in two places. -/

namespace Simutgw.Proofs.CounterLaw
open Logic CountedGateway

/-! A market's links. -/

def names (links : LinkCounters) : List String := links.counts.map Prod.fst

theorem increment_sum (name : String) {counts : List (String × UInt64)} (unique : (counts.map Prod.fst).Nodup) :
    ((counts.map (LinkCounters.increment name)).map Prod.snd).sum =
      (counts.map Prod.snd).sum + if name ∈ counts.map Prod.fst then 1 else 0 := by
  induction counts with
  | nil => rfl
  | cons link rest ih =>
    obtain ⟨apart, unique⟩ := List.nodup_cons.mp unique
    simp only [List.map_cons, List.sum_cons, ih unique, List.mem_cons, LinkCounters.increment]
    by_cases same : link.1 = name
    · subst same
      simp only [if_true, if_neg apart, true_or]
      rw [UInt64.add_zero, UInt64.add_assoc, UInt64.add_assoc, UInt64.add_comm 1]
    · rw [if_neg same, ← UInt64.add_assoc]
      simp only [Ne.symm same, false_or]

theorem incLinkSendBack_sendback (links : LinkCounters) (name : String) :
    (links.incLinkSendBack name).sendback = links.sendback + if name ∈ names links then 1 else 0 :=
  increment_sum name links.unique

/-! What was built, counted. -/

def built (matchType : MatchType) (orders : List OrderMessage) : UInt64 :=
  UInt64.ofNat (orders.countP (·.matchType = matchType))

/-- The counters of cancels and refusals against the reports built. -/
structure Matches (inner : WorkCounter) (orders : List OrderMessage) : Prop where
  cancel : inner.matchCancel = built .cancelMatch orders
  error : inner.error = built .errorMatch orders

def Counts (matchType : MatchType) : Prop := matchType = .cancelMatch ∨ matchType = .errorMatch

theorem built_append (matchType : MatchType) (orders : List OrderMessage) (order : OrderMessage) :
    built matchType (orders ++ [order]) = built matchType orders + if order.matchType = matchType then 1 else 0 := by
  rw [built, built, List.countP_append, UInt64.ofNat_add]
  congr 1
  by_cases same : order.matchType = matchType <;> simp [same]

variable {inner : WorkCounter} {orders : List OrderMessage}

theorem Matches.counted (matched : Matches inner orders) (order : OrderMessage) :
    Matches (incMatched order.matchType inner) (orders ++ [order]) := by
  obtain ⟨cancel, error⟩ := matched
  constructor
  · rw [built_append, ← cancel]
    cases type : order.matchType <;> simp [incMatched]
  · rw [built_append, ← error]
    cases type : order.matchType <;> simp [incMatched]

theorem incMatched_confirm (matchType : MatchType) (inner : WorkCounter) :
    (incMatched matchType inner).confirm = inner.confirm := by
  cases matchType <;> rfl

theorem incBuilder_confirm (order : OrderMessage) (inner : WorkCounter) :
    (incBuilder order inner).confirm = inner.confirm := by
  rw [incBuilder]
  cases order.matchType <;> simp only
  split <;> rfl

theorem Matches.uncounted_iff (matched : Matches inner orders) (matchType : MatchType) :
    Matches (incMatched matchType inner) orders ↔ ¬ Counts matchType := by
  obtain ⟨cancel, error⟩ := matched
  cases matchType with
  | cancelMatch =>
    refine ⟨fun after => ?_, fun none => absurd (.inl rfl) none⟩
    have twice := after.cancel
    simp [incMatched, ← cancel] at twice
  | errorMatch =>
    refine ⟨fun after => ?_, fun none => absurd (.inr rfl) none⟩
    have twice := after.error
    simp [incMatched, ← error] at twice
  | matchAll | matchPart | notMatch | outOfRange | stopTrans => simp [incMatched, Counts, Matches.mk cancel error]

/-- With a report behind them, the two counts of a popped order are one too many where the
builder counts. -/
theorem Matches.twice_iff (matched : Matches inner orders) (order : OrderMessage) :
    Matches (incMatched order.matchType (incBuilder order inner)) (orders ++ [order]) ↔
      (order.matchType = .cancelMatch → order.msgType ≠ Step.msgTypeExecReport) ∧ order.matchType ≠ .errorMatch := by
  have counted := matched.counted order
  cases type : order.matchType with
  | cancelMatch =>
    rw [type] at counted
    by_cases done : order.msgType = Step.msgTypeExecReport
    · simp only [incBuilder, type, if_pos done]
      refine ⟨fun after => ?_, fun other => absurd done (other.1 trivial)⟩
      have twice := after.cancel
      rw [← counted.cancel] at twice
      simp [incMatched] at twice
    · simp only [incBuilder, type, if_neg done]
      simp [counted, done]
  | errorMatch =>
    rw [type] at counted
    simp only [incBuilder, type]
    refine ⟨fun after => ?_, fun other => absurd rfl other.2⟩
    have twice := after.error
    rw [← counted.error] at twice
    simp [incMatched] at twice
  | matchAll | matchPart | notMatch | outOfRange | stopTrans =>
    rw [type] at counted
    simp [incBuilder, type, counted]

theorem Matches.without_iff (matched : Matches inner orders) (order : OrderMessage) :
    Matches (incMatched order.matchType (incBuilder order inner)) orders ↔ ¬ Counts order.matchType := by
  have once := matched.uncounted_iff order.matchType
  cases type : order.matchType with
  | cancelMatch =>
    by_cases done : order.msgType = Step.msgTypeExecReport
    · simp only [incBuilder, type, if_pos done]
      refine ⟨fun after => ?_, fun none => absurd (.inl rfl) none⟩
      have twice := after.cancel
      rw [← matched.cancel] at twice
      simp only [incMatched] at twice
      grind
    · simp only [incBuilder, type, if_neg done]
      rwa [type] at once
  | errorMatch =>
    simp only [incBuilder, type]
    refine ⟨fun after => ?_, fun none => absurd (.inr rfl) none⟩
    have twice := after.error
    rw [← matched.error] at twice
    simp only [incMatched] at twice
    grind
  | matchAll | matchPart | notMatch | outOfRange | stopTrans =>
    rw [type] at once
    simp only [incBuilder, type]
    exact once

/-! The law. -/

/-- Each market's counters are the numbers of what was built for it, in 64 bits, and the
figure printed for reports is the reports sent back without the confirms. -/
structure Law (gateway : CountedGateway) : Prop where
  sz : Matches gateway.counter.innerSz gateway.szBuilt
  sh : Matches gateway.counter.innerSh gateway.shBuilt
  szReport : gateway.counter.print.1.inner_report.toNat + gateway.counter.innerSz.confirm.toNat =
    gateway.counter.linkSz.sendback.toNat
  shReport : gateway.counter.print.2.inner_report.toNat + gateway.counter.innerSh.confirm.toNat =
    gateway.counter.linkSh.sendback.toNat

/-- The difference is exact where no fewer reports were sent back than orders confirmed. -/
theorem report_exact_iff {inner : WorkCounter} {links : LinkCounters} :
    (SystemCounter.figures inner links).inner_report.toNat + inner.confirm.toNat = links.sendback.toNat ↔
      inner.confirm ≤ links.sendback := by
  simp only [SystemCounter.figures]
  constructor
  · intro exact
    rw [UInt64.le_iff_toNat_le]
    omega
  · intro covered
    have words := UInt64.le_iff_toNat_le.mp covered
    rw [UInt64.toNat_sub_of_le _ _ covered]
    omega

theorem law_iff {gateway : CountedGateway} : Law gateway ↔
    (Matches gateway.counter.innerSz gateway.szBuilt ∧ Matches gateway.counter.innerSh gateway.shBuilt) ∧
      gateway.counter.innerSz.confirm ≤ gateway.counter.linkSz.sendback ∧
      gateway.counter.innerSh.confirm ≤ gateway.counter.linkSh.sendback := by
  constructor
  · intro ⟨sz, sh, szReport, shReport⟩
    exact ⟨⟨sz, sh⟩, report_exact_iff.mp szReport, report_exact_iff.mp shReport⟩
  · intro ⟨⟨sz, sh⟩, szCovered, shCovered⟩
    exact ⟨sz, sh, report_exact_iff.mpr szCovered, report_exact_iff.mpr shCovered⟩

/-- What a cancel or a refusal of Shenzhen's must be for one of the builders to take it. -/
def SzTaken (order : OrderMessage) : Prop :=
  (order.matchType = .cancelMatch →
    order.msgType = Step.msgTypeExecReport ∨ order.msgType = Step.msgTypeCancelReject) ∧
  (order.matchType = .errorMatch →
    order.msgType = Step.msgTypeNewOrder ∨ order.msgType = Step.msgTypeOrderCancel)

/-- Of Shanghai's only a cancel that was rejected, with a row to insert, is counted once for
one report. -/
def ShTaken (sessions : String → Bool) (order : OrderMessage) : Prop :=
  (order.matchType = .cancelMatch → order.msgType = Step.msgTypeCancelReject ∧
    ReportMsgSh.timed order = true ∧ sessions order.sessionId = true) ∧
  order.matchType ≠ .errorMatch

def links (counter : SystemCounter) : Market → LinkCounters
  | .sz => counter.linkSz
  | .sh => counter.linkSh

def inners (counter : SystemCounter) : Market → WorkCounter
  | .sz => counter.innerSz
  | .sh => counter.innerSh

/-- The steps that keep the law: a validation is counted when its market has sent back more
than it has confirmed, what is sent does not bring the sum of its links' counts below the
confirms, and what is popped is built and counted once. -/
def Meets (setting : Setting) (gateway : CountedGateway) : Event → Prop
  | .validate _ _ | .others _ => True
  | .exec => ∀ name, gateway.executing.head? = some name → gateway.counter.innerSh.confirm ≤
      gateway.counter.linkSh.sendback + if name ∈ names gateway.counter.linkSh then 1 else 0
  | .count thread => ∀ market, gateway.counting thread = some market →
      (inners gateway.counter market).confirm + 1 ≤ (links gateway.counter market).sendback
  | .report (.szTurn name transId _) => ∀ report sending,
      ReportOutlet.popped setting.sz gateway.outlet.gateway name transId = some (report, sending) →
      SzTaken report.order ∧ (sending.code = 0 → gateway.counter.innerSz.confirm ≤
        gateway.counter.linkSz.sendback + if report.order.senderCompID ∈ names gateway.counter.linkSz then 1 else 0)
  | .report (.shRound _) => ∀ report rest, gateway.outlet.shBuffer = report :: rest → gateway.outlet.rounds < 20000 →
      ShTaken setting.sh.sessions report.order
  | .report _ => True

/-! Shenzhen's turn. -/

/-- A cancel or a refusal goes to a builder, or to none and reports success. -/
theorem building_cases (report : SzReport) (transId : String) :
    SzTaken report.order ∧ (Counts report.order.matchType → isBuilt (report.building transId) = true) ∨
      ¬ SzTaken report.order ∧ Counts report.order.matchType ∧ report.building transId = .coded 0 := by
  cases type : report.order.matchType with
  | cancelMatch =>
    simp only [SzTaken, SzReport.building, SzReport.procSZCancelOrder, type, Counts]
    by_cases done : report.order.msgType = Step.msgTypeExecReport
    · simp [done, isBuilt]
    · by_cases refused : report.order.msgType = Step.msgTypeCancelReject
      · simp [refused, isBuilt, Step.msgTypeExecReport, Step.msgTypeCancelReject]
      · simp [done, refused]
  | errorMatch =>
    simp only [SzTaken, SzReport.building, SzReport.procSZErrorOrder, type, Counts]
    by_cases declared : report.order.msgType = Step.msgTypeNewOrder
    · simp [declared, isBuilt]
    · by_cases cancel : report.order.msgType = Step.msgTypeOrderCancel
      · simp [cancel, isBuilt, Step.msgTypeNewOrder, Step.msgTypeOrderCancel]
      · simp [declared, cancel]
  | matchAll | matchPart | notMatch | outOfRange | stopTrans => simp [SzTaken, type, Counts]

variable {setting : Setting} {gateway : CountedGateway}

theorem sentSz_iff (law : Law gateway) (conns : Conns) (report : SzReport) (transId : String) {sending : Sending}
    (made : sending = SzReport.build setting.sz conns report (report.building transId)) :
    Law (sentSz gateway report transId sending) ↔ SzTaken report.order ∧
      (sending.code = 0 → gateway.counter.innerSz.confirm ≤ gateway.counter.linkSz.sendback +
        if report.order.senderCompID ∈ names gateway.counter.linkSz then 1 else 0) := by
  rw [← incLinkSendBack_sendback]
  rcases building_cases report transId with ⟨taken, builds⟩ | ⟨untaken, counts, coded⟩
  · by_cases code : sending.code = 0
    · have matched : Matches (incMatched report.order.matchType gateway.counter.innerSz)
          (if isBuilt (report.building transId) then gateway.szBuilt ++ [report.order] else gateway.szBuilt) := by
        split
        next => exact law.sz.counted report.order
        next unbuilt => exact (law.sz.uncounted_iff _).mpr fun counts => unbuilt (builds counts)
      rw [sentSz, if_pos code]
      simp only [taken, code, true_and, forall_const]
      constructor
      · intro after
        have covered := (law_iff.mp after).2.1
        rwa [incMatched_confirm] at covered
      · intro covered
        exact law_iff.mpr ⟨⟨matched, law.sh⟩, by rwa [incMatched_confirm], (law_iff.mp law).2.2⟩
    · rw [sentSz, if_neg code]
      simp only [taken, code, true_and, false_implies, iff_true]
      exact law
  · have code : sending.code = 0 := by
      rw [made, coded]
      rfl
    rw [sentSz, if_pos code]
    simp only [untaken, false_and, iff_false]
    intro after
    have matched := after.sz
    simp only [coded, isBuilt, Bool.false_eq_true, if_false] at matched
    exact (law.sz.uncounted_iff _).mp matched counts

/-! Shanghai's round. -/

theorem rows_iff (sessions : String → Bool) {order : OrderMessage} (cancel : order.matchType = .cancelMatch) :
    (ReportMsgSh.pushed .ordwth2 (ReportMsgSh.procSHCancelOrder sessions order)).2 ≠ [] ∧
        order.msgType ≠ Step.msgTypeExecReport ↔ ShTaken sessions order := by
  have apart : Step.msgTypeCancelReject ≠ Step.msgTypeExecReport := by decide
  simp only [ShTaken, cancel, reduceCtorEq, not_false_eq_true, ne_eq, and_true, forall_const]
  by_cases refused : order.msgType = Step.msgTypeCancelReject
  · simp only [ReportMsgSh.procSHCancelOrder, cancel, refused, or_true, and_self, if_true, true_and, apart,
      not_false_eq_true, and_true, ReportMsgSh.fixToSHConfirm]
    cases ReportMsgSh.timed order <;> cases sessions order.sessionId <;> simp [ReportMsgSh.pushed]
  · simp only [refused, false_and, iff_false, not_and, not_not]
    intro rows
    by_contra done
    simp [ReportMsgSh.procSHCancelOrder, done, refused, ReportMsgSh.pushed] at rows

theorem building_code {sh : ShSetting} {report : ShReport} (cjbh : String) (counts : Counts report.order.matchType) :
    (ReportMsgSh.building sh report cjbh).1 = 0 := by
  rw [ReportMsgSh.building]
  rcases counts with type | type <;> rw [type]

theorem poppedSh_iff (law : Law gateway) (report : ShReport) (cjbh : String) :
    Law (poppedSh setting gateway report cjbh) ↔ ShTaken setting.sh.sessions report.order := by
  have shown : Law (poppedSh setting gateway report cjbh) ↔
      Matches (poppedSh setting gateway report cjbh).counter.innerSh (poppedSh setting gateway report cjbh).shBuilt := by
    obtain ⟨-, szCovered, shCovered⟩ := law_iff.mp law
    refine ⟨fun after => after.sh, fun matched => law_iff.mpr ⟨⟨law.sz, matched⟩, szCovered, ?_⟩⟩
    have confirm : (poppedSh setting gateway report cjbh).counter.innerSh.confirm = gateway.counter.innerSh.confirm := by
      simp only [poppedSh]
      split
      next => rw [incMatched_confirm, incBuilder_confirm]
      next => rw [incBuilder_confirm]
    rw [confirm]
    exact shCovered
  rw [shown]
  simp only [poppedSh]
  by_cases counts : Counts report.order.matchType
  · rw [if_pos (building_code cjbh counts)]
    split
    next none =>
      rw [law.sh.without_iff]
      refine ⟨fun other => absurd counts other, fun taken => ?_⟩
      rcases counts with cancel | error
      · have rows := ((rows_iff _ cancel).mpr taken).1
        rw [ReportMsgSh.building, cancel] at none
        exact absurd (List.isEmpty_iff.mp none) rows
      · exact absurd error taken.2
    next some =>
      rw [law.sh.twice_iff]
      rcases counts with cancel | error
      · rw [← rows_iff _ cancel]
        rw [ReportMsgSh.building, cancel, List.isEmpty_iff] at some
        simp [cancel, some]
      · simp [ShTaken, error]
  · have plain (inner : WorkCounter) : incMatched report.order.matchType inner = inner ∧
        incBuilder report.order inner = inner := by
      rw [incBuilder]
      cases type : report.order.matchType <;> simp_all [Counts, incMatched]
    have counted := law.sh.counted report.order
    rw [(plain _).1] at counted
    have taken : ShTaken setting.sh.sessions report.order := by
      simp only [Counts, not_or] at counts
      exact ⟨fun cancel => absurd cancel counts.1, counts.2⟩
    simp only [plain, ite_self, taken, iff_true]
    split
    next => exact law.sh
    next => exact counted

/-! Every step. -/

theorem law_congr {one two : CountedGateway} (counter : one.counter = two.counter) (sz : one.szBuilt = two.szBuilt)
    (sh : one.shBuilt = two.shBuilt) : Law one ↔ Law two := by
  rw [law_iff, law_iff, counter, sz, sh]

theorem popped_made {outlet : ReportOutlet} {name transId : String} {report : SzReport} {sending : Sending}
    (found : ReportOutlet.popped setting.sz outlet.gateway name transId = some (report, sending)) :
    sending = SzReport.build setting.sz outlet.gateway.conns report (report.building transId) := by
  rw [ReportOutlet.popped] at found
  split at found
  next =>
    split at found
    next =>
      cases found
      rfl
    next => cases found
  next => cases found

theorem count_iff (law : Law gateway) {thread : Nat} {after : CountedGateway} (done : count gateway thread = some after) :
    Law after ↔ Meets setting gateway (.count thread) := by
  obtain ⟨⟨sz, sh⟩, szCovered, shCovered⟩ := law_iff.mp law
  rw [count] at done
  cases counting : gateway.counting thread with
  | none => simp [counting] at done
  | some market =>
    cases market with
    | sz =>
      rw [counting] at done
      cases done
      simp only [Meets, counting, Option.some.injEq, forall_eq', inners, links]
      exact ⟨fun after => (law_iff.mp after).2.1,
        fun covered => law_iff.mpr ⟨⟨⟨sz.1, sz.2⟩, sh⟩, covered, shCovered⟩⟩
    | sh =>
      rw [counting] at done
      cases done
      simp only [Meets, counting, Option.some.injEq, forall_eq', inners, links]
      exact ⟨fun after => (law_iff.mp after).2.2,
        fun covered => law_iff.mpr ⟨⟨sz, ⟨sh.1, sh.2⟩⟩, szCovered, covered⟩⟩

theorem exec_iff (law : Law gateway) {after : CountedGateway} (done : exec gateway = some after) :
    Law after ↔ Meets setting gateway .exec := by
  obtain ⟨matched, szCovered, -⟩ := law_iff.mp law
  rw [exec] at done
  cases executing : gateway.executing with
  | nil => simp [executing] at done
  | cons name rest =>
    rw [executing] at done
    cases done
    rw [law_iff]
    simp only [Meets, executing, List.head?_cons, Option.some.injEq, forall_eq', incLinkSendBack_sendback]
    exact ⟨fun after => after.2.2, fun covered => ⟨matched, szCovered, covered⟩⟩

theorem counts_iff (law : Law gateway) (event : ReportOutlet.Event) :
    Law (counts setting gateway event) ↔ Meets setting gateway (.report event) := by
  cases event with
  | szTurn name transId sends =>
    simp only [counts, Meets]
    split
    next none => simp [none, law]
    next report sending found =>
      rw [sentSz_iff law gateway.outlet.gateway.conns report transId (popped_made found)]
      simp [found]
  | shRound cjbh =>
    simp only [counts, Meets]
    split
    next none => simp [none, law]
    next report rest found =>
      split
      next early =>
        rw [poppedSh_iff law]
        simp [found, early]
      next late => simp [late, law]
  | shEnd answers =>
    simp only [counts, Meets]
    split
    next ended =>
      refine iff_of_true ?_ trivial
      rw [law_iff] at law ⊢
      exact law
    next early => exact iff_of_true law trivial
  | logOn | logOut | reportSynchronization | pushSz | pushSh => simp [counts, Meets, law]

theorem step_iff (law : Law gateway) {event : Event} {after : CountedGateway}
    (done : step setting gateway event = some after) : Law after ↔ Meets setting gateway event := by
  cases event with
  | validate thread order =>
    have same : after.counter = gateway.counter ∧ after.szBuilt = gateway.szBuilt ∧ after.shBuilt = gateway.shBuilt := by
      rw [step, validate] at done
      split at done
      next => cases done
      next =>
        obtain ⟨ended, _, rfl⟩ := Option.map_eq_some_iff.mp done
        exact ⟨rfl, rfl, rfl⟩
    rw [law_congr same.1 same.2.1 same.2.2]
    exact ⟨fun _ => trivial, fun _ => law⟩
  | count thread => exact count_iff law done
  | others shared =>
    cases done
    rw [law_iff] at law
    exact ⟨fun _ => trivial, fun _ => law_iff.mpr law⟩
  | exec => exact exec_iff law done
  | report event =>
    rw [← counts_iff law event]
    rw [step] at done
    split at done
    next => cases done
    next =>
      cases done
      exact law_congr rfl rfl rfl

/-- Nothing counted, nothing built, and whatever links there are. -/
def initial (shared : Shared) (linkSz linkSh : LinkCounters) : CountedGateway where
  shared := shared
  counter := { linkSz, linkSh }

theorem initial_law (shared : Shared) (linkSz linkSh : LinkCounters) : Law (initial shared linkSz linkSh) :=
  law_iff.mpr ⟨⟨⟨rfl, rfl⟩, ⟨rfl, rfl⟩⟩, UInt64.zero_le, UInt64.zero_le⟩

/-- The runs that keep the law in every state are those whose steps all meet the condition. -/
theorem counters_kept_iff (setting : Setting) (shared : Shared) (linkSz linkSh : LinkCounters) (events : List Event)
    (last : CountedGateway) :
    Run (fun before event after => step setting before event = some after ∧ Law after)
        (initial shared linkSz linkSh) events last ↔
      Run (Steps.guarded (fun before event after => step setting before event = some after) (Meets setting))
        (initial shared linkSz linkSh) events last :=
  Run.kept_iff_guarded (fun _ _ _ law done => step_iff law done) (initial_law shared linkSz linkSh)

/-- A refused declaration of Shanghai's. -/
def refusal : ShReport where
  order := {
    msgType := Step.msgTypeNewOrder
    matchType := .errorMatch
    tradeMarket := tradeMarketSh
    sessionId := "A"
    transactTime := "20160104-09:30:00.000" }

theorem refusal_counted_twice : ¬ ∀ (setting : Setting) (shared : Shared) (linkSz linkSh : LinkCounters)
    (events : List Event) (last : CountedGateway),
    Run (fun before event after => step setting before event = some after) (initial shared linkSz linkSh) events last →
      Law last := by
  intro law
  let setting : Setting := ⟨OrderOutcome.sampleSetting, ReportOutlet.plainSz, ReportOutlet.plainSh⟩
  let links : LinkCounters := ⟨[], .nil⟩
  have run := Run.of_foldlM (rfl : [Event.report (.pushSh refusal), .report (.shRound "1")].foldlM (step setting)
    (initial OrderOutcome.sampleShared links links) = some _)
  have twice : (2 : UInt64) = 1 := (law _ _ _ _ _ _ run).sh.error
  exact absurd twice (by decide)

end Simutgw.Proofs.CounterLaw
