import Mathlib.Data.List.Flatten
import Simutgw.Logic.Numbering
import Simutgw.Logic.Runs
import Simutgw.Proofs.DecimalText
import Simutgw.ShConnection

/-! The numbers of the rows one connection writes. They come out distinct and above
what the tables held as long as the poll never sets a counter back. It can: it looks
at a counter, asks the table and sets what it read, and in between a report may draw. -/

namespace Simutgw.ShConnection.Threads
open TgwStringUtil SofString Proofs.DecimalText Logic

variable {sessions : String → Bool} {found : Counter → List Nat} {before after : Threads} {table : Counter}

def numbersOf (table : Counter) (rows : List SqlRow) : List Nat :=
  rows.flatMap fun row => if table = row.table then row.number.toList else []

@[simp] theorem numbersOf_append (table : Counter) (front back : List SqlRow) :
    numbersOf table (front ++ back) = numbersOf table front ++ numbersOf table back := by
  simp [numbersOf]

@[simp] theorem numbersOf_cons (table : Counter) (row : SqlRow) (rows : List SqlRow) :
    numbersOf table (row :: rows) = (if table = row.table then row.number.toList else []) ++ numbersOf table rows := by
  simp [numbersOf]

@[simp] theorem numbersOf_nil (table : Counter) : numbersOf table [] = [] := rfl

def rowInHand : ReportPoint → List SqlRow
  | .build _ inHand => inHand.toList
  | .send => []

/-- The numbers a table is still to get, the row in hand last. -/
def waiting (threads : Threads) (table : Counter) : List Nat :=
  numbersOf table (threads.unsent ++ rowInHand threads.report)

/-- What the poll reads stands for no less than what the table was found with. -/
def Covers (threads : Threads) (text : String) : Prop :=
  match threads.poll with
  | .query counter => ∀ old ∈ threads.found counter, old ≤ (string2UInt64 text).toNat
  | _ => True

/-- The counter has not passed the number the poll is about to set. -/
def Rises (threads : Threads) : Prop :=
  match threads.poll with
  | .set counter num => threads.conn.get counter ≤ num
  | .first num => threads.conn.recNum ≤ num
  | _ => True

/-- A counter that is drawn from does not wrap, and no rule numbers a table's rows
from anything but the table's own counter. -/
def Draws (threads : Threads) : Prop :=
  match threads.report with
  | .build (.draw table counter :: _) _ => table = counter ∧ threads.conn.get counter + 1 ≠ 0
  | .build (.value _ number :: _) _ => number = none
  | .build (.inc counter :: _) _ => threads.conn.get counter + 1 ≠ 0
  | _ => True

def Meets (threads : Threads) : Event → Prop
  | .query (some text) => threads.Covers text
  | .set => threads.Rises
  | .op => threads.Draws
  | _ => True

/-- A step of either thread. -/
def Taken (sessions : String → Bool) : Steps Threads Event := fun before event after =>
  before.step sessions event = some after

/-- The poll is done with the counter. -/
def Past (poll : PollPoint) (table : Counter) : Prop :=
  match poll with
  | .look .cjbh | .query .cjbh | .set .cjbh _ => False
  | .look .recNum | .query .recNum | .set .recNum _ => table = .cjbh
  | .orders | .rows | .row _ | .first _ => True

/-- Before any order is handed on nothing is built, and a counter that is set, or that
the poll is done with, covers its table. Afterwards everything is below its counter. -/
structure Kept (found : Counter → List Nat) (threads : Threads) (table : Counter) : Prop where
  same : threads.found = found
  idle : threads.handed = false → threads.written table = [] ∧ threads.unsent = [] ∧
    (threads.report = .build [] none ∨ threads.report = .send)
  asked : threads.handed = false → ∀ num, threads.poll = .set table num → ∀ old ∈ found table, old ≤ num.toNat
  ascending : threads.handed = true ∨ Past threads.poll table ∨ threads.conn.get table ≠ 0 →
    Ascending (found table) (threads.written table) (threads.waiting table) (threads.conn.get table).toNat

theorem kept_start (found : Counter → List Nat) (table : Counter) : Kept found { found } table := by
  refine ⟨rfl, fun _ => ⟨rfl, rfl, .inl rfl⟩, ?_, ?_⟩
  · intro _ num asked
    cases asked
  · rintro (handed | past | set)
    · cases handed
    · exact absurd past id
    · exact absurd (by cases table <;> rfl) set

theorem Kept.waiting_nil {threads : Threads} (kept : Kept found threads table) (handed : threads.handed = false) :
    threads.waiting table = [] := by
  obtain ⟨-, unsent, report⟩ := kept.idle handed
  rcases report with report | report <;> simp [waiting, unsent, report, rowInHand]

theorem Kept.poll (kept : Kept found before table) (poll : PollPoint)
    (asked : before.handed = false → ∀ num, poll = .set table num → ∀ old ∈ found table, old ≤ num.toNat)
    (past : Past poll table → before.handed = true ∨ Past before.poll table ∨ before.conn.get table ≠ 0) :
    Kept found { before with poll } table := by
  refine ⟨kept.same, kept.idle, asked, ?_⟩
  intro known
  apply kept.ascending
  rcases known with handed | done | set
  · exact .inl handed
  · exact past done
  · exact .inr (.inr set)

theorem Kept.handOn (kept : Kept found before table) (past : Past before.poll table) :
    Kept found { before with poll := .rows, handed := true } table := by
  refine ⟨kept.same, ?_, ?_, fun _ => kept.ascending (.inr (.inl past))⟩
  · intro handed
    cases handed
  · intro handed
    cases handed

theorem kept_look (kept : Kept found before table) (taken : before.look = some after) : Kept found after table := by
  simp only [look] at taken
  split at taken
  next counter point =>
    cases taken
    apply kept.poll
    · intro _ num asked
      split at asked
      · cases asked
      · cases counter <;> cases asked
    · intro done
      rw [point]
      split at done
      next zero => exact .inr (.inl (by cases counter <;> exact done))
      next set =>
        by_cases same : table = counter
        · rw [same]
          exact .inr (.inr set)
        · exact .inr (.inl (by cases counter <;> cases table <;> simp_all [Past, past]))
  next num point =>
    split at taken
    next zero =>
      cases taken
      apply kept.poll
      · intro _ num asked
        cases asked
      · intro _
        exact .inr (.inl (by simp [point, Past]))
    next set =>
      cases taken
      exact kept.handOn (by simp [point, Past])
  next => cases taken

theorem kept_query {text : Option String} (kept : Kept found before table) (taken : before.query text = some after)
    (meets : Meets before (.query text)) : Kept found after table := by
  simp only [query] at taken
  split at taken
  next counter point =>
    cases taken
    apply kept.poll
    · intro _ num asked
      cases asked
    · intro done
      exact absurd done (by simp [polled, Past])
  next counter text point =>
    cases taken
    apply kept.poll
    · intro _ num asked
      cases asked
      simpa [Meets, Covers, point, kept.same] using meets
    · intro done
      exact .inr (.inl (by rw [point]; cases counter <;> exact done))
  next => cases taken

theorem kept_orders {answered : Bool} (kept : Kept found before table) (taken : before.orders answered = some after) :
    Kept found after table := by
  simp only [orders] at taken
  split at taken
  next point =>
    cases taken
    apply kept.poll
    · intro _ num asked
      cases answered <;> cases asked
    · intro _
      exact .inr (.inl (by simp [point, Past]))
  next => cases taken

theorem kept_fetch {recNum : Option String} (kept : Kept found before table)
    (taken : before.fetch recNum = some after) : Kept found after table := by
  simp only [fetch] at taken
  split at taken
  next text point =>
    cases taken
    apply kept.poll
    · intro _ num asked
      cases asked
    · intro _
      exact .inr (.inl (by simp [point, Past]))
  next point =>
    cases taken
    apply kept.poll
    · intro _ num asked
      cases asked
    · intro done
      exact absurd done (by simp [polled, Past])
  next => cases taken

/-- Setting a counter to a number it has not passed leaves all its numbers below it. -/
theorem Kept.raise (kept : Kept found before table) (num : UInt64) (poll : PollPoint) (handed : Bool)
    (known : before.handed = true ∨ (∀ old ∈ found table, old ≤ num.toNat))
    (rises : before.conn.get table ≤ num) (still : handed = false → before.handed = false)
    (asked : ∀ num, poll ≠ .set table num) :
    Kept found { before with conn := before.conn.set table num, poll, handed } table := by
  refine ⟨kept.same, fun idle => kept.idle (still idle), fun _ num here => absurd here (asked num), ?_⟩
  intro _
  simp only [ShConnection.get_set_self]
  show Ascending (found table) (before.written table) (before.waiting table) num.toNat
  rcases Bool.eq_false_or_eq_true before.handed with before_handed | before_handed
  · exact (kept.ascending (.inl before_handed)).raise rises
  · have covered := known.resolve_left (by simp [before_handed])
    rw [(kept.idle before_handed).1, kept.waiting_nil before_handed]
    exact .initial covered

theorem kept_set (kept : Kept found before table) (taken : before.set = some after) (meets : Meets before .set) :
    Kept found after table := by
  simp only [set] at taken
  simp only [Meets, Rises] at meets
  split at taken
  next counter num point =>
    cases taken
    simp only [point] at meets
    by_cases same : table = counter
    · subst same
      apply kept.raise num _ _ ?_ meets id
      · intro other asked
        cases table <;> cases asked
      · rcases Bool.eq_false_or_eq_true before.handed with handed | handed
        · exact .inl handed
        · exact .inr (kept.asked handed num point)
    · refine ⟨kept.same, kept.idle, ?_, ?_⟩
      · intro _ other asked
        cases counter <;> cases asked
      · intro known
        rw [ShConnection.get_set_other _ _ same]
        apply kept.ascending
        rw [ShConnection.get_set_other _ _ same] at known
        rcases known with handed | done | set
        · exact .inl handed
        · rw [point]
          exact .inr (.inl (by cases counter <;> cases table <;> simp_all [Past, past]))
        · exact .inr (.inr set)
  next num point =>
    cases taken
    simp only [point] at meets
    have past : Past before.poll table := by simp [point, Past]
    cases table with
    | recNum =>
      apply kept.raise num _ _ ?_ meets (by simp)
      · intro other asked
        cases asked
      · right
        intro old inside
        apply ((kept.ascending (.inr (.inl past))).bounded old (List.mem_append_left _ inside)).trans
        exact meets
    | cjbh =>
      have handed := kept.handOn past
      exact ⟨handed.same, handed.idle, handed.asked, handed.ascending⟩
  next => cases taken

theorem toNat_inc {num : UInt64} (wraps : num + 1 ≠ 0) : (num + 1).toNat = num.toNat + 1 := by
  have differs : (num + 1).toNat ≠ 0 := by
    intro zero
    exact wraps (UInt64.toNat_inj.mp zero)
  rw [UInt64.toNat_add] at differs ⊢
  have fits := num.toNat_lt
  simp only [UInt64.toNat_one] at differs ⊢
  omega

theorem Kept.handed {op : RowOp} {work : List RowOp} {inHand : Option SqlRow} (kept : Kept found before table)
    (report : before.report = .build (op :: work) inHand) : before.handed = true := by
  rcases Bool.eq_false_or_eq_true before.handed with handed | handed
  · exact handed
  · obtain ⟨-, -, idle | idle⟩ := kept.idle handed
    · rw [report] at idle
      cases idle
    · rw [report] at idle
      cases idle

theorem Kept.given_up (kept : Kept found before table) (handed : before.handed = true) :
    Ascending (found table) (before.written table) (numbersOf table before.unsent) (before.conn.get table).toNat := by
  apply (kept.ascending (.inl handed)).lose
  simp [waiting]

/-- What a step of a report under way has to account for. -/
theorem Kept.working (kept : Kept found before table) (handed : before.handed = true) (conn : ShConnection)
    (report : ReportPoint) (unsent : List SqlRow)
    (ascending : Ascending (found table) (before.written table) (numbersOf table (unsent ++ rowInHand report))
      (conn.get table).toNat) : Kept found { before with conn, report, unsent } table := by
  refine ⟨kept.same, ?_, ?_, fun _ => ascending⟩
  · intro idle
    rw [handed] at idle
    cases idle
  · intro idle
    rw [handed] at idle
    cases idle

theorem inc_rises (conn : ShConnection) (counter : Counter) (wraps : conn.get counter + 1 ≠ 0) :
    (conn.get table).toNat ≤ ((conn.inc counter).1.get table).toNat := by
  by_cases same : table = counter
  · rw [same, ShConnection.inc, ShConnection.get_set_self, toNat_inc wraps]
    omega
  · rw [ShConnection.inc, ShConnection.get_set_other _ _ same]

theorem kept_op (kept : Kept found before table) (taken : before.op = some after) (meets : Meets before .op) :
    Kept found after table := by
  simp only [op] at taken
  simp only [Meets, Draws] at meets
  split at taken
  next target counter work inHand report =>
    simp only [report] at meets
    obtain ⟨rfl, wraps⟩ := meets
    cases taken
    have handed := kept.handed report
    apply kept.working handed
    by_cases same : table = target
    · subst same
      have higher : (before.conn.get table).toNat < (before.conn.get table + 1).toNat := by
        rw [toNat_inc wraps]
        omega
      simpa [rowInHand, ShConnection.inc] using (kept.given_up handed).draw higher
    · simpa [rowInHand, same] using (kept.given_up handed).raise (inc_rises before.conn target wraps)
  next target number work inHand report =>
    simp only [report] at meets
    subst meets
    cases taken
    have handed := kept.handed report
    apply kept.working handed
    simpa [rowInHand] using kept.given_up handed
  next counter work inHand report =>
    simp only [report] at meets
    cases taken
    have handed := kept.handed report
    apply kept.working handed
    simpa [waiting, report, rowInHand] using (kept.ascending (.inl handed)).raise (inc_rises before.conn counter meets)
  next work inHand report =>
    cases taken
    have handed := kept.handed report
    apply kept.working handed
    simpa [waiting, report, rowInHand] using kept.ascending (.inl handed)
  next => cases taken

theorem kept_takeReport {rule : MatchRuleSh} {order : OrderMessage} (kept : Kept found before table)
    (taken : before.takeReport sessions rule order = some after) : Kept found after table := by
  simp only [takeReport] at taken
  split at taken
  next inHand report =>
    split at taken
    next handed =>
      cases taken
      apply kept.working handed
      simpa [rowInHand] using kept.given_up handed
    next => cases taken
  next => cases taken

theorem numbersOf_sublist {fewer rows : List SqlRow} (kept : fewer.Sublist rows) :
    (numbersOf table fewer).Sublist (numbersOf table rows) :=
  kept.flatMap _

theorem Kept.fewer (kept : Kept found before table) (report : ReportPoint) (unsent : List SqlRow)
    (idle : report = .build [] none ∨ report = .send) (fewer : unsent.Sublist before.unsent) :
    Kept found { before with report, unsent } table := by
  have empty : rowInHand report = [] := by
    rcases idle with rfl | rfl <;> rfl
  refine ⟨kept.same, ?_, kept.asked, ?_⟩
  · intro handed
    obtain ⟨written, unsent_nil, -⟩ := kept.idle handed
    rw [unsent_nil] at fewer
    exact ⟨written, List.sublist_nil.mp fewer, idle⟩
  · intro known
    apply (kept.ascending known).lose
    simp only [waiting, empty, List.append_nil, numbersOf_append]
    exact (numbersOf_sublist fewer).trans (List.sublist_append_left _ _)

theorem kept_send {connects : Bool} (kept : Kept found before table) (taken : before.send connects = some after) :
    Kept found after table := by
  simp only [send] at taken
  split at taken
  next inHand report =>
    split at taken
    next =>
      cases taken
      exact kept.fewer .send before.unsent (.inr rfl) (.refl _)
    next =>
      cases taken
      exact kept.fewer (.build [] none) [] (.inl rfl) (List.nil_sublist _)
  next => cases taken

theorem kept_sent (kept : Kept found before table) (taken : before.sent = some after) : Kept found after table := by
  simp only [sent] at taken
  split at taken
  next report unsent =>
    cases taken
    exact kept.fewer (.build [] none) before.unsent (.inl rfl) (.refl _)
  next => cases taken

theorem kept_exec {done : Bool} (kept : Kept found before table) (taken : before.exec done = some after) :
    Kept found after table := by
  simp only [exec] at taken
  split at taken
  next row rows report unsent =>
    cases taken
    cases done with
    | false =>
      have fewer := kept.fewer .send rows (.inr rfl) (by rw [unsent]; exact List.sublist_cons_self _ _)
      rw [← report] at fewer
      exact fewer
    | true =>
      refine ⟨kept.same, ?_, kept.asked, ?_⟩
      · intro handed
        obtain ⟨-, unsent_nil, -⟩ := kept.idle handed
        rw [unsent] at unsent_nil
        cases unsent_nil
      · intro known
        have ascending := kept.ascending known
        simp only [waiting, unsent, report, rowInHand, List.append_nil, numbersOf_cons] at ascending
        simp only [waiting, report, rowInHand, List.append_nil, write, if_true]
        by_cases same : table = row.table
        · simp only [same, if_true] at ascending ⊢
          cases number : row.number with
          | none => simpa [number] using ascending
          | some num =>
            rw [number] at ascending
            exact ascending.write
        · simpa [same] using ascending
  next => cases taken

theorem kept_step {event : Event} (kept : Kept found before table) (taken : Taken sessions before event after)
    (meets : Meets before event) : Kept found after table := by
  cases event with
  | look => exact kept_look kept taken
  | query text => exact kept_query kept taken meets
  | set => exact kept_set kept taken meets
  | orders answered => exact kept_orders kept taken
  | fetch recNum => exact kept_fetch kept taken
  | report rule order => exact kept_takeReport kept taken
  | op => exact kept_op kept taken meets
  | send connects => exact kept_send kept taken
  | exec done => exact kept_exec kept taken
  | sent => exact kept_sent kept taken

/-- The largest number of a table covers it, if it is one the conversion can read. -/
theorem covers_largest {threads : Threads} {counter : Counter} {largest : UInt64}
    (bounds : ∀ old ∈ threads.found counter, old ≤ largest.toNat) (fits : largest.toNat < 2 ^ 63)
    (asked : threads.poll = .query counter) : threads.Meets (.query (some (itostr largest))) := by
  simpa [Meets, Covers, asked, string2UInt64_itostr fits] using bounds

/-- Whatever the two threads do and whatever the tables were found with: as long as
what the poll reads covers its table and it never sets a counter back, the counters do
not wrap and no rule numbers its rows from elsewhere, the numbers written to either
table are distinct and larger than all that were there. -/
theorem rows_numbered {last : Threads} {events : List Event} (found : Counter → List Nat)
    (run : Run ((Taken sessions).guarded Meets) { found } events last) (table : Counter) :
    Numbered (found table) (last.written table) := by
  have kept : Kept found last table := by
    apply run.invariant _ (kept_start found table)
    intro before event after kept taken
    exact kept_step kept taken.1 taken.2
  rcases Bool.eq_false_or_eq_true last.handed with handed | handed
  · exact (kept.ascending (.inl handed)).numbered
  · rw [(kept.idle handed).1]
    refine ⟨List.nodup_nil, ?_⟩
    intro front number back split
    cases front <;> cases split

private def traded : OrderMessage where
  matchType := .matchAll
  tradeMarket := tradeMarketSh
  sessionId := "sh1"
  transactTime := "20170525-14:05:31.000"

private def reports : List Event := [.report ⟨none, []⟩ traded, .op, .op]

private def left : Counter → List Nat
  | .cjbh => [3, 4]
  | .recNum => [7]

theorem trade_numbered_above_those_left :
    ∃ last : Threads, last.written .cjbh = [5] ∧ Numbered (left .cjbh) (last.written .cjbh) := by
  have run : Run ((Taken fun _ => true).guarded Meets) { found := left }
      ([.look, .query (some (itostr 4)), .set, .look, .query (some (itostr 7)), .set, .orders true, .fetch (some "1"),
          .look] ++
        reports ++ [.send true, .exec true])
      { conn := ⟨5, 7⟩, found := left, written := write (fun _ => []) ⟨.cjbh, some 5⟩, poll := .rows,
        report := .send, handed := true } := by
    refine .cons ⟨rfl, trivial⟩ <| .cons ⟨rfl, ?_⟩ <| .cons ⟨rfl, ?_⟩ <| .cons ⟨rfl, trivial⟩ <| .cons ⟨rfl, ?_⟩ <|
      .cons ⟨rfl, ?_⟩ <| .cons ⟨rfl, trivial⟩ <| .cons ⟨rfl, trivial⟩ <| .cons ⟨rfl, trivial⟩ <|
      .cons ⟨rfl, trivial⟩ <| .cons ⟨rfl, ?_⟩ <| .cons ⟨rfl, ?_⟩ <| .cons ⟨rfl, trivial⟩ <|
      .cons ⟨rfl, trivial⟩ <| .nil _
    · apply @covers_largest _ .cjbh 4
      · show ∀ old ∈ [3, 4], old ≤ 4
        decide
      · decide
      · rfl
    · exact UInt64.zero_le
    · apply @covers_largest _ .recNum 7
      · show ∀ old ∈ [7], old ≤ 7
        decide
      · decide
      · rfl
    · exact UInt64.zero_le
    · refine ⟨rfl, ?_⟩
      show string2UInt64 (itostr 4) + 1 ≠ 0
      rw [string2UInt64_itostr (by decide)]
      decide
    · trivial
  exact ⟨_, rfl, rows_numbered left run .cjbh⟩

/-- The poll looks at the counter of the trades while the table is empty, a report draws
one, the poll sets the counter to what the table said, and the next report draws one. -/
theorem trades_numbered_alike :
    ∃ events last, Run (Taken fun _ => true) { found := fun _ => [] } events last ∧
      last.written .cjbh = [1, 1] ∧ ¬ Numbered [] (last.written .cjbh) := by
  refine ⟨[.look, .query (some ""), .set, .look, .query (some ""), .set, .orders true, .fetch (some "1"), .look, .set,
    .fetch none, .look, .query (some "")] ++ reports ++ [.set] ++ reports ++ [.send true, .exec true, .exec true],
    _, Run.of_foldlM rfl, rfl, ?_⟩
  intro numbered
  exact absurd numbered.distinct (by decide)

end Simutgw.ShConnection.Threads
