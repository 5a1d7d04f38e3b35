import Mathlib.Algebra.Order.Group.Multiset
import Mathlib.Tactic.Abel
import Simutgw.DayEndClean
import Simutgw.Logic.Runs

/-! The rows of the day's end. Each is in the live table or in its old table once, if
nothing was inserted between a table's copy and its truncation and every table whose
copy was committed was truncated too, or was empty. -/

namespace Simutgw.DayEndClean
open Logic

variable {Row : Type} {before after : Tables Row} {answers : Answers Row} {table : Table}

/-- All copies are done. -/
def Copies (answers : Answers Row) : Prop :=
  answers.moveMatch.outcome = .done ∧ answers.moveNewOrder.outcome = .done ∧ answers.moveReport.outcome = .done

/-- The copies are done, and a `TRUNCATE` gets as far as to commit them. -/
def Commits (answers : Answers Row) : Prop := Copies answers ∧ answers.truncateNewOrder.outcome ≠ .refused

def Empties (answer : Answer Row) : Prop := answer.outcome = .done ∨ answer.outcome = .lost

/-- The table is truncated, if the copies were committed. -/
def Truncates (answers : Answers Row) : Table → Prop
  | .newOrder => Empties answers.truncateNewOrder
  | .orderMatch => answers.truncateNewOrder.outcome = .done ∧ Empties answers.truncateMatch
  | .orderReport => answers.truncateNewOrder.outcome = .done ∧ answers.truncateMatch.outcome = .done ∧
      Empties answers.truncateReport

/-- What other sessions insert up to the table's copy. -/
def early (answers : Answers Row) (table : Table) : List Row :=
  answers.start.inserted table ++ answers.moveMatch.inserted table ++
    match table with
    | .orderMatch => []
    | .newOrder => answers.moveNewOrder.inserted table
    | .orderReport => answers.moveNewOrder.inserted table ++ answers.moveReport.inserted table

/-- What they insert after it, up to the last copy. -/
def meanwhile (answers : Answers Row) (table : Table) : List Row :=
  match table with
  | .orderMatch => answers.moveNewOrder.inserted table ++ answers.moveReport.inserted table
  | .newOrder => answers.moveReport.inserted table
  | .orderReport => []

/-- What they insert between the table's copy and its truncation. -/
def between (answers : Answers Row) (table : Table) : List Row :=
  meanwhile answers table ++ answers.truncateNewOrder.inserted table ++
    match table with
    | .newOrder => []
    | .orderMatch => answers.truncateMatch.inserted table
    | .orderReport => answers.truncateMatch.inserted table ++ answers.truncateReport.inserted table

/-- What they insert after a truncation that the backup goes on from. -/
def late (answers : Answers Row) (table : Table) : List Row :=
  match table with
  | .orderMatch => answers.truncateReport.inserted table ++ answers.commit.inserted table
  | .newOrder => answers.truncateMatch.inserted table ++ answers.truncateReport.inserted table ++
      answers.commit.inserted table
  | .orderReport => answers.commit.inserted table

/-- Nothing of the table is committed to its old table yet. -/
structure Kept (before tables : Tables Row) (table : Table) (new : List Row) : Prop where
  live : tables.live table = before.live table ++ new
  old : tables.old table = before.old table
  inserted : tables.inserted table = before.inserted table ++ new

/-- The copy was made, committed or not, and the table is as it was. -/
structure Copied (before tables : Tables Row) (table : Table) (read more : List Row) : Prop where
  live : tables.live table = before.live table ++ (read ++ more)
  copied : tables.old table ++ tables.copied table = before.old table ++ (before.live table ++ read)
  inserted : tables.inserted table = before.inserted table ++ (read ++ more)

/-- The copy was committed and the table truncated. -/
structure Moved (before tables : Tables Row) (table : Table) (read lost rest : List Row) : Prop where
  live : tables.live table = rest
  old : tables.old table = before.old table ++ (before.live table ++ read)
  settled : tables.copied table = []
  inserted : tables.inserted table = before.inserted table ++ (read ++ (lost ++ rest))

variable {tables : Tables Row} {new read more lost rest : List Row} {target : Table} {answer : Answer Row}

theorem Kept.insert (kept : Kept before tables table new) (rows : Table → List Row) :
    Kept before (tables.insert rows) table (new ++ rows table) := by
  refine ⟨?_, kept.old, ?_⟩
  · simp [Tables.insert, kept.live]
  · simp [Tables.insert, kept.inserted]

theorem Kept.moveDbdata (kept : Kept before tables table new) (target : Table) (answer : Answer Row) :
    Kept before (moveDbdata target answer tables).2 table (new ++ answer.inserted table) := by
  have inserted := kept.insert answer.inserted
  unfold DayEndClean.moveDbdata
  simp only
  split <;> exact ⟨inserted.live, inserted.old, inserted.inserted⟩

theorem Copied.insert (copied : Copied before tables table read more) (rows : Table → List Row) :
    Copied before (tables.insert rows) table read (more ++ rows table) := by
  refine ⟨?_, copied.copied, ?_⟩
  · simp [Tables.insert, copied.live]
  · simp [Tables.insert, copied.inserted]

theorem Copied.commit (copied : Copied before tables table read more) :
    Copied before tables.commit table read more := by
  refine ⟨copied.live, ?_, copied.inserted⟩
  simpa [Tables.commit] using copied.copied

theorem Kept.copied (kept : Kept before tables table new) (settled : tables.copied table = [])
    (done : answer.outcome = .done) :
    Copied before (DayEndClean.moveDbdata table answer tables).2 table (new ++ answer.inserted table) [] := by
  have inserted := kept.insert answer.inserted
  unfold DayEndClean.moveDbdata
  simp only [done]
  refine ⟨?_, ?_, ?_⟩
  · simpa [Tables.copy] using inserted.live
  · simp [Tables.copy, Tables.insert, settled, kept.live, kept.old]
  · simpa [Tables.copy] using inserted.inserted

theorem Copied.moveDbdata (copied : Copied before tables table read more) (target : Table) (other : table ≠ target)
    (done : answer.outcome = .done) :
    Copied before (DayEndClean.moveDbdata target answer tables).2 table read (more ++ answer.inserted table) := by
  have inserted := copied.insert answer.inserted
  unfold DayEndClean.moveDbdata
  simp only [done]
  refine ⟨inserted.live, ?_, inserted.inserted⟩
  simpa [Tables.copy, other] using inserted.copied

theorem truncateTable_code (target : Table) (answer : Answer Row) (tables : Tables Row) :
    (truncateTable target answer tables).1 = 0 ↔ answer.outcome = .done := by
  unfold truncateTable
  cases answer.outcome <;> simp

/-- A `TRUNCATE` that gets so far leaves nothing uncommitted, and no other makes anything so. -/
theorem truncateTable_settled (settled : answer.outcome ≠ .refused ∨ tables.copied table = []) :
    (truncateTable target answer tables).2.copied table = [] := by
  unfold truncateTable
  cases outcome : answer.outcome with
  | refused =>
    rw [outcome] at settled
    exact settled.resolve_left (fun refused => refused rfl)
  | done => rfl
  | stopped => rfl
  | lost => rfl

theorem Copied.truncateTable (copied : Copied before tables table read more)
    (stays : table ≠ target ∨ ¬ Empties answer) :
    Copied before (DayEndClean.truncateTable target answer tables).2 table read (more ++ answer.inserted table) := by
  have inserted := copied.insert answer.inserted
  have other (empties : Empties answer) : Copied before
      ((tables.insert answer.inserted).commit.truncate target) table read (more ++ answer.inserted table) := by
    have differs := stays.resolve_right (fun stays => stays empties)
    refine ⟨?_, inserted.commit.copied, inserted.commit.inserted⟩
    simpa [Tables.truncate, differs] using inserted.commit.live
  unfold DayEndClean.truncateTable
  cases outcome : answer.outcome with
  | done => exact other (.inl outcome)
  | refused => exact inserted
  | stopped => exact inserted.commit
  | lost => exact other (.inr outcome)

theorem Copied.emptied (copied : Copied before tables table read more) (empties : Empties answer) :
    Moved before (DayEndClean.truncateTable table answer tables).2 table read (more ++ answer.inserted table) [] := by
  have inserted := copied.insert answer.inserted
  have moved : Moved before ((tables.insert answer.inserted).commit.truncate table) table read
      (more ++ answer.inserted table) [] := by
    refine ⟨?_, inserted.copied, rfl, ?_⟩
    · simp [Tables.truncate]
    · simpa [Tables.truncate] using inserted.commit.inserted
  unfold DayEndClean.truncateTable
  rcases empties with done | lost
  · simpa only [done] using moved
  · simpa only [lost] using moved

theorem Moved.insert (moved : Moved before tables table read lost rest) (rows : Table → List Row) :
    Moved before (tables.insert rows) table read lost (rest ++ rows table) := by
  refine ⟨?_, moved.old, moved.settled, ?_⟩
  · simp [Tables.insert, moved.live]
  · simp [Tables.insert, moved.inserted]

theorem Moved.commit (moved : Moved before tables table read lost rest) :
    Moved before tables.commit table read lost rest := by
  refine ⟨moved.live, ?_, rfl, moved.inserted⟩
  simpa [Tables.commit, moved.settled] using moved.old

theorem Moved.truncateTable (moved : Moved before tables table read lost rest) (other : table ≠ target)
    (answer : Answer Row) :
    Moved before (DayEndClean.truncateTable target answer tables).2 table read lost
      (rest ++ answer.inserted table) := by
  have inserted := moved.insert answer.inserted
  have committed := inserted.commit
  have truncated : Moved before ((tables.insert answer.inserted).commit.truncate target) table read lost
      (rest ++ answer.inserted table) := by
    refine ⟨?_, committed.old, committed.settled, committed.inserted⟩
    simpa [Tables.truncate, other] using committed.live
  unfold DayEndClean.truncateTable
  cases answer.outcome with
  | done => exact truncated
  | refused => exact inserted
  | stopped => exact committed
  | lost => exact truncated

theorem Moved.committed (moved : Moved before tables table read lost rest) (answer : Answer Row) :
    Moved before (DayEndClean.commit answer tables).2 table read lost (rest ++ answer.inserted table) := by
  have inserted := moved.insert answer.inserted
  unfold DayEndClean.commit
  cases answer.outcome with
  | done => exact inserted.commit
  | refused => exact inserted
  | stopped => exact inserted
  | lost => exact inserted.commit

theorem andThen_done {result : Int × Tables Row} {next : Tables Row → Int × Tables Row} (done : result.1 = 0) :
    andThen result next = next result.2 := if_pos done

theorem andThen_failed {result : Int × Tables Row} {next : Tables Row → Int × Tables Row} (failed : result.1 ≠ 0) :
    andThen result next = (-1, result.2) := if_neg failed

theorem moveDbdata_code (target : Table) (answer : Answer Row) (tables : Tables Row) :
    (moveDbdata target answer tables).1 = 0 ↔ answer.outcome = .done := by
  unfold moveDbdata
  cases answer.outcome <;> simp

/-- The tables when all copies are done, and the rest of the backup. -/
def copies (answers : Answers Row) (tables : Tables Row) : Tables Row :=
  (moveDbdata .orderReport answers.moveReport
    (moveDbdata .newOrder answers.moveNewOrder
      (moveDbdata .orderMatch answers.moveMatch (startTransaction answers.start tables)).2).2).2

def truncations (answers : Answers Row) (tables : Tables Row) : Int × Tables Row :=
  andThen (truncateTable .newOrder answers.truncateNewOrder tables) fun tables =>
  andThen (truncateTable .orderMatch answers.truncateMatch tables) fun tables =>
  andThen (truncateTable .orderReport answers.truncateReport tables) fun tables =>
  commit answers.commit tables

theorem backupDb_copies (done : Copies answers) : backupDb answers tables = truncations answers (copies answers tables) := by
  unfold backupDb
  rw [andThen_done ((moveDbdata_code _ _ _).mpr done.1), andThen_done ((moveDbdata_code _ _ _).mpr done.2.1),
    andThen_done ((moveDbdata_code _ _ _).mpr done.2.2)]
  rfl

theorem kept_start (settled : before.copied table = []) (answer : Answer Row) :
    Kept before (startTransaction answer before) table (answer.inserted table) ∧
      (startTransaction answer before).copied table = [] := by
  have start : Kept before before table [] := ⟨by simp, rfl, by simp⟩
  have inserted := start.insert answer.inserted
  unfold startTransaction
  simp only
  split
  all_goals
    refine ⟨⟨inserted.live, ?_, inserted.inserted⟩, ?_⟩
    · simp [Tables.commit, Tables.insert, settled]
    · simp [Tables.commit, Tables.insert, settled]

theorem not_commits_kept (settled : before.copied table = []) (fails : ¬ Commits answers) :
    ∃ new, Kept before (backupDb answers before).2 table new := by
  have moves (target : Table) (answer : Answer Row) {tables : Tables Row} (kept : ∃ new, Kept before tables table new) :
      ∃ new, Kept before (moveDbdata target answer tables).2 table new := by
    obtain ⟨new, kept⟩ := kept
    exact ⟨_, kept.moveDbdata target answer⟩
  have first := moves .orderMatch answers.moveMatch ⟨_, (kept_start settled answers.start).1⟩
  have second := moves .newOrder answers.moveNewOrder first
  have third := moves .orderReport answers.moveReport second
  by_cases done : Copies answers
  · have refused : answers.truncateNewOrder.outcome = .refused := by
      by_contra differs
      exact fails ⟨done, differs⟩
    rw [backupDb_copies done, truncations, andThen_failed (by rw [Ne, truncateTable_code, refused]; simp)]
    obtain ⟨new, kept⟩ := third
    refine ⟨new ++ answers.truncateNewOrder.inserted table, ?_⟩
    simp only [truncateTable, refused]
    exact kept.insert answers.truncateNewOrder.inserted
  · unfold backupDb
    by_cases one : answers.moveMatch.outcome = .done
    · rw [andThen_done ((moveDbdata_code _ _ _).mpr one)]
      by_cases two : answers.moveNewOrder.outcome = .done
      · rw [andThen_done ((moveDbdata_code _ _ _).mpr two),
          andThen_failed (mt (moveDbdata_code _ _ _).mp fun three => done ⟨one, two, three⟩)]
        exact third
      · rw [andThen_failed (mt (moveDbdata_code _ _ _).mp two)]
        exact second
    · rw [andThen_failed (mt (moveDbdata_code _ _ _).mp one)]
      exact first

theorem copies_copied (settled : before.copied table = []) (done : Copies answers) :
    Copied before (copies answers before) table (early answers table) (meanwhile answers table) := by
  obtain ⟨start, settled⟩ := kept_start settled answers.start
  obtain ⟨one, two, three⟩ := done
  have untouched (target : Table) (answer : Answer Row) {tables : Tables Row} (other : table ≠ target)
      (settled : tables.copied table = []) : (moveDbdata target answer tables).2.copied table = [] := by
    unfold moveDbdata
    cases answer.outcome <;> simp [Tables.copy, Tables.insert, Tables.rollBack, other, settled]
  cases table with
  | orderMatch =>
    have copied := start.copied settled one
    have second := copied.moveDbdata .newOrder (by simp) two
    have third := second.moveDbdata .orderReport (by simp) three
    simpa [copies, early, meanwhile] using third
  | newOrder =>
    have first := start.moveDbdata .orderMatch answers.moveMatch
    have copied := first.copied (untouched _ _ (by simp) settled) two
    have third := copied.moveDbdata .orderReport (by simp) three
    simpa [copies, early, meanwhile] using third
  | orderReport =>
    have first := start.moveDbdata .orderMatch answers.moveMatch
    have second := first.moveDbdata .newOrder answers.moveNewOrder
    have copied := second.copied (untouched _ _ (by simp) (untouched _ _ (by simp) settled)) three
    simpa [copies, early, meanwhile] using copied

/-- The table is truncated, and whatever comes in afterwards stays. -/
def MovedOn (before tables : Tables Row) (table : Table) (read lost : List Row) : Prop :=
  ∃ rest, Moved before tables table read lost rest

/-- The copy is committed and the table is not truncated. -/
def Doubled (before tables : Tables Row) (table : Table) (read : List Row) : Prop :=
  tables.copied table = [] ∧ ∃ more, Copied before tables table read more

theorem MovedOn.truncateTable (moved : MovedOn before tables table read lost) (target : Table)
    (other : table ≠ target) (answer : Answer Row) :
    MovedOn before (DayEndClean.truncateTable target answer tables).2 table read lost := by
  obtain ⟨rest, moved⟩ := moved
  exact ⟨_, moved.truncateTable other answer⟩

theorem MovedOn.commit (moved : MovedOn before tables table read lost) (answer : Answer Row) :
    MovedOn before (DayEndClean.commit answer tables).2 table read lost := by
  obtain ⟨rest, moved⟩ := moved
  exact ⟨_, moved.committed answer⟩

variable {next : Tables Row → Int × Tables Row}

theorem MovedOn.andThen {result : Int × Tables Row} (moved : MovedOn before result.2 table read lost)
    (keeps : ∀ tables, MovedOn before tables table read lost → MovedOn before (next tables).2 table read lost) :
    MovedOn before (andThen result next).2 table read lost := by
  unfold DayEndClean.andThen
  split
  next => exact keeps _ moved
  next => exact moved

/-- The table's own turn: it is emptied, and what follows only adds to it; or the backup
ends here with the table in both places. -/
theorem own_turn (copied : Copied before tables table read more)
    (settled : answer.outcome ≠ .refused ∨ tables.copied table = [])
    (keeps : ∀ tables, MovedOn before tables table read (more ++ answer.inserted table) →
      MovedOn before (next tables).2 table read (more ++ answer.inserted table)) :
    (Empties answer → MovedOn before (andThen (truncateTable table answer tables) next).2 table read
      (more ++ answer.inserted table)) ∧
    (¬ Empties answer → Doubled before (andThen (truncateTable table answer tables) next).2 table read) := by
  refine ⟨?_, ?_⟩
  · intro empties
    exact MovedOn.andThen ⟨[], copied.emptied empties⟩ keeps
  · intro stays
    rw [andThen_failed (mt (truncateTable_code _ _ _).mp fun done => stays (.inl done))]
    exact ⟨truncateTable_settled settled, _, copied.truncateTable (.inr stays)⟩

theorem other_turn (copied : Copied before tables table read more) (target : Table) (other : table ≠ target)
    (settled : answer.outcome ≠ .refused ∨ tables.copied table = []) :
    (answer.outcome = .done → (truncateTable target answer tables).2.copied table = [] ∧
      Copied before (truncateTable target answer tables).2 table read (more ++ answer.inserted table)) ∧
    (answer.outcome ≠ .done → Doubled before (andThen (truncateTable target answer tables) next).2 table read) := by
  have after : Copied before (truncateTable target answer tables).2 table read (more ++ answer.inserted table) :=
    copied.truncateTable (.inl other)
  refine ⟨fun _ => ⟨truncateTable_settled settled, after⟩, ?_⟩
  intro failed
  rw [andThen_failed (mt (truncateTable_code _ _ _).mp failed)]
  exact ⟨truncateTable_settled settled, _, after⟩

/-- A table whose copy is committed is truncated, or left with its rows in both places. -/
theorem truncations_fate (copied : Copied before tables table (early answers table) (meanwhile answers table))
    (commits : answers.truncateNewOrder.outcome ≠ .refused) :
    (Truncates answers table →
      MovedOn before (truncations answers tables).2 table (early answers table) (between answers table)) ∧
    (¬ Truncates answers table → Doubled before (truncations answers tables).2 table (early answers table)) := by
  unfold truncations
  cases table with
  | newOrder =>
    simp only [Truncates, between, List.append_nil]
    apply own_turn copied (.inl commits)
    intro tables moved
    apply (moved.truncateTable .orderMatch (by simp) _).andThen
    intro tables moved
    apply (moved.truncateTable .orderReport (by simp) _).andThen
    intro tables moved
    exact moved.commit _
  | orderMatch =>
    obtain ⟨goes_on, ends⟩ := other_turn copied .newOrder (by simp) (.inl commits)
    by_cases first : answers.truncateNewOrder.outcome = .done
    · obtain ⟨settled, copied⟩ := goes_on first
      rw [andThen_done ((truncateTable_code _ _ _).mpr first)]
      simp only [Truncates, first, true_and, between]
      apply own_turn copied (.inr settled)
      intro tables moved
      apply (moved.truncateTable .orderReport (by simp) _).andThen
      intro tables moved
      exact moved.commit _
    · exact ⟨fun truncates => absurd truncates.1 first, fun _ => ends first⟩
  | orderReport =>
    obtain ⟨goes_on, ends⟩ := other_turn copied .newOrder (by simp) (.inl commits)
    by_cases first : answers.truncateNewOrder.outcome = .done
    · obtain ⟨settled, copied⟩ := goes_on first
      rw [andThen_done ((truncateTable_code _ _ _).mpr first)]
      obtain ⟨goes_on, ends⟩ := other_turn copied .orderMatch (by simp) (.inr settled)
      by_cases second : answers.truncateMatch.outcome = .done
      · obtain ⟨settled, copied⟩ := goes_on second
        rw [andThen_done ((truncateTable_code _ _ _).mpr second)]
        simp only [Truncates, first, second, true_and, between]
        rw [← List.append_assoc]
        apply own_turn copied (.inr settled)
        intro tables moved
        exact moved.commit _
      · exact ⟨fun truncates => absurd truncates.2.1 second, fun _ => ends second⟩
    · exact ⟨fun truncates => absurd truncates.1 first, fun _ => ends first⟩

/-- Every row that was there or came in is in the live table or in its old table, as
many times as it came. -/
def Once (start tables : Tables Row) : Prop :=
  ∀ table, (tables.live table ++ tables.old table).Perm
    (start.live table ++ start.old table ++ tables.inserted table)

/-- Where the copies are committed, a table that is truncated got nothing since its
copy, and one that is not had nothing to copy. -/
def Meets (before : Tables Row) (answers : Answers Row) : Prop :=
  Commits answers → ∀ table, (Truncates answers table → between answers table = []) ∧
    (¬ Truncates answers table → before.live table ++ early answers table = [])

/-- One day's end. -/
def DayEnds : Steps (Tables Row) (Answers Row) := fun before answers after =>
  (simutgwDayEnd answers before).2 = after

/-- Rows are where they belong; after a backup that succeeds, a live table has only
what came in after its truncation. -/
def Completes (start before : Tables Row) (answers : Answers Row) (after : Tables Row) : Prop :=
  Once start after ∧ ((simutgwDayEnd answers before).1 = 0 → ∀ table, after.live table = late answers table)

variable {α : Type}

theorem perm_iff_length {one two rest : List α} (same : (one ++ rest).Perm two) :
    one.Perm two ↔ rest = [] := by
  constructor
  · intro perm
    have lengths := same.length_eq
    rw [List.length_append, perm.length_eq] at lengths
    exact List.length_eq_zero_iff.mp (by omega)
  · rintro rfl
    simpa using same

theorem Moved.once_iff {start : List Row} (moved : Moved before tables table read lost rest)
    (once : (before.live table ++ before.old table).Perm (start ++ before.inserted table)) :
    (tables.live table ++ tables.old table).Perm (start ++ tables.inserted table) ↔ lost = [] := by
  rw [moved.live, moved.old, moved.inserted]
  apply perm_iff_length
  rw [← Multiset.coe_eq_coe] at once ⊢
  simp only [← Multiset.coe_add] at once ⊢
  calc (rest : Multiset Row) + (before.old table + (before.live table + read)) + lost
      = before.live table + before.old table + (read + lost + rest) := by abel
    _ = start + (before.inserted table + (read + (lost + rest))) := by rw [once]; abel

theorem Doubled.once_iff {start : List Row} (doubled : Doubled before tables table read)
    (once : (before.live table ++ before.old table).Perm (start ++ before.inserted table)) :
    (tables.live table ++ tables.old table).Perm (start ++ tables.inserted table) ↔
      before.live table ++ read = [] := by
  obtain ⟨settled, more, live, copied, inserted⟩ := doubled
  rw [settled, List.append_nil] at copied
  rw [live, copied, inserted, List.perm_comm]
  apply perm_iff_length
  rw [← Multiset.coe_eq_coe] at once ⊢
  simp only [← Multiset.coe_add] at once ⊢
  calc (start : Multiset Row) + (before.inserted table + (read + more)) + (before.live table + read)
      = start + before.inserted table + (before.live table + read + (read + more)) := by abel
    _ = before.live table + (read + more) + (before.old table + (before.live table + read)) := by
      rw [← once]; abel

theorem Kept.once {start : List Row} (kept : Kept before tables table new)
    (once : (before.live table ++ before.old table).Perm (start ++ before.inserted table)) :
    (tables.live table ++ tables.old table).Perm (start ++ tables.inserted table) := by
  rw [kept.live, kept.old, kept.inserted]
  rw [← Multiset.coe_eq_coe] at once ⊢
  simp only [← Multiset.coe_add] at once ⊢
  calc (before.live table : Multiset Row) + new + before.old table
      = before.live table + before.old table + new := by abel
    _ = start + (before.inserted table + new) := by rw [once]; abel

theorem simutgwDayEnd_rollBack (answers : Answers Row) (before : Tables Row) :
    (simutgwDayEnd answers before).2 = (backupDb answers before).2.rollBack := rfl

theorem dayEnd_once_iff {start : Tables Row} (settled : ∀ table, before.copied table = [])
    (once : Once start before) : Once start (simutgwDayEnd answers before).2 ↔ Meets before answers := by
  rw [simutgwDayEnd_rollBack]
  by_cases commits : Commits answers
  · have fate (table : Table) := truncations_fate (copies_copied (settled table) commits.1) commits.2
    simp only [← backupDb_copies commits.1] at fate
    simp only [Meets, commits, true_implies]
    apply forall_congr'
    intro table
    by_cases truncates : Truncates answers table
    · obtain ⟨rest, moved⟩ := (fate table).1 truncates
      simp only [truncates, true_implies, not_true, false_implies, and_true]
      exact moved.once_iff (once table)
    · simp only [truncates, false_implies, not_false_iff, true_implies, true_and]
      exact ((fate table).2 truncates).once_iff (once table)
  · refine ⟨fun _ commits' => absurd commits' commits, ?_⟩
    intro _ table
    obtain ⟨new, kept⟩ := not_commits_kept (settled table) commits
    exact kept.once (once table)

theorem commit_code (answer : Answer Row) (tables : Tables Row) :
    (commit answer tables).1 = 0 ↔ answer.outcome = .done := by
  unfold commit
  cases answer.outcome <;> simp

theorem dayEnd_done (done : (simutgwDayEnd answers before).1 = 0) :
    Copies answers ∧ answers.truncateNewOrder.outcome = .done ∧ answers.truncateMatch.outcome = .done ∧
      answers.truncateReport.outcome = .done ∧ answers.commit.outcome = .done := by
  have backup : (backupDb answers before).1 = 0 := by
    by_contra failed
    simp [simutgwDayEnd, runDayEndClean, failed] at done
  have through {result : Int × Tables Row} {next : Tables Row → Int × Tables Row}
      (done : (andThen result next).1 = 0) : result.1 = 0 ∧ (next result.2).1 = 0 := by
    unfold andThen at done
    split at done
    next first => exact ⟨first, done⟩
    next => cases done
  obtain ⟨one, backup⟩ := through backup
  obtain ⟨two, backup⟩ := through backup
  obtain ⟨three, backup⟩ := through backup
  obtain ⟨four, backup⟩ := through backup
  obtain ⟨five, backup⟩ := through backup
  obtain ⟨six, backup⟩ := through backup
  simp only [moveDbdata_code] at one two three
  simp only [truncateTable_code] at four five six
  exact ⟨⟨one, two, three⟩, four, five, six, (commit_code _ _).mp backup⟩

theorem dayEnd_live (done : (simutgwDayEnd answers before).1 = 0) (table : Table) :
    (simutgwDayEnd answers before).2.live table = late answers table := by
  obtain ⟨copied, four, five, six, seven⟩ := dayEnd_done done
  rw [simutgwDayEnd_rollBack, backupDb_copies copied, truncations, andThen_done ((truncateTable_code _ _ _).mpr four),
    andThen_done ((truncateTable_code _ _ _).mpr five), andThen_done ((truncateTable_code _ _ _).mpr six)]
  simp only [truncateTable, commit, four, five, six, seven]
  cases table <;> simp [Tables.rollBack, Tables.commit, Tables.truncate, Tables.insert, late]

/-- Over every sequence of day ends, whatever fails and whatever comes in between two
statements: the rows are all there once after each of them exactly as long as each meets
the condition, and then a day's end that succeeds, after failed ones or not, completes
the move. -/
theorem rows_once_iff (live old : Table → List Row) (runs : List (Answers Row)) (last : Tables Row) :
    Run (fun before answers after => DayEnds before answers after ∧ Completes { live, old } before answers after)
        { live, old } runs last ↔
      Run (DayEnds.guarded Meets) { live, old } runs last := by
  let holds (tables : Tables Row) : Prop := Once { live, old } tables ∧ ∀ table, tables.copied table = []
  have start : holds { live, old } := ⟨fun table => by simp, fun _ => rfl⟩
  have decides : ∀ before answers after, holds before → DayEnds before answers after →
      (Completes { live, old } before answers after ↔ Meets before answers) := by
    rintro before answers after ⟨once, settled⟩ rfl
    constructor
    · intro completes
      exact (dayEnd_once_iff settled once).mp completes.1
    · intro meets
      exact ⟨(dayEnd_once_iff settled once).mpr meets, dayEnd_live⟩
  have keeps : ∀ before answers after, holds before → DayEnds before answers after →
      Completes { live, old } before answers after → holds after := by
    rintro before answers after - rfl completes
    exact ⟨completes.1, fun _ => rfl⟩
  exact Run.lawful_iff_guarded decides keeps start

private def oneEach : Tables Nat where
  live := fun _ => [1]
  old := fun _ => []

private def orderComesIn : Answers Nat where
  truncateNewOrder := { inserted := fun table => if table = .newOrder then [2] else [] }

/-- The second `TRUNCATE` is refused and the next day's end goes through: the order's
match is in the old table twice. And an order that comes in between is lost. -/
theorem rows_twice_or_lost :
    (∃ runs last, Run DayEnds oneEach runs last ∧ last.old .orderMatch = [1, 1] ∧ ¬ Once oneEach last) ∧
      ∃ runs last, Run DayEnds oneEach runs last ∧ last.inserted .newOrder = [2] ∧
        2 ∉ last.live .newOrder ++ last.old .newOrder := by
  refine ⟨⟨[{ truncateMatch := { outcome := .refused } }, {}], _, .cons rfl (.single rfl), rfl, ?_⟩,
    [orderComesIn], _, .single rfl, rfl, ?_⟩
  · intro once
    exact absurd (once .orderMatch).length_eq (by decide)
  · decide

end Simutgw.DayEndClean
