import Mathlib.Data.List.Nodup
import Simutgw.Logic.Runs
import Simutgw.ShConnDbfOrder

/-! Polls of one table of orders. A poll whose fetches all succeed and whose rows
are all marked hands on what it selected, once. The loop takes a failed fetch for a
row, and nobody looks at the result of the update that marks the rows. -/

namespace Simutgw.OrdwthDesk
open OTLConn40240 ShDbfOrderHelper Logic

/-- The library reports the end of the rows at some call. -/
def Ends (fetches : Nat → Fetch) : Prop := ∃ call, fetches call = .eof

variable {fetches : Nat → Fetch} {fuel call : Nat} {data : RowData}

theorem fetchNextRow_code (data : RowData) (fetch : Fetch) : (fetchNextRow data fetch).1 = 0 ↔ fetch = .eof := by
  cases fetch with
  | eof => simp [fetchNextRow]
  | eofThrows => simp [fetchNextRow]
  | describeThrows => simp [fetchNextRow]
  | row columns =>
    simp only [fetchNextRow, reduceCtorEq, iff_false]
    split <;> simp

theorem fetchRows_eof (eof : fetches call = .eof) : fetchRows fetches (fuel + 1) call data = some [] := by
  simp [fetchRows, eof, fetchNextRow]

theorem fetchRows_row (row : fetches call ≠ .eof) :
    fetchRows fetches (fuel + 1) call data =
      (fetchRows fetches fuel (call + 1) (fetchNextRow data (fetches call)).2).map
        ((fetchNextRow data (fetches call)).2 :: ·) := by
  have code := mt (fetchNextRow_code data (fetches call)).mp row
  simp only [fetchRows, code, if_false]

theorem fetchRows_ends_iff (fetches : Nat → Fetch) (call : Nat) (data : RowData) :
    (∃ fuel rows, fetchRows fetches fuel call data = some rows) ↔ ∃ more, fetches (call + more) = .eof := by
  constructor
  · rintro ⟨fuel, rows, ended⟩
    induction fuel generalizing call data rows with
    | zero => cases ended
    | succ fuel ih =>
      by_cases last : fetches call = .eof
      · exact ⟨0, last⟩
      · rw [fetchRows_row last] at ended
        obtain ⟨rest, ended, -⟩ := Option.map_eq_some_iff.mp ended
        obtain ⟨more, eof⟩ := ih (call + 1) _ _ ended
        exact ⟨more + 1, by rw [← eof]; congr 1; omega⟩
  · rintro ⟨more, eof⟩
    induction more generalizing call data with
    | zero => exact ⟨1, [], fetchRows_eof eof⟩
    | succ more ih =>
      by_cases last : fetches call = .eof
      · exact ⟨1, [], fetchRows_eof last⟩
      · obtain ⟨fuel, rows, ended⟩ := ih (call + 1) (fetchNextRow data (fetches call)).2
          (by rw [← eof]; congr 1; omega)
        exact ⟨fuel + 1, _ :: rows, by rw [fetchRows_row last, ended]; rfl⟩

theorem fetchRows_mono {more : Nat} {rows : List RowData} (ended : fetchRows fetches fuel call data = some rows)
    (enough : fuel ≤ more) : fetchRows fetches more call data = some rows := by
  induction fuel generalizing more call data rows with
  | zero => cases ended
  | succ fuel ih =>
    obtain ⟨more, rfl⟩ : ∃ rest, more = rest + 1 := ⟨more - 1, by omega⟩
    by_cases last : fetches call = .eof
    · rw [fetchRows_eof last] at ended ⊢
      exact ended
    · rw [fetchRows_row last] at ended ⊢
      obtain ⟨rest, later, rfl⟩ := Option.map_eq_some_iff.mp ended
      rw [ih later (by omega)]
      rfl

/-- Two readings of a row with the same values in the columns an order is made of. -/
def Agree (data other : RowData) : Prop := ∀ name ∈ ordwthColumns, data.value name = other.value name

/-- The library delivers these rows and then their end: of each row the columns an
order is made of, whatever other columns the table has. -/
structure Delivers (fetches : Nat → Fetch) (rows : List OrdwthRow) : Prop where
  row : ∀ call (inside : call < rows.length), ∃ columns data, fetches call = .row columns ∧
    readColumns "" (fun _ => none) columns = (true, data) ∧ Agree data rows[call].field
  eof : fetches rows.length = .eof

theorem fetchRows_delivers {rows : List OrdwthRow} {fetched : List RowData} (delivers : Delivers fetches rows)
    (ended : fetchRows fetches fuel 0 data = some fetched) :
    List.Forall₂ Agree fetched (rows.map OrdwthRow.field) := by
  have from_call (front back : List OrdwthRow) (split : rows = front ++ back) :
      ∀ fuel data fetched, fetchRows fetches fuel front.length data = some fetched →
        List.Forall₂ Agree fetched (back.map OrdwthRow.field) := by
    induction back generalizing front with
    | nil =>
      intro fuel data fetched ended
      cases fuel with
      | zero => cases ended
      | succ fuel =>
        have last : fetches front.length = .eof := by simpa [split] using delivers.eof
        rw [fetchRows_eof last] at ended
        cases ended
        exact .nil
    | cons head tail ih =>
      intro fuel data fetched ended
      cases fuel with
      | zero => cases ended
      | succ fuel =>
        have inside : front.length < rows.length := by simp [split]
        obtain ⟨columns, data, fetch, read, agree⟩ := delivers.row front.length inside
        have here : rows[front.length] = head := by simp [split]
        rw [here] at agree
        rw [fetchRows_row (by simp [fetch])] at ended
        obtain ⟨rest, ended, rfl⟩ := Option.map_eq_some_iff.mp ended
        simp only [fetch, fetchNextRow, read] at ended ⊢
        refine .cons agree ?_
        apply ih (front ++ [head]) (by simp [split]) fuel data rest
        simpa using ended
  exact from_call [] rows rfl fuel data fetched ended

/-- The rows not yet taken. -/
def waiting (table : List OrdwthRow) : List OrdwthRow := table.filter fun row => row.status = "R"

/-- `select top 10000 * .. where status='R'`, in any order. -/
structure Selected (table result : List OrdwthRow) : Prop where
  chosen : ∃ rest, (result ++ rest).Perm (waiting table)
  length : result.length = min 10000 (waiting table).length

/-- Whether a number is at hand or can be asked for. -/
def Passes (current : UInt64) (answers : QueryAnswers) : Prop :=
  current ≠ 0 ∨ answers.connects = true ∧ answers.queries = true

/-- Asking for a number ends: it is at hand, or the query fails, or its rows end. -/
def AskEnds (current : UInt64) (answers : QueryAnswers) : Prop :=
  current = 0 → answers.connects = true → answers.queries = true → Ends answers.fetches

theorem askNumber_ends_iff (current : UInt64) (column : String) (answers : QueryAnswers) :
    (∃ fuel answer, askNumber fuel current column answers = some answer) ↔ AskEnds current answers := by
  unfold askNumber AskEnds
  by_cases known : current = 0
  · cases connects : answers.connects with
    | false => simp [known]
    | true =>
      cases queries : answers.queries with
      | false => simp [known]
      | true =>
        have loop := fetchRows_ends_iff answers.fetches 0 (fun _ => none)
        simp only [Nat.zero_add] at loop
        simp only [known, ne_eq, not_true_eq_false, if_false, Bool.not_true, Bool.or_self, Bool.false_eq_true,
          Option.map_eq_some_iff, forall_const, Ends, ← loop]
        constructor
        · rintro ⟨fuel, _, rows, ended, _⟩
          exact ⟨fuel, rows, ended⟩
        · rintro ⟨fuel, rows, ended⟩
          exact ⟨fuel, _, rows, ended, rfl⟩
  · simp [known]

theorem askNumber_mono {more : Nat} {current : UInt64} {column : String} {answers : QueryAnswers}
    {answer : Option UInt64} (ended : askNumber fuel current column answers = some answer) (enough : fuel ≤ more) :
    askNumber more current column answers = some answer := by
  unfold askNumber at ended ⊢
  split at ended
  next known => simpa [known] using ended
  next known =>
    split at ended
    next refused => simpa [known, refused] using ended
    next opened =>
      obtain ⟨rows, loop, rfl⟩ := Option.map_eq_some_iff.mp ended
      simp only [known, if_false, opened, fetchRows_mono loop enough, Option.map_some, Bool.false_eq_true]

theorem askNumber_passes {current : UInt64} {column : String} {answers : QueryAnswers} {answer : Option UInt64}
    (ended : askNumber fuel current column answers = some answer) :
    answer.isSome = true ↔ Passes current answers := by
  unfold askNumber at ended
  unfold Passes
  by_cases known : current = 0
  · cases connects : answers.connects with
    | false =>
      simp [known, connects] at ended
      simp [known, ← ended]
    | true =>
      cases queries : answers.queries with
      | false =>
        simp [known, connects, queries] at ended
        simp [known, ← ended]
      | true =>
        simp only [known, ne_eq, not_true_eq_false, if_false, connects, queries, Bool.not_true, Bool.or_self,
          Bool.false_eq_true, Option.map_eq_some_iff] at ended
        obtain ⟨rows, _, rfl⟩ := ended
        simp
  · simp only [known, ne_eq, not_false_eq_true, if_true] at ended
    cases ended
    simp [known]

/-- The poll comes to fetching orders. -/
def Reaches (desk : OrdwthDesk) (answers : PollAnswers) : Prop :=
  Passes desk.cjbh answers.cjbh ∧ Passes desk.recNum answers.recNum ∧
    answers.orders.connects = true ∧ answers.orders.queries = true

/-- Every loop the poll comes to meets the end of its rows. -/
structure PollEnds (desk : OrdwthDesk) (answers : PollAnswers) : Prop where
  cjbh : AskEnds desk.cjbh answers.cjbh
  recNum : Passes desk.cjbh answers.cjbh → AskEnds desk.recNum answers.recNum
  orders : Reaches desk answers → Ends answers.orders.fetches

/-- What a poll that ends has done: nothing, or what its fetched rows make of the
desk, whose numbers it may have asked for. -/
theorem poll_cases {desk after : OrdwthDesk} {answers : PollAnswers}
    (ended : getOneConnSHOrder fuel answers desk = some after) :
    AskEnds desk.cjbh answers.cjbh ∧ (Passes desk.cjbh answers.cjbh → AskEnds desk.recNum answers.recNum) ∧
    ∃ cjbh recNum, ¬ Reaches desk answers ∧ after = { desk with cjbh, recNum } ∨
      Reaches desk answers ∧ ∃ rows, fetchRows answers.orders.fetches fuel 0 (fun _ => none) = some rows ∧
        after = shOrderToFix answers { desk with cjbh, recNum } rows := by
  unfold getOneConnSHOrder at ended
  split at ended
  next => cases ended
  next first =>
    cases ended
    have stopped := (askNumber_passes first).not.mp (by simp)
    exact ⟨(askNumber_ends_iff _ _ _).mp ⟨_, _, first⟩, fun passes => absurd passes stopped,
      desk.cjbh, desk.recNum, .inl ⟨fun reaches => stopped reaches.1, rfl⟩⟩
  next cjbh first =>
    have passed := (askNumber_passes first).mp rfl
    refine ⟨(askNumber_ends_iff _ _ _).mp ⟨_, _, first⟩, ?_⟩
    simp only at ended
    split at ended
    next => cases ended
    next second =>
      cases ended
      have stopped := (askNumber_passes second).not.mp (by simp)
      exact ⟨fun _ => (askNumber_ends_iff _ _ _).mp ⟨_, _, second⟩,
        cjbh, desk.recNum, .inl ⟨fun reaches => stopped reaches.2.1, rfl⟩⟩
    next recNum second =>
      have passed' := (askNumber_passes second).mp rfl
      refine ⟨fun _ => (askNumber_ends_iff _ _ _).mp ⟨_, _, second⟩, cjbh, recNum, ?_⟩
      split at ended
      next refused =>
        cases ended
        refine .inl ⟨fun reaches => ?_, rfl⟩
        simp [reaches.2.2.1, reaches.2.2.2] at refused
      next opened =>
        obtain ⟨rows, loop, rfl⟩ := Option.map_eq_some_iff.mp ended
        refine .inr ⟨⟨passed, passed', ?_, ?_⟩, rows, loop, rfl⟩
        · by_contra closed
          simp [closed] at opened
        · by_contra closed
          simp [closed] at opened

theorem poll_ends_iff (desk : OrdwthDesk) (answers : PollAnswers) :
    (∃ fuel after, getOneConnSHOrder fuel answers desk = some after) ↔ PollEnds desk answers := by
  constructor
  · rintro ⟨fuel, after, ended⟩
    obtain ⟨first, second, cjbh, recNum, outcome⟩ := poll_cases ended
    refine ⟨first, second, fun reaches => ?_⟩
    rcases outcome with ⟨missed, _⟩ | ⟨_, rows, loop, _⟩
    · exact absurd reaches missed
    · obtain ⟨call, eof⟩ := (fetchRows_ends_iff _ _ _).mp ⟨_, _, loop⟩
      exact ⟨0 + call, eof⟩
  · intro ends
    obtain ⟨one, answer, asked⟩ := (askNumber_ends_iff desk.cjbh "cjbh" answers.cjbh).mpr ends.cjbh
    cases answer with
    | none => exact ⟨one, desk, by simp only [getOneConnSHOrder, asked]⟩
    | some cjbh =>
      have passed := (askNumber_passes asked).mp rfl
      obtain ⟨two, answer, asked'⟩ := (askNumber_ends_iff desk.recNum "rec_num" answers.recNum).mpr (ends.recNum passed)
      have first := askNumber_mono asked (Nat.le_max_left one two)
      have second := askNumber_mono asked' (Nat.le_max_right one two)
      cases answer with
      | none => exact ⟨max one two, { desk with cjbh }, by simp only [getOneConnSHOrder, first, second]⟩
      | some recNum =>
        have passed' := (askNumber_passes asked').mp rfl
        by_cases opened : answers.orders.connects = true ∧ answers.orders.queries = true
        · obtain ⟨call, eof⟩ := ends.orders ⟨passed, passed', opened⟩
          obtain ⟨three, rows, loop⟩ := (fetchRows_ends_iff answers.orders.fetches 0 fun _ => none).mpr
            ⟨call, by rwa [Nat.zero_add]⟩
          refine ⟨max (max one two) three, shOrderToFix answers { desk with cjbh, recNum } rows, ?_⟩
          simp only [getOneConnSHOrder, askNumber_mono first (Nat.le_max_left _ three),
            askNumber_mono second (Nat.le_max_left _ three), opened.1, opened.2, Bool.not_true, Bool.or_self,
            Bool.false_eq_true, if_false, fetchRows_mono loop (Nat.le_max_right _ three), Option.map_some]
        · refine ⟨max one two, { desk with cjbh, recNum }, ?_⟩
          simp only [getOneConnSHOrder, first, second]
          rw [if_pos]
          simpa only [Bool.or_eq_true, Bool.not_eq_true', ← Bool.not_eq_true, ← not_and_or] using opened

theorem mark_mark (some more : List String) (table : List OrdwthRow) :
    mark more (mark some table) = mark (some ++ more) table := by
  simp only [mark, List.map_map]
  apply List.map_congr_left
  intro row _
  by_cases one : row.recNum ∈ some <;> by_cases two : row.recNum ∈ more <;> simp [one, two]

theorem mark_recNum (recNums : List String) (table : List OrdwthRow) :
    (mark recNums table).map OrdwthRow.recNum = table.map OrdwthRow.recNum := by
  simp only [mark, List.map_map]
  apply List.map_congr_left
  intro row _
  simp only [Function.comp_apply]
  split <;> rfl

theorem waiting_mark (recNums : List String) (table : List OrdwthRow) :
    waiting (mark recNums table) = (waiting table).filter fun row => row.recNum ∉ recNums := by
  induction table with
  | nil => rfl
  | cons row table ih =>
    simp only [waiting, mark, List.map_cons, List.filter_cons] at ih ⊢
    by_cases marked : row.recNum ∈ recNums
    · by_cases waits : row.status = "R" <;> simp [marked, waits, ih]
    · by_cases waits : row.status = "R" <;> simp [marked, waits, ih]

theorem handOn_recNum (setting : OrdwthSetting) (data : RowData) :
    (handOn setting data).order.msgSeqNum = data.value "rec_num" := by
  unfold handOn
  simp only
  split
  next => split <;> rfl
  next => rfl

/-- An order, and where it goes, depend on the columns it is made of alone. -/
theorem handOn_agree {data other : RowData} (setting : OrdwthSetting) (agree : Agree data other) :
    handOn setting data = handOn setting other := by
  have columns : ∀ name ∈ ordwthColumns, data.value name = other.value name := agree
  have json : jsOrder data = jsOrder other := by
    funext name
    unfold jsOrder
    split
    next member => rw [columns name member]
    next => rfl
  simp only [ordwthColumns, List.forall_mem_cons, List.not_mem_nil, false_implies, implies_true, and_true] at columns
  obtain ⟨recNum, date, time, reff, acc, stock, bs, price, qty, owflag, ordrec, firmid, branchid⟩ := columns
  have order : shOrder setting data = shOrder setting other := by
    simp only [shOrder, json, recNum, date, time, reff, acc, stock, bs, price, qty, owflag, ordrec, firmid, branchid]
  unfold handOn
  rw [order]

theorem takeRow_agree {answers : PollAnswers} {desk : OrdwthDesk} {data other : RowData} (call : Nat)
    (agree : Agree data other) : takeRow answers desk (data, call) = takeRow answers desk (other, call) := by
  unfold takeRow
  rw [handOn_agree answers.setting agree]

theorem takeRows_agree {answers : PollAnswers} {rows others : List RowData} (agree : List.Forall₂ Agree rows others)
    (desk : OrdwthDesk) (call : Nat) :
    (rows.zipIdx call).foldl (takeRow answers) desk = (others.zipIdx call).foldl (takeRow answers) desk := by
  induction agree generalizing desk call with
  | nil => rfl
  | cons first _ ih =>
    rw [List.zipIdx_cons, List.zipIdx_cons, List.foldl_cons, List.foldl_cons, takeRow_agree call first]
    exact ih _ _

theorem recNums_agree {rows others : List RowData} (agree : List.Forall₂ Agree rows others) :
    (rows.map fun data => data.value "rec_num") = others.map fun data => data.value "rec_num" := by
  induction agree with
  | nil => rfl
  | cons first _ ih => rw [List.map_cons, List.map_cons, first "rec_num" (by decide), ih]

theorem shOrderToFix_agree {answers : PollAnswers} {desk : OrdwthDesk} {rows others : List RowData}
    (agree : List.Forall₂ Agree rows others) : shOrderToFix answers desk rows = shOrderToFix answers desk others := by
  unfold shOrderToFix
  rw [takeRows_agree agree, recNums_agree agree]

/-- The rows a refusal's own update marks. -/
def singly (answers : PollAnswers) (fetched : RowData × Nat) : List String :=
  match handOn answers.setting fetched.1 with
  | .validation _ => []
  | .refusal order => if answers.ordwthStatus fetched.2 then [order.msgSeqNum] else []

theorem takeRow_eq (answers : PollAnswers) (desk : OrdwthDesk) (fetched : RowData × Nat) :
    ∃ recNum, takeRow answers desk fetched = { desk with
      recNum
      table := mark (singly answers fetched) desk.table
      handed := desk.handed ++ [handOn answers.setting fetched.1] } := by
  have untouched : mark [] desk.table = desk.table := by simp [mark]
  unfold takeRow singly
  cases handed : handOn answers.setting fetched.1 with
  | validation order => exact ⟨_, by simp only [untouched]; rfl⟩
  | refusal order =>
    by_cases marks : answers.ordwthStatus fetched.2
    · exact ⟨_, by simp only [marks, if_true]; rfl⟩
    · exact ⟨_, by simp only [marks, Bool.false_eq_true, if_false, untouched]; rfl⟩

theorem takeRows_eq (answers : PollAnswers) (fetched : List (RowData × Nat)) (desk : OrdwthDesk) :
    ∃ recNum, fetched.foldl (takeRow answers) desk = { desk with
      recNum
      table := mark (fetched.flatMap (singly answers)) desk.table
      handed := desk.handed ++ fetched.map fun row => handOn answers.setting row.1 } := by
  induction fetched generalizing desk with
  | nil => exact ⟨desk.recNum, by simp [mark]⟩
  | cons row fetched ih =>
    obtain ⟨recNum, first⟩ := takeRow_eq answers desk row
    obtain ⟨last, rest⟩ := ih (takeRow answers desk row)
    refine ⟨last, ?_⟩
    rw [List.foldl_cons, rest, first]
    simp [mark_mark]

/-- The numbers a poll's updates mark. -/
def marks (answers : PollAnswers) (rows : List RowData) : List String :=
  rows.zipIdx.flatMap (singly answers) ++
    if answers.mutilOrdStatus then rows.map fun data => data.value "rec_num" else []

theorem shOrderToFix_eq (answers : PollAnswers) (desk : OrdwthDesk) (rows : List RowData) :
    ∃ recNum, shOrderToFix answers desk rows = { desk with
      recNum
      table := mark (marks answers rows) desk.table
      handed := desk.handed ++ rows.map (handOn answers.setting)
      polled := desk.polled + 1 } := by
  obtain ⟨recNum, taken⟩ := takeRows_eq answers rows.zipIdx { desk with polled := desk.polled + 1 }
  have handed : (rows.zipIdx.map fun row => handOn answers.setting row.1) = rows.map (handOn answers.setting) := by
    have composed := congrArg (List.map (handOn answers.setting)) (List.zipIdx_map_fst 0 rows)
    rwa [List.map_map] at composed
  refine ⟨recNum, ?_⟩
  unfold shOrderToFix marks
  rw [taken, handed]
  cases answers.mutilOrdStatus with
  | false => simp
  | true => simp [mark_mark]

/-- The rows' status is updated: of all at once, or of each row as it is refused. -/
def Marked (answers : PollAnswers) (result : List OrdwthRow) : Prop :=
  answers.mutilOrdStatus = true ∨ ∀ row call, (row, call) ∈ result.zipIdx →
    answers.ordwthStatus call = true ∧ ∃ order, handOn answers.setting row.field = .refusal order

theorem mem_marks {answers : PollAnswers} {result : List OrdwthRow} (marked : Marked answers result) {row : OrdwthRow}
    (member : row ∈ result) : row.recNum ∈ marks answers (result.map OrdwthRow.field) := by
  unfold marks
  rcases marked with whole | each
  · refine List.mem_append_right _ ?_
    rw [if_pos whole, List.map_map]
    exact List.mem_map_of_mem member
  · refine List.mem_append_left _ ?_
    obtain ⟨call, inside, rfl⟩ := List.mem_iff_getElem.mp member
    have indexed : (result[call], call) ∈ result.zipIdx := List.mem_zipIdx_iff_getElem?.mpr (by simp [inside])
    obtain ⟨updated, order, refused⟩ := each _ _ indexed
    refine List.mem_flatMap.mpr ⟨(result[call].field, call), ?_, ?_⟩
    · exact List.mem_zipIdx_iff_getElem?.mpr (by simp [inside])
    · have number := handOn_recNum answers.setting result[call].field
      rw [refused] at number
      simp only [singly, refused, updated, if_true, List.mem_singleton]
      exact number.symm

theorem marks_subset {answers : PollAnswers} {result : List OrdwthRow} {recNum : String}
    (marked : recNum ∈ marks answers (result.map OrdwthRow.field)) : recNum ∈ result.map OrdwthRow.recNum := by
  unfold marks at marked
  rcases List.mem_append.mp marked with single | whole
  · obtain ⟨⟨data, call⟩, indexed, named⟩ := List.mem_flatMap.mp single
    have found := List.mem_zipIdx_iff_getElem?.mp indexed
    obtain ⟨row, member, rfl⟩ := List.mem_map.mp (List.mem_of_getElem? found)
    have number := handOn_recNum answers.setting row.field
    simp only [singly] at named
    split at named
    next => cases named
    next order refused =>
      rw [refused] at number
      split at named
      next =>
        cases List.mem_singleton.mp named
        rw [show Handed.order (.refusal order) = order from rfl] at number
        rw [number]
        exact List.mem_map_of_mem member
      next => cases named
  · split at whole
    next =>
      rw [List.map_map] at whole
      exact whole
    next => cases whole

/-- The poll's loops end, and where it comes to fetching, the library delivers the
selected rows and their status is updated. -/
structure Meets (desk : OrdwthDesk) (answers : PollAnswers) : Prop where
  cjbh : AskEnds desk.cjbh answers.cjbh
  recNum : Passes desk.cjbh answers.cjbh → AskEnds desk.recNum answers.recNum
  orders : Reaches desk answers → ∃ result, Selected desk.table result ∧ Delivers answers.orders.fetches result ∧
    Marked answers result

theorem Meets.ends {desk : OrdwthDesk} {answers : PollAnswers} (meets : Meets desk answers) :
    PollEnds desk answers := by
  refine ⟨meets.cjbh, meets.recNum, fun reaches => ?_⟩
  obtain ⟨result, _, delivers, _⟩ := meets.orders reaches
  exact ⟨_, delivers.eof⟩

/-- A poll that ends. -/
def Polls : Steps OrdwthDesk PollAnswers := fun before answers after =>
  ∃ fuel, getOneConnSHOrder fuel answers before = some after

/-- Every row has its own number, and nothing is handed on yet. -/
structure Fresh (desk : OrdwthDesk) : Prop where
  unique : (desk.table.map OrdwthRow.recNum).Nodup
  handed : desk.handed = []
  polled : desk.polled = 0

def handedNumbers (desk : OrdwthDesk) : List String := desk.handed.map fun handed => handed.order.msgSeqNum

def waitingNumbers (desk : OrdwthDesk) : List String := (waiting desk.table).map OrdwthRow.recNum

/-- What was waiting is handed on, as an order of its own row, or still waiting. -/
structure Tracked (start : OrdwthDesk) (polls : List PollAnswers) (desk : OrdwthDesk) : Prop where
  numbers : desk.table.map OrdwthRow.recNum = start.table.map OrdwthRow.recNum
  rows : waiting desk.table ⊆ waiting start.table
  own : ∀ handed ∈ desk.handed, ∃ row ∈ waiting start.table, ∃ answers ∈ polls,
    handed = handOn answers.setting row.field
  parts : (handedNumbers desk ++ waitingNumbers desk).Perm (waitingNumbers start)
  left : (waiting desk.table).length = (waiting start.table).length - 10000 * desk.polled

theorem waitingNumbers_nodup {desk : OrdwthDesk} (unique : (desk.table.map OrdwthRow.recNum).Nodup) :
    (waitingNumbers desk).Nodup :=
  unique.sublist (List.filter_sublist.map _)

/-- The updates take the selected rows, and only them, out of the waiting ones. -/
theorem waiting_marked {answers : PollAnswers} {table result rest : List OrdwthRow}
    (unique : ((waiting table).map OrdwthRow.recNum).Nodup) (chosen : (result ++ rest).Perm (waiting table))
    (marked : Marked answers result) :
    (waiting (mark (marks answers (result.map OrdwthRow.field)) table)).Perm rest := by
  rw [waiting_mark]
  refine (chosen.filter _).symm.trans (List.Perm.of_eq ?_)
  have distinct := (chosen.map OrdwthRow.recNum).nodup_iff.mpr unique
  rw [List.map_append, List.nodup_append] at distinct
  have taken : result.filter (fun row => row.recNum ∉ marks answers (result.map OrdwthRow.field)) = [] := by
    rw [List.filter_eq_nil_iff]
    intro row member
    simpa using mem_marks marked member
  have kept : rest.filter (fun row => row.recNum ∉ marks answers (result.map OrdwthRow.field)) = rest := by
    rw [List.filter_eq_self]
    intro row member
    simp only [decide_eq_true_eq]
    intro named
    exact distinct.2.2 _ (marks_subset named) _ (List.mem_map_of_mem member) rfl
  rw [List.filter_append, taken, kept, List.nil_append]

theorem poll_tracked {start before after : OrdwthDesk} {polls : List PollAnswers} {answers : PollAnswers}
    (unique : (start.table.map OrdwthRow.recNum).Nodup) (member : answers ∈ polls) (tracked : Tracked start polls before)
    (taken : Polls before answers after) (meets : Meets before answers) : Tracked start polls after := by
  obtain ⟨numbers, still, own, parts, left⟩ := tracked
  obtain ⟨fuel, ended⟩ := taken
  obtain ⟨_, _, cjbh, recNum, ⟨_, rfl⟩ | ⟨reaches, rows, loop, rfl⟩⟩ := poll_cases ended
  · exact ⟨numbers, still, own, parts, left⟩
  · obtain ⟨result, ⟨⟨rest, chosen⟩, size⟩, delivers, marked⟩ := meets.orders reaches
    rw [shOrderToFix_agree (fetchRows_delivers delivers loop)]
    obtain ⟨last, fixed⟩ := shOrderToFix_eq answers { before with cjbh, recNum } (result.map OrdwthRow.field)
    rw [fixed]
    have distinct := waitingNumbers_nodup (numbers ▸ unique)
    have remains := waiting_marked distinct chosen marked
    have selected (row : OrdwthRow) (inside : row ∈ result) : row ∈ waiting start.table :=
      still (chosen.subset (List.mem_append_left rest inside))
    refine ⟨(mark_recNum _ _).trans numbers, ?_, ?_, ?_, ?_⟩
    · intro row inside
      exact still (chosen.subset (List.mem_append_right result (remains.subset inside)))
    · intro handed found
      rcases List.mem_append.mp found with earlier | now
      · exact own handed earlier
      · rw [List.map_map] at now
        obtain ⟨row, inside, rfl⟩ := List.mem_map.mp now
        exact ⟨row, selected row inside, answers, member, rfl⟩
    · have handed : result.map ((fun handed => handed.order.msgSeqNum) ∘ handOn answers.setting ∘ OrdwthRow.field) =
          result.map OrdwthRow.recNum := by
        apply List.map_congr_left
        intro row _
        exact handOn_recNum answers.setting row.field
      have split := chosen.map OrdwthRow.recNum
      rw [List.map_append] at split
      simp only [handedNumbers, waitingNumbers, List.map_append, List.map_map, List.append_assoc] at parts ⊢
      rw [handed]
      exact ((((remains.map _).append_left _).trans split).append_left _).trans parts
    · have sizes := chosen.length_eq
      have now := remains.length_eq
      rw [List.length_append] at sizes
      simp only [now]
      omega

/-- Over all polls so far: a row that waited at the start has been handed on once,
or still waits and has not; all that has been handed on are such rows, as the orders
they make; and each poll that came to fetching has taken ten thousand rows, or all. -/
structure Once (start : OrdwthDesk) (polls : List PollAnswers) (last : OrdwthDesk) : Prop where
  each : ∀ recNum ∈ waitingNumbers start,
    (handedNumbers last).count recNum = if recNum ∈ waitingNumbers last then 0 else 1
  own : ∀ handed ∈ last.handed, ∃ row ∈ waiting start.table, ∃ answers ∈ polls,
    handed = handOn answers.setting row.field
  only : ∀ recNum ∈ handedNumbers last, recNum ∈ waitingNumbers start
  left : (waiting last.table).length = (waiting start.table).length - 10000 * last.polled

theorem Tracked.once {start desk : OrdwthDesk} {polls : List PollAnswers}
    (unique : (start.table.map OrdwthRow.recNum).Nodup) (tracked : Tracked start polls desk) : Once start polls desk := by
  obtain ⟨numbers, _, own, parts, left⟩ := tracked
  have distinct := waitingNumbers_nodup unique
  refine ⟨fun recNum member => ?_, own, fun recNum member => parts.subset (List.mem_append_left _ member), left⟩
  have total := parts.count_eq recNum
  rw [List.count_append, List.count_eq_one_of_mem distinct member] at total
  have waits := List.nodup_iff_count_le_one.mp (waitingNumbers_nodup (numbers ▸ unique) :
    (waitingNumbers desk).Nodup) recNum
  split
  next still =>
    have some := List.count_pos_iff.mpr still
    omega
  next gone =>
    have none := List.count_eq_zero.mpr gone
    omega

/-- In every run of polls that meet their condition each waiting row is handed on
once, and the next such poll ends; a poll ends exactly when its loops are told of
the end of their rows. -/
theorem rows_handed_on_once {start last : OrdwthDesk} {polls : List PollAnswers} (fresh : Fresh start)
    (run : Run (Steps.guarded Polls Meets) start polls last) :
    Once start polls last ∧ ∀ answers, ((∃ after, Polls last answers after) ↔ PollEnds last answers) ∧
      (Meets last answers → ∃ after, Polls last answers after) := by
  have ends (answers : PollAnswers) : (∃ after, Polls last answers after) ↔ PollEnds last answers := by
    rw [← poll_ends_iff]
    constructor
    · rintro ⟨after, fuel, ended⟩
      exact ⟨fuel, after, ended⟩
    · rintro ⟨fuel, after, ended⟩
      exact ⟨after, fuel, ended⟩
  have tracked : Tracked start polls last := by
    apply run.invariant_of_mem
    · intro answers member before after tracked taken
      exact poll_tracked fresh.unique member tracked taken.1 taken.2
    · refine ⟨rfl, fun row inside => inside, ?_, ?_, ?_⟩
      · rw [fresh.handed]
        exact fun _ inside => absurd inside (List.not_mem_nil)
      · rw [handedNumbers, fresh.handed]
        exact .refl _
      · rw [fresh.polled]
        rfl
  exact ⟨tracked.once fresh.unique, fun answers => ⟨ends answers, fun meets => (ends answers).mpr meets.ends⟩⟩

/-- The columns of a row as the library reads them, the binary check code among them. -/
def rowColumns (row : OrdwthRow) (checkord : String) : List ColumnRead :=
  [⟨"rec_num", .number, some row.recNum⟩, ⟨"date", .text, some row.date⟩, ⟨"time", .text, some row.time⟩,
    ⟨"reff", .text, some row.reff⟩, ⟨"acc", .text, some row.acc⟩, ⟨"stock", .text, some row.stock⟩,
    ⟨"bs", .text, some row.bs⟩, ⟨"price", .text, some row.price⟩, ⟨"qty", .text, some row.qty⟩,
    ⟨"status", .text, some row.status⟩, ⟨"owflag", .text, some row.owflag⟩, ⟨"ordrec", .text, some row.ordrec⟩,
    ⟨"firmid", .text, some row.firmid⟩, ⟨"branchid", .text, some row.branchid⟩, ⟨"checkord", .text, some checkord⟩]

theorem readColumns_row (row : OrdwthRow) (checkord : String) :
    ∃ data, readColumns "" (fun _ => none) (rowColumns row checkord) = (true, data) ∧ Agree data row.field := by
  refine ⟨_, rfl, ?_⟩
  unfold Agree
  simp only [ordwthColumns, List.forall_mem_cons, List.not_mem_nil, false_implies, implies_true, and_true]
  refine ⟨rfl, rfl, rfl, rfl, rfl, rfl, rfl, rfl, rfl, rfl, rfl, rfl, rfl⟩

/-- The calls that deliver these rows. -/
def delivering (rows : List OrdwthRow) : Nat → Fetch := fun call =>
  match rows[call]? with
  | some row => .row (rowColumns row "")
  | none => .eof

theorem delivering_delivers (rows : List OrdwthRow) : Delivers (delivering rows) rows := by
  refine ⟨fun call inside => ?_, by simp [delivering]⟩
  obtain ⟨data, read, agree⟩ := readColumns_row rows[call] ""
  exact ⟨_, data, by simp [delivering, inside], read, agree⟩

/-- A waiting row, of a connection whose numbers are known. -/
private def oneRow : OrdwthDesk where
  table := [{ recNum := "1", date := "20170525", time := "14:05:31", reff := "J891200002", acc := "A645078963",
              stock := "600446", bs := "B", price := "15.000  ", qty := "100     ", owflag := "LPT",
              ordrec := "0       ", firmid := "     ", branchid := "     " }]
  cjbh := 1
  recNum := 1

private def fetching (fetches : Nat → Fetch) (updated : Bool) : PollAnswers where
  setting := { session := "sh1", policy := {} }
  cjbh := { fetches := fun _ => .eof }
  recNum := { fetches := fun _ => .eof }
  orders := { fetches }
  ordwthStatus := fun _ => false
  mutilOrdStatus := updated

theorem rows_handed_on_once_one :
    ∃ last, Polls oneRow (fetching (delivering oneRow.table) true) last ∧
      Once oneRow [fetching (delivering oneRow.table) true] last := by
  have taken : Polls oneRow (fetching (delivering oneRow.table) true) _ := ⟨2, rfl⟩
  refine ⟨_, taken, (rows_handed_on_once ⟨by decide, rfl, rfl⟩ (.single ⟨taken, ?_⟩)).1⟩
  refine ⟨fun known => absurd known (by decide), fun _ known => absurd known (by decide), fun _ => ?_⟩
  exact ⟨oneRow.table, ⟨⟨[], .refl _⟩, rfl⟩, delivering_delivers _, .inl rfl⟩

/-- A library that keeps throwing keeps the poll busy; and where the update of the
status fails, the next poll hands the row on again. -/
theorem rows_taken_again :
    (∃ start answers, Fresh start ∧ ¬ ∃ after, Polls start answers after) ∧
      ∃ start polls last, Fresh start ∧ Run Polls start polls last ∧ (handedNumbers last).count "1" = 2 := by
  refine ⟨⟨oneRow, fetching (fun _ => .eofThrows) true, ⟨by decide, rfl, rfl⟩, ?_⟩,
    oneRow, [fetching (delivering oneRow.table) false, fetching (delivering oneRow.table) false], ?_⟩
  · rintro ⟨after, fuel, ended⟩
    have ends := (poll_ends_iff _ _).mp ⟨fuel, after, ended⟩
    obtain ⟨call, eof⟩ := ends.orders ⟨.inl (by decide), .inl (by decide), rfl, rfl⟩
    cases eof
  · exact ⟨_, ⟨by decide, rfl, rfl⟩, .cons ⟨2, rfl⟩ <| .cons ⟨2, rfl⟩ <| .nil _, by decide⟩

end Simutgw.OrdwthDesk
