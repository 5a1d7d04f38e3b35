import Simutgw.Logic.OwnParts
import Simutgw.ReportPass

/-! Shanghai's pass serves all connections in one loop, with one map of statements and one
map of counters. Still no connection sees another: its statements and its counters are
those of a pass over its own reports, at the times the clock showed at them. -/

namespace Simutgw.Proofs.SessionPasses
open Logic ReportSql RuleWordProc TimeStringUtil

section Builders

variable (order : ReportedOrder)

theorem fixToSHConfirm_confined : Confined order.sessionId (fixToSHConfirm order) := by
  intro part
  cases times : transTimes order.toOrderMessage with
  | none =>
    apply unmoved
    intro conns same
    simp only [fixToSHConfirm, times]
    rfl
  | some time =>
    cases part with
    | none =>
      apply unmoved
      intro conns same
      simp only [fixToSHConfirm, times, same]
      rfl
    | some conn =>
      cases known : reff order.toOrderMessage with
      | none =>
        refine ⟨none, some conn.incRecNum.2, ?_⟩
        intro conns same
        simp only [fixToSHConfirm, times, same, known]
      | some strReff =>
        cases state : status order.toOrderMessage with
        | none =>
          refine ⟨none, some conn.incRecNum.2, ?_⟩
          intro conns same
          simp only [fixToSHConfirm, times, same, known, state]
        | some strStatus =>
          -- The number of the row is drawn first, then the host's.
          let numbered := teordernum order.toOrderMessage conn.incRecNum.2
          refine ⟨some (confirmSql order conn.incRecNum.1 numbered.1 time.1 time.2 strReff strStatus),
            some numbered.2, ?_⟩
          intro conns same
          simp only [fixToSHConfirm, times, same, known, state, Function.update_idem]
          rfl

theorem fixToSHReport_confined : Confined order.sessionId (fixToSHReport order) := by
  intro part
  cases times : transTimes order.toOrderMessage with
  | none =>
    apply unmoved
    intro conns same
    simp only [fixToSHReport, times]
    rfl
  | some time =>
    cases part with
    | none =>
      apply unmoved
      intro conns same
      simp only [fixToSHReport, times, same]
      rfl
    | some conn =>
      refine ⟨some (reportSql order conn.incCjbh.1 time.1 (withoutColons time.2)), some conn.incCjbh.2, ?_⟩
      intro conns same
      simp only [fixToSHReport, times, same]

/-- What a member's words are given, as the order's own connection has it. -/
def ownWords (clock : CalendarTime) (conn : Option ShNumbers) : ShWords where
  jsOrder := order.jsOrder
  recNum := conn.map fun conn => conn.incRecNum.1
  cjbh := conn.map fun conn => conn.incCjbh.1
  date := getTimeInYYYYMMDD clock.tm
  timeC8 := getTimeInTimeC8 clock.tm
  timeC6 := getTimeInTimeC6 clock.tm

theorem drawn_own (elem : RuleElement) (ruleKey : String) (part : Option ShNumbers) :
    ∃ after, ∀ conns : MapShConns, conns order.sessionId = part →
      drawn order conns elem ruleKey = Function.update conns order.sessionId after := by
  have confined : Confined order.sessionId fun conns => ((), drawn order conns elem ruleKey) := by
    intro part
    cases kind : elem ruleKey with
    | none => exact unmoved fun conns same => by simp only [drawn, kind]; rfl
    | some value =>
      cases value with
      | array items => exact unmoved fun conns same => by simp only [drawn, kind]; rfl
      | other => exact unmoved fun conns same => by simp only [drawn, kind]; rfl
      | text words =>
        cases part with
        | none => exact unmoved fun conns same => by simp only [drawn, kind, same]; rfl
        | some conn =>
          by_cases row : splitBlank words = ["$REC_NUM"]
          · exact ⟨(), some conn.incRecNum.2, fun conns same => by simp only [drawn, kind, same, if_pos row]⟩
          · by_cases trade : splitBlank words = ["$SH_CJBH"]
            · exact ⟨(), some conn.incCjbh.2, fun conns same => by
                simp only [drawn, kind, same, if_neg row, if_pos trade]⟩
            · exact unmoved fun conns same => by
                simp only [drawn, kind, same, if_neg row, if_neg trade]
                rfl
  obtain ⟨_, after, alike⟩ := confined part
  exact ⟨after, fun conns same => congrArg Prod.snd (alike conns same)⟩

theorem appendColumns_confined (clock : String → CalendarTime) (elem : RuleElement) (strEmpty : String)
    (columns : List String) (sql strResolveValue : String) :
    Confined order.sessionId (appendColumns order clock elem strEmpty columns sql strResolveValue) := by
  induction columns generalizing sql strResolveValue with
  | nil => exact .still order.sessionId (some (sql, strResolveValue))
  | cons ruleKey columns ih =>
    intro part
    obtain ⟨between, draws⟩ := drawn_own order elem ruleKey part
    have words (conns : MapShConns) (same : conns order.sessionId = part) :
        ruleWords order (clock ruleKey) conns = ownWords order (clock ruleKey) part := by
      simp only [ruleWords, ownWords, same]
    cases resolved : ShDb.resolveRule (ownWords order (clock ruleKey) part) elem ruleKey strResolveValue with
    | none =>
      refine ⟨none, between, ?_⟩
      intro conns same
      simp only [appendColumns, words conns same, resolved, draws conns same]
    | some pair =>
      by_cases failed : pair.1 = -1
      · refine ⟨none, between, ?_⟩
        intro conns same
        simp only [appendColumns, words conns same, resolved, draws conns same, if_pos failed]
      · obtain ⟨value, after, alike⟩ := ih (sql ++
            if columns.isEmpty then if pair.2.isEmpty then strEmpty else "'" ++ pair.2 ++ "'"
            else if pair.2.isEmpty then "NULL," else "'" ++ pair.2 ++ "',") pair.2 between
        refine ⟨value, after, ?_⟩
        intro conns same
        simp only [appendColumns, words conns same, resolved, draws conns same, if_neg failed]
        rw [alike _ (Function.update_self ..), Function.update_idem]

theorem fixToSHConfirmJsonRule_confined (clock : String → CalendarTime) (docRuleConfirm : Option RuleElement) :
    Confined order.sessionId (fixToSHConfirmJsonRule order clock docRuleConfirm) := by
  cases docRuleConfirm with
  | none => exact .still order.sessionId none
  | some elem =>
    exact (appendColumns_confined order clock elem "0x00000000000000000000000000000000" confirmColumns
      confirmHead "").map fun appended => appended.map fun appended => appended.1 ++ ");"

/-- A builder's code and its statements are what it answers. -/
def answered (act : MapShConns → Pushing) (conns : MapShConns) : (Int × List String) × MapShConns :=
  (((act conns).1, (act conns).2.1), (act conns).2.2)

theorem reportRows_confined (clock : Nat → String → CalendarTime) (elems : List (Option RuleElement)) (i : Nat)
    (strResolveValue : String) :
    Confined order.sessionId (answered (reportRows order clock elems i strResolveValue)) := by
  induction elems generalizing i strResolveValue with
  | nil => exact .still order.sessionId (0, [])
  | cons elem elems ih =>
    cases elem with
    | none => exact .still order.sessionId (-1, [])
    | some elem =>
      intro part
      obtain ⟨value, between, row⟩ :=
        appendColumns_confined order (clock i) elem "NULL" reportColumns reportHead strResolveValue part
      cases value with
      | none =>
        refine ⟨(-1, []), between, ?_⟩
        intro conns same
        simp only [answered, reportRows, row conns same]
      | some appended =>
        obtain ⟨value, after, rest⟩ := ih (i + 1) appended.2 between
        refine ⟨(value.1, (appended.1 ++ ");") :: value.2), after, ?_⟩
        intro conns same
        have later := rest _ (Function.update_self order.sessionId between conns)
        rw [Function.update_idem] at later
        simp only [answered] at later
        obtain ⟨answers, moved⟩ := Prod.ext_iff.mp later
        simp only at answers moved
        simp only [answered, reportRows, row conns same]
        rw [← answers, moved]

theorem fixToSHReportJsonRule_confined (clock : Nat → String → CalendarTime)
    (docRuleMatch : Option (List (Option RuleElement))) :
    Confined order.sessionId (answered (fixToSHReportJsonRule order clock docRuleMatch)) := by
  cases docRuleMatch with
  | none => exact .still order.sessionId (-1, [])
  | some elems => exact reportRows_confined order clock elems 0 ""

theorem pushed_confined {act : MapShConns → Option String × MapShConns} (confined : Confined order.sessionId act) :
    Confined order.sessionId (answered fun conns => pushed (act conns)) := by
  intro part
  obtain ⟨value, after, alike⟩ := confined part
  cases value with
  | none => exact ⟨(-1, []), after, fun conns same => by simp only [answered, alike conns same, pushed]⟩
  | some sql => exact ⟨(0, [sql]), after, fun conns same => by simp only [answered, alike conns same, pushed]⟩

end Builders

section Pass

variable (clock : Nat → String → CalendarTime) (report : QueuedReport)

theorem tried_confined : Confined report.order.sessionId
    (answered fun conns => (0, (pushed (fixToSHConfirm report.order conns)).2)) := by
  have confined := pushed_confined report.order (fixToSHConfirm_confined report.order)
  exact confined.map fun pushing : Int × List String => (0, pushing.2)

theorem procSingleReport_confined :
    Confined report.order.sessionId (answered (ReportSql.procSingleReport clock report)) := by
  unfold ReportSql.procSingleReport
  split
  · exact .still report.order.sessionId (0, [])
  · split
    · split
      · split
        · exact .still report.order.sessionId (-1, [])
        · exact fixToSHReportJsonRule_confined report.order clock _
      · exact pushed_confined report.order (fixToSHReport_confined report.order)
    · exact .still report.order.sessionId (-1, [])

theorem procSHConfirmOrder_confined :
    Confined report.order.sessionId (answered (ReportSql.procSHConfirmOrder clock report)) := by
  unfold ReportSql.procSHConfirmOrder
  split
  · exact .still report.order.sessionId (-1, [])
  · split
    · split
      · split
        · exact .still report.order.sessionId (-1, [])
        · exact pushed_confined report.order (fixToSHConfirmJsonRule_confined report.order (clock 0) _)
      · exact pushed_confined report.order (fixToSHConfirm_confined report.order)
    · exact .still report.order.sessionId (-1, [])

theorem procSHCancelOrder_confined :
    Confined report.order.sessionId (answered (ReportSql.procSHCancelOrder report)) := by
  unfold ReportSql.procSHCancelOrder
  split
  · exact tried_confined report
  · exact .still report.order.sessionId (0, [])

theorem procSHErrorOrder_confined :
    Confined report.order.sessionId (answered (ReportSql.procSHErrorOrder report)) := by
  unfold ReportSql.procSHErrorOrder
  split
  · exact tried_confined report
  · exact .still report.order.sessionId (0, [])

theorem building_confined : Confined report.order.sessionId (answered (building clock report)) := by
  unfold building
  cases report.order.matchType with
  | matchAll => exact procSingleReport_confined clock report
  | matchPart => exact procSingleReport_confined clock report
  | cancelMatch => exact procSHCancelOrder_confined report
  | errorMatch => exact procSHErrorOrder_confined report
  | notMatch => exact procSHConfirmOrder_confined clock report
  | outOfRange => exact .still report.order.sessionId (-1, [])
  | stopTrans => exact .still report.order.sessionId (-1, [])

/-- A connection's part of the pass: its statements and its counters. -/
abbrev Parts := String → Option (List String) × Option ShNumbers

def parts (out_mapUpdate : OutMapUpdate) (conns : MapShConns) : Parts := fun name => (out_mapUpdate name, conns name)

/-- A popped report, with what the clock shows at it. -/
abbrev Popped := QueuedReport × (Nat → String → CalendarTime)

/-- One round, on all connections' parts. -/
def round (item : Popped) (whole : Parts) : (Int × List String) × Parts :=
  let built := answered (building item.2 item.1) fun name => (whole name).2
  (built.1, parts (OutMapUpdate.insert (fun name => (whole name).1) item.1.order.sessionId built.1.2) built.2)

theorem round_confined (item : Popped) : Confined item.1.order.sessionId (round item) := by
  intro part
  obtain ⟨value, after, alike⟩ := building_confined item.2 item.1 part.2
  refine ⟨value, (if value.2.isEmpty then part.1 else some (part.1.getD [] ++ value.2), after), ?_⟩
  intro whole same
  have own : (whole item.1.order.sessionId).2 = part.2 := by rw [same]
  simp only [round, alike (fun name => (whole name).2) own]
  congr 1
  funext name
  by_cases mine : name = item.1.order.sessionId
  · subst mine
    simp only [parts, OutMapUpdate.insert, Function.update_self, same]
    split
    · simp only [same]
    · rw [Function.update_self]
  · simp only [parts, OutMapUpdate.insert, Function.update_of_ne mine]
    split
    · rfl
    · rw [Function.update_of_ne mine]

/-- The reports a pass pops. -/
def popped (clock : Nat → Nat → String → CalendarTime) : Nat → List QueuedReport → List Popped
  | 0, _ => []
  | _ + 1, [] => []
  | rounds + 1, report :: reports => (report, clock rounds) :: popped clock rounds reports

theorem popped_fst (clock : Nat → Nat → String → CalendarTime) (rounds : Nat) (reports : List QueuedReport) :
    (popped clock rounds reports).map Prod.fst = reports.take rounds := by
  induction rounds generalizing reports with
  | zero => rfl
  | succ rounds ih =>
    cases reports with
    | nil => rfl
    | cons report reports => rw [popped, List.map_cons, ih, List.take_succ_cons]

theorem popped_congr {clock other : Nat → Nat → String → CalendarTime} {rounds : Nat}
    (alike : ∀ round < rounds, clock round = other round) (reports : List QueuedReport) :
    popped clock rounds reports = popped other rounds reports := by
  induction rounds generalizing reports with
  | zero => rfl
  | succ rounds ih =>
    cases reports with
    | nil => rfl
    | cons report reports =>
      rw [popped, popped, alike rounds (Nat.lt_succ_self rounds), ih (fun round less => alike round (by omega))]

/-- The clock as a pass over these reports alone finds it. -/
def shown (clock : Nat → Nat → String → CalendarTime) : List Popped → Nat → Nat → String → CalendarTime
  | [] => clock
  | item :: items => fun round => if round = items.length then item.2 else shown clock items round

theorem popped_shown (clock : Nat → Nat → String → CalendarTime) (items : List Popped) :
    popped (shown clock items) items.length (items.map Prod.fst) = items := by
  induction items with
  | nil => rfl
  | cons item items ih =>
    have later : ∀ round < items.length, shown clock (item :: items) round = shown clock items round := by
      intro round less
      exact if_neg (Nat.ne_of_lt less)
    rw [List.length_cons, List.map_cons, popped, popped_congr later, ih]
    exact congrArg (fun clock => (item.1, clock) :: items) (if_pos rfl)

theorem getSHReport_rounds (clock : Nat → Nat → String → CalendarTime) (rounds : Nat) (reports : List QueuedReport)
    (out_mapUpdate : OutMapUpdate) (conns : MapShConns) :
    (getSHReport clock rounds reports out_mapUpdate conns).1 = reports.drop rounds ∧
      parts (getSHReport clock rounds reports out_mapUpdate conns).2.1
          (getSHReport clock rounds reports out_mapUpdate conns).2.2 =
        (popped clock rounds reports).foldl (fun whole item => (round item whole).2) (parts out_mapUpdate conns) := by
  induction rounds generalizing reports out_mapUpdate conns with
  | zero => exact ⟨rfl, rfl⟩
  | succ rounds ih =>
    cases reports with
    | nil => exact ⟨rfl, rfl⟩
    | cons report reports => exact ih reports _ _

end Pass

/-- The connection alone: nothing is known of any other. -/
def only {Value : Type} (name : String) (hash : Hash String Value) : Hash String Value :=
  Function.update (fun _ => none) name (hash name)

/-- Whatever else is in the queue and on whatever other connections, a pass leaves a
connection the statements and the counters of a pass over its own reports alone, in their
order and at the times the clock showed at them. -/
theorem session_alone (clock : Nat → Nat → String → CalendarTime) (rounds : Nat) (reports : List QueuedReport)
    (out_mapUpdate : OutMapUpdate) (conns : MapShConns) (name : String) :
    let own := (popped clock rounds reports).filter (·.1.order.sessionId = name)
    let all := getSHReport clock rounds reports out_mapUpdate conns
    let alone := getSHReport (shown clock own) own.length (own.map Prod.fst) (only name out_mapUpdate) (only name conns)
    own.map Prod.fst = (reports.take rounds).filter (·.order.sessionId = name) ∧ all.1 = reports.drop rounds ∧
      all.2.1 name = alone.2.1 name ∧ all.2.2 name = alone.2.2 name := by
  intro own all alone
  obtain ⟨left, folded⟩ := getSHReport_rounds clock rounds reports out_mapUpdate conns
  obtain ⟨-, single⟩ := getSHReport_rounds (shown clock own) own.length (own.map Prod.fst)
    (only name out_mapUpdate) (only name conns)
  rw [popped_shown] at single
  have begins : parts out_mapUpdate conns name = parts (only name out_mapUpdate) (only name conns) name := by
    simp only [parts, only, Function.update_self]
  have ends := foldl_own round_confined (popped clock rounds reports) begins
  rw [← folded] at ends
  have same : parts all.2.1 all.2.2 name = parts alone.2.1 alone.2.2 name := ends.trans (congrFun single name).symm
  refine ⟨?_, left, congrArg Prod.fst same, congrArg Prod.snd same⟩
  rw [← popped_fst clock rounds reports, List.filter_map]
  rfl

end Simutgw.Proofs.SessionPasses
