import Simutgw.Logic.Runs
import Simutgw.ReportOutlet

/-! What is pushed for a counterparty reaches it in order, or waits. A popped report
has left the buffer before anything is built or sent, so each failure on its way
loses it; the condition on each event is exact. -/

namespace Simutgw.ReportOutlet
open Logic

/-- The reports the present pass holds for a session, with all their statements. -/
def held (outlet : ReportOutlet) (session : String) : List ShReport :=
  ((outlet.mapUpdate.groups session).filter Group.whole).map Group.report

def waiting (outlet : ReportOutlet) (session : String) : List ShReport :=
  outlet.shBuffer.filter fun report => report.order.sessionId = session

/-- What reached each counterparty, and then what is buffered or in hand for it, is
what was pushed for it, each once and in order. -/
structure Accounted (outlet : ReportOutlet) : Prop where
  sz : ∀ name, outlet.szSent name ++ outlet.gateway.queues name = outlet.szPushed name
  sh : ∀ session, outlet.shSent session ++ held outlet session ++ waiting outlet session = outlet.shPushed session

/-- The message is complete and sent; the statements are complete, and all are
executed and committed. -/
def Meets (sz : SzSetting) (sh : ShSetting) (outlet : ReportOutlet) : Event → Prop
  | .szTurn name transId sends => ∀ report sending, popped sz outlet.gateway name transId = some (report, sending) →
      sending.code = 0 ∧ sends = true
  | .shRound cjbh => ∀ report rest, outlet.shBuffer = report :: rest → outlet.rounds < 20000 →
      (ReportMsgSh.building sh report cjbh).1 = 0 ∧ (ReportMsgSh.building sh report cjbh).2 ≠ []
  | .shEnd answers => (outlet.shBuffer.isEmpty || outlet.rounds == 20000) = true →
      ∀ name ∈ outlet.mapUpdate.names, answers.connects name = true ∧ answers.commits name = true ∧
        ∀ place, place < ((outlet.mapUpdate.groups name).flatMap Group.sqls).length →
          answers.execs name place = true
  | .logOn _ | .logOut _ | .reportSynchronization _ | .pushSz _ | .pushSh _ => True

/-- The pass's statements, as lawful rounds collect them. -/
structure Formed (update : MapUpdate) : Prop where
  nodup : update.names.Nodup
  unlisted : ∀ name, name ∉ update.names → update.groups name = []
  listed : ∀ name ∈ update.names, update.groups name ≠ []
  whole : ∀ name, ∀ group ∈ update.groups name, group.whole = true ∧ group.sqls ≠ []

theorem formed_empty : Formed {} :=
  ⟨.nil, fun _ _ => rfl, fun _ member => (nomatch member), fun _ _ member => nomatch member⟩

theorem insert_groups (update : MapUpdate) (group : Group) :
    (update.insert group).groups = Function.update update.groups group.report.order.sessionId
      (update.groups group.report.order.sessionId ++ [group]) := rfl

theorem Formed.insert {update : MapUpdate} {group : Group} (formed : Formed update) (whole : group.whole = true)
    (filled : group.sqls ≠ []) : Formed (update.insert group) := by
  have names (name : String) : name ∈ (update.insert group).names ↔
      name = group.report.order.sessionId ∨ name ∈ update.names := by
    unfold MapUpdate.insert
    simp only
    split
    next known =>
      constructor
      · exact .inr
      · rintro (rfl | member)
        · exact known
        · exact member
    next => exact List.mem_orderedInsert _
  refine ⟨?_, fun name unlisted => ?_, fun name listed => ?_, fun name => ?_⟩
  · unfold MapUpdate.insert
    simp only
    split
    next => exact formed.nodup
    next unknown => exact (List.perm_orderedInsert _ _ _).nodup_iff.mpr (List.nodup_cons.mpr ⟨unknown, formed.nodup⟩)
  · rw [names, not_or] at unlisted
    rw [insert_groups, Function.update_of_ne unlisted.1]
    exact formed.unlisted name unlisted.2
  · by_cases same : name = group.report.order.sessionId
    · subst same
      simp [MapUpdate.insert]
    · rw [insert_groups, Function.update_of_ne same]
      exact formed.listed name (((names name).mp listed).resolve_left same)
  · by_cases same : name = group.report.order.sessionId
    · subst same
      simp only [insert_groups, Function.update_self, List.mem_append, List.mem_singleton]
      rintro other (member | rfl)
      · exact formed.whole _ _ member
      · exact ⟨whole, filled⟩
    · rw [insert_groups, Function.update_of_ne same]
      exact formed.whole name

section Turns

variable {setting : SzSetting} {gateway : SzGateway} {name transId : String}

theorem sendMsg_queues (gateway : SzGateway) (message : FixMessage) :
    (gateway.sendMsg message).queues = gateway.queues := by
  unfold SzGateway.sendMsg
  split <;> rfl

theorem turn_popped {report : SzReport} {sending : Sending}
    (found : popped setting gateway name transId = some (report, sending)) :
    ∃ rest, gateway.queues name = report :: rest ∧
      (gateway.turn setting name transId).2.queues = Function.update gateway.queues name rest := by
  unfold popped at found
  split at found
  next conn head rest known front =>
    split at found
    next ready =>
      cases found
      simp only [Bool.and_eq_true, Bool.not_eq_true'] at ready
      refine ⟨rest, front, ?_⟩
      simp only [SzGateway.turn, known, ready.1.1, ready.1.2, Bool.and_self, if_true, ready.2, Bool.false_eq_true,
        if_false, front]
      split
      next => exact sendMsg_queues _ _
      next =>
        split
        next => rfl
        next => rfl
    next => cases found
  next => cases found

theorem turn_idle (idle : popped setting gateway name transId = none) :
    (gateway.turn setting name transId).2.queues = gateway.queues := by
  unfold popped at idle
  unfold SzGateway.turn
  cases known : gateway.conns name with
  | none => rfl
  | some conn =>
    simp only
    split
    next ready =>
      split
      next => rfl
      next named =>
        cases front : gateway.queues name with
        | nil => rfl
        | cons report rest => simp [known, front, ready, named] at idle
    next =>
      split
      next => rfl
      next => rfl

end Turns

section Sections

theorem executed_length_le (execs : Nat → Bool) (place : Nat) (groups : List Group) :
    (executed execs place groups).length ≤ groups.length := by
  induction groups generalizing place with
  | nil => exact Nat.le_refl _
  | cons group groups ih =>
    have rest := ih (place + group.sqls.length)
    simp only [executed]
    split
    next => exact Nat.succ_le_succ rest
    next => exact Nat.le_succ_of_le rest

theorem executed_iff (execs : Nat → Bool) (place : Nat) {groups : List Group}
    (whole : ∀ group ∈ groups, group.whole = true) :
    executed execs place groups = groups.map Group.report ↔
      ∀ i, i < (groups.flatMap Group.sqls).length → execs (place + i) = true := by
  induction groups generalizing place with
  | nil => simp [executed]
  | cons group groups ih =>
    obtain ⟨here, later⟩ := List.forall_mem_cons.mp whole
    have rest := ih (place + group.sqls.length) later
    simp only [executed, here, Bool.true_and, List.all_eq_true, List.mem_range, List.map_cons, List.flatMap_cons,
      List.length_append]
    split
    next done =>
      rw [List.cons.injEq, eq_self_iff_true, true_and, rest]
      constructor
      · intro others i inside
        by_cases own : i < group.sqls.length
        · exact done i own
        · have other := others (i - group.sqls.length) (by omega)
          rwa [show place + group.sqls.length + (i - group.sqls.length) = place + i by omega] at other
      · intro all i inside
        have one := all (group.sqls.length + i) (by omega)
        rwa [← Nat.add_assoc] at one
    next failed =>
      constructor
      · intro same
        have short := executed_length_le execs (place + group.sqls.length) groups
        rw [same] at short
        simp at short
      · intro all
        exact absurd (fun i own => all i (by omega)) failed

variable {answers : ShAnswers} {groups : String → List Group} {names : List String}

theorem sendSections_frame (sent : String → List ShReport) {name : String} (elsewhere : name ∉ names) :
    sendSections answers groups sent names name = sent name := by
  induction names generalizing sent with
  | nil => rfl
  | cons head names ih =>
    rw [List.mem_cons, not_or] at elsewhere
    obtain ⟨different, elsewhere⟩ := elsewhere
    simp only [sendSections]
    split
    next => exact ih sent elsewhere
    next =>
      split
      next => rw [ih _ elsewhere, Function.update_of_ne different]
      next => rfl

/-- Every connection with statements is reached and committed, and all of them executed. -/
theorem sendSections_iff (sent : String → List ShReport) (nodup : names.Nodup)
    (listed : ∀ name ∈ names, groups name ≠ []) :
    (∀ name, sendSections answers groups sent names name =
        sent name ++ if name ∈ names then (groups name).map Group.report else []) ↔
      ∀ name ∈ names, answers.connects name = true ∧ answers.commits name = true ∧
        executed (answers.execs name) 0 (groups name) = (groups name).map Group.report := by
  induction names generalizing sent with
  | nil => simp [sendSections]
  | cons head names ih =>
    obtain ⟨once, nodup⟩ := List.nodup_cons.mp nodup
    obtain ⟨filled, listed⟩ := List.forall_mem_cons.mp listed
    have some : (groups head).map Group.report ≠ [] := by simpa using filled
    rw [List.forall_mem_cons]
    simp only [sendSections, List.isEmpty_iff, filled, if_false]
    cases connects : answers.connects head with
    | false =>
      refine iff_of_false (fun all => ?_) (by simp)
      have here := all head
      simp only [Bool.false_eq_true, if_false, List.mem_cons, true_or, if_true, List.self_eq_append_right] at here
      exact some here
    | true =>
      simp only [if_true, true_and]
      rw [← ih _ nodup listed]
      constructor
      · intro all
        have here := all head
        rw [sendSections_frame _ once, Function.update_self, if_pos List.mem_cons_self, List.append_cancel_left_eq] at here
        refine ⟨?_, fun name => ?_⟩
        · cases commits : answers.commits head with
          | true => exact ⟨rfl, by simpa [commits] using here⟩
          | false => exact absurd (by simpa [commits] using here.symm) some
        · by_cases same : name = head
          · subst same
            rw [sendSections_frame _ once, if_neg once, List.append_nil]
          · rw [all name, Function.update_of_ne same]
            simp [same]
      · rintro ⟨⟨commits, done⟩, rest⟩ name
        rw [rest name]
        by_cases same : name = head
        · subst same
          simp [once, commits, done]
        · rw [Function.update_of_ne same]
          simp [same]

end Sections

section Steps

variable {sz : SzSetting} {sh : ShSetting} {outlet : ReportOutlet}

theorem sz_turn_iff (accounted : Accounted outlet) (name transId : String) (sends : Bool) :
    Accounted (outlet.sendSZReport sz name transId sends) ↔ Meets sz sh outlet (.szTurn name transId sends) := by
  unfold Meets
  cases found : popped sz outlet.gateway name transId with
  | none =>
    refine iff_of_true ⟨fun other => ?_, accounted.sh⟩ (fun _ _ taken => nomatch found.symm.trans taken)
    simp only [sendSZReport, found, turn_idle found]
    exact accounted.sz other
  | some taken =>
    obtain ⟨report, sending⟩ := taken
    obtain ⟨rest, front, queues⟩ := turn_popped found
    have before := accounted.sz name
    rw [front] at before
    by_cases done : sending.code = 0 ∧ sends = true
    · refine iff_of_true ⟨fun other => ?_, accounted.sh⟩ ?_
      · simp only [sendSZReport, found, queues, if_pos done]
        by_cases same : other = name
        · subst same
          rw [Function.update_self, Function.update_self, ← before, List.append_assoc, List.singleton_append]
        · rw [Function.update_of_ne same, Function.update_of_ne same]
          exact accounted.sz other
      · intro other message taken
        cases found.symm.trans taken
        exact done
    · refine iff_of_false (fun after => ?_) (fun meets => done (meets _ _ found))
      have here := after.sz name
      simp only [sendSZReport, found, queues, if_neg done, Function.update_self] at here
      have lengths := congrArg List.length (here.trans before.symm)
      simp at lengths

theorem held_insert (before : ReportOutlet) (group : Group) {after : ReportOutlet}
    (inserted : after.mapUpdate = before.mapUpdate.insert group) (session : String) :
    held after session = held before session ++
      if group.whole = true ∧ group.report.order.sessionId = session then [group.report] else [] := by
  unfold held
  rw [inserted, insert_groups]
  by_cases same : group.report.order.sessionId = session
  · subst same
    cases whole : group.whole <;> simp [whole]
  · have other : session ≠ group.report.order.sessionId := Ne.symm same
    simp [same, other]

theorem waiting_cons {report : ShReport} {rest : List ShReport} (front : outlet.shBuffer = report :: rest)
    (session : String) :
    waiting outlet session = (if report.order.sessionId = session then [report] else []) ++
      rest.filter fun report => report.order.sessionId = session := by
  unfold waiting
  rw [front, List.filter_cons]
  simp only [decide_eq_true_eq]
  split
  next => rfl
  next => rfl

theorem sh_round_iff (accounted : Accounted outlet) (cjbh : String) :
    Accounted (outlet.getSHReport sh cjbh) ↔ Meets sz sh outlet (.shRound cjbh) := by
  unfold Meets getSHReport
  cases front : outlet.shBuffer with
  | nil => exact iff_of_true accounted (fun _ _ none => nomatch none)
  | cons report rest =>
    by_cases allowed : outlet.rounds < 20000
    · obtain ⟨⟨code, sqls⟩, built⟩ : ∃ building, ReportMsgSh.building sh report cjbh = building := ⟨_, rfl⟩
      simp only [if_pos allowed, built, List.isEmpty_iff]
      have before (session : String) := accounted.sh session
      simp only [waiting_cons front] at before
      by_cases empty : sqls = []
      · rw [if_pos empty]
        refine iff_of_false (fun after => ?_) (fun meets => ?_)
        · have here := after.sh report.order.sessionId
          rw [← before, if_pos rfl] at here
          have lengths := congrArg List.length here
          simp [held, waiting] at lengths
        · obtain ⟨-, filled⟩ := meets report rest rfl allowed
          rw [built] at filled
          exact filled empty
      · rw [if_neg empty]
        by_cases whole : code = 0
        · refine iff_of_true ⟨accounted.sz, fun session => ?_⟩ ?_
          · rw [held_insert outlet ⟨report, code == 0, sqls⟩ rfl, ← before session]
            simp [whole, waiting]
          · rintro _ _ ⟨⟩ -
            rw [built]
            exact ⟨whole, empty⟩
        · refine iff_of_false (fun after => ?_) (fun meets => ?_)
          · have here := after.sh report.order.sessionId
            rw [held_insert outlet ⟨report, code == 0, sqls⟩ rfl, ← before, if_pos rfl] at here
            have lengths := congrArg List.length here
            simp [whole, waiting] at lengths
          · obtain ⟨done, -⟩ := meets report rest rfl allowed
            rw [built] at done
            exact whole done
    · simp only [if_neg allowed]
      exact iff_of_true accounted (fun _ _ _ below => absurd below allowed)

theorem held_formed (formed : Formed outlet.mapUpdate) (session : String) :
    held outlet session =
      if session ∈ outlet.mapUpdate.names then (outlet.mapUpdate.groups session).map Group.report else [] := by
  unfold held
  rw [List.filter_eq_self.mpr fun group member => (formed.whole session group member).1]
  split
  next => rfl
  next unlisted => rw [formed.unlisted session unlisted, List.map_nil]

theorem sh_end_iff (accounted : Accounted outlet) (formed : Formed outlet.mapUpdate) (answers : ShAnswers) :
    Accounted (outlet.sendSHReportOrConfirm answers) ↔ Meets sz sh outlet (.shEnd answers) := by
  unfold Meets sendSHReportOrConfirm
  by_cases full : (outlet.shBuffer.isEmpty || outlet.rounds == 20000) = true
  · rw [if_pos full]
    have sections := @sendSections_iff answers _ _ outlet.shSent formed.nodup formed.listed
    have sent (session : String) :
        sendSections answers outlet.mapUpdate.groups outlet.shSent outlet.mapUpdate.names session ++ [] ++
            waiting outlet session = outlet.shPushed session ↔
          sendSections answers outlet.mapUpdate.groups outlet.shSent outlet.mapUpdate.names session =
            outlet.shSent session ++ if session ∈ outlet.mapUpdate.names then
              (outlet.mapUpdate.groups session).map Group.report else [] := by
      rw [← accounted.sh session, held_formed formed, List.append_nil, List.append_cancel_right_eq]
    constructor
    · intro after _ name listed
      obtain ⟨connects, commits, done⟩ := sections.mp (fun session => (sent session).mp (after.sh session)) name listed
      have whole := fun group member => (formed.whole name group member).1
      have all := (executed_iff _ _ whole).mp done
      simp only [Nat.zero_add] at all
      exact ⟨connects, commits, all⟩
    · intro meets
      refine ⟨accounted.sz, fun session => (sent session).mpr ?_⟩
      refine sections.mpr (fun name listed => ?_) session
      obtain ⟨connects, commits, all⟩ := meets full name listed
      have whole := fun group member => (formed.whole name group member).1
      refine ⟨connects, commits, (executed_iff _ _ whole).mpr ?_⟩
      simp only [Nat.zero_add]
      exact all
  · rw [if_neg full]
    exact iff_of_true accounted (fun now => absurd now full)

theorem pushBackSz_accounted (accounted : Accounted outlet) (report : SzReport) :
    Accounted (outlet.pushBackSz report) := by
  refine ⟨fun name => ?_, accounted.sh⟩
  have before := accounted.sz name
  unfold pushBackSz SzGateway.pushBack
  simp only
  split
  next => exact before
  next =>
    by_cases same : name = report.order.senderCompID
    · subst same
      simp only [Function.update_self]
      rw [← List.append_assoc, before]
    · simp only [Function.update_of_ne same]
      exact before

theorem pushBackSh_accounted (accounted : Accounted outlet) (report : ShReport) :
    Accounted (outlet.pushBackSh report) := by
  unfold pushBackSh
  split
  next =>
    refine ⟨accounted.sz, fun session => ?_⟩
    have before := accounted.sh session
    simp only [waiting, held, List.filter_append, ← List.append_assoc] at before ⊢
    rw [before]
    by_cases same : session = report.order.sessionId
    · subst same
      simp
    · have other : report.order.sessionId ≠ session := Ne.symm same
      simp [same, other]
  next => exact accounted

theorem logOut_queues (gateway : SzGateway) (name : String) : (gateway.procLogOut name).queues = gateway.queues := by
  unfold SzGateway.procLogOut
  split <;> rfl

theorem reportSynchronization_queues (gateway : SzGateway) (message : FixMessage) :
    (gateway.reportSynchronization message).queues = gateway.queues := by
  unfold SzGateway.reportSynchronization
  split
  next => split <;> rfl
  next => rfl

theorem step_iff (accounted : Accounted outlet) (formed : Formed outlet.mapUpdate) (event : Event) :
    Accounted (step sz sh outlet event) ↔ Meets sz sh outlet event := by
  have unmoved {gateway : SzGateway} (queues : gateway.queues = outlet.gateway.queues) :
      Accounted { outlet with gateway } := ⟨fun name => by rw [queues, accounted.sz], accounted.sh⟩
  cases event with
  | logOn name => exact iff_of_true (unmoved rfl) trivial
  | logOut name => exact iff_of_true (unmoved (logOut_queues _ _)) trivial
  | reportSynchronization message => exact iff_of_true (unmoved (reportSynchronization_queues _ _)) trivial
  | pushSz report => exact iff_of_true (pushBackSz_accounted accounted report) trivial
  | pushSh report => exact iff_of_true (pushBackSh_accounted accounted report) trivial
  | szTurn name transId sends => exact sz_turn_iff accounted name transId sends
  | shRound cjbh => exact sh_round_iff accounted cjbh
  | shEnd answers => exact sh_end_iff accounted formed answers

theorem step_formed (formed : Formed outlet.mapUpdate) {event : Event} (meets : Meets sz sh outlet event) :
    Formed (step sz sh outlet event).mapUpdate := by
  cases event with
  | logOn _ | logOut _ | reportSynchronization _ | pushSz _ | szTurn _ _ _ => exact formed
  | pushSh report =>
    simp only [step, pushBackSh]
    split
    next => exact formed
    next => exact formed
  | shRound cjbh =>
    simp only [step, getSHReport]
    split
    next => exact formed
    next report rest front =>
      split
      next allowed =>
        obtain ⟨whole, filled⟩ := meets report rest front allowed
        simp only [List.isEmpty_iff, filled, if_false]
        exact formed.insert (by simp [whole]) filled
      next => exact formed
  | shEnd answers =>
    simp only [step, sendSHReportOrConfirm]
    split
    next => exact formed_empty
    next => exact formed

end Steps

/-- Over the runs of producers and loops from the empty buffer, every report is sent
once or still there at each moment exactly where each popped report's message is built
and sent, and all its statements are built, executed and committed. -/
theorem none_lost_iff (sz : SzSetting) (sh : ShSetting) (events : List Event) (last : ReportOutlet) :
    Run (fun before event after => step sz sh before event = after ∧ Accounted after) {} events last ↔
      Run (Steps.guarded (fun before event after => step sz sh before event = after) (Meets sz sh)) {} events last := by
  have start : Accounted {} ∧ Formed {} := ⟨⟨fun _ => rfl, fun _ => rfl⟩, formed_empty⟩
  have holds := @Run.lawful_iff_guarded _ _ (fun before event after => step sz sh before event = after) {} last events
    (fun outlet => Accounted outlet ∧ Formed outlet.mapUpdate) (fun _ _ after => Accounted after) (Meets sz sh)
  refine holds ?_ ?_ start
  · rintro before event _ ⟨accounted, formed⟩ rfl
    exact step_iff accounted formed event
  · rintro before event _ ⟨accounted, formed⟩ rfl after
    exact ⟨after, step_formed formed ((step_iff accounted formed event).mp after)⟩

/-- The confirmation of a new order of one session of Shanghai's. -/
def confirmation : ShReport where
  order := {
    msgType := Step.msgTypeNewOrder
    tradeMarket := tradeMarketSh
    sessionId := "A"
    transactTime := "20160104-09:30:00.000" }

def plainSz : SzSetting where
  ver110 := false
  resolveElement := fun _ _ => none

def plainSh : ShSetting where
  sessions := fun name => name == "A"
  resolveRule := fun _ _ => false

/-- The confirmation is popped and built, and the database cannot be reached. -/
def unreached : List Event :=
  [.pushSh confirmation, .shRound "1",
    .shEnd { connects := fun _ => false, execs := fun _ _ => true, commits := fun _ => true }]

theorem confirmation_lost :
    ¬ ∀ (sz : SzSetting) (sh : ShSetting) (events : List Event) (last : ReportOutlet),
        Run (fun before event after => step sz sh before event = after) {} events last → Accounted last := by
  intro accounted
  have run := Run.of_foldl (step plainSz plainSh) {} unreached
  have after := (accounted _ _ _ _ run).sh "A"
  have pushed : (unreached.foldl (step plainSz plainSh) {}).shPushed "A" = [confirmation] := rfl
  have sent : (unreached.foldl (step plainSz plainSh) {}).shSent "A" = [] := rfl
  have hand : held (unreached.foldl (step plainSz plainSh) {}) "A" = [] := rfl
  have buffered : waiting (unreached.foldl (step plainSz plainSh) {}) "A" = [] := rfl
  rw [pushed, sent, hand, buffered] at after
  cases after

end Simutgw.ReportOutlet
