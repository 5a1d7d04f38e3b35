import Simutgw.Proofs.OrderPolling
import Simutgw.Proofs.RowNumbers

/-! A poll as one call and as its steps. Taken alone, with no report in between, the
steps leave the two counters as the call leaves them. -/

namespace Simutgw.ShConnection.Threads
open TgwStringUtil OTLConn40240 OrdwthDesk ShDbfOrderHelper Logic

variable {sessions : String → Bool} {threads : Threads} {fuel : Nat}

/-- Steps of the poll alone lead from one point to another. -/
def Polled (sessions : String → Bool) (threads : Threads) (conn : ShConnection) (poll : PollPoint) : Prop :=
  ∃ events handed, Run (Taken sessions) threads events { threads with conn, poll, handed }

theorem Polled.refl (threads : Threads) : Polled sessions threads threads.conn threads.poll :=
  ⟨[], threads.handed, .nil _⟩

theorem Polled.cons (event : Event) {conn next : ShConnection} {poll last : PollPoint} {handed : Bool}
    (taken : threads.step sessions event = some { threads with conn, poll, handed })
    (rest : Polled sessions { threads with conn, poll, handed } next last) : Polled sessions threads next last := by
  obtain ⟨events, handed', run⟩ := rest
  exact ⟨event :: events, handed', .cons taken run⟩

theorem Polled.trans {conn next : ShConnection} {poll last : PollPoint} (front : Polled sessions threads conn poll)
    (back : ∀ handed, Polled sessions { threads with conn, poll, handed } next last) :
    Polled sessions threads next last := by
  obtain ⟨events, handed, run⟩ := front
  obtain ⟨more, handed', rest⟩ := back handed
  exact ⟨events ++ more, handed', run.append rest⟩

theorem set_get (conn : ShConnection) (counter : Counter) : conn.set counter (conn.get counter) = conn := by
  cases counter <;> rfl

theorem ask_polled {counter : Counter} {column : String} {answers : QueryAnswers} {num : UInt64}
    (point : threads.poll = .look counter)
    (answer : askNumber fuel (threads.conn.get counter) column answers = some (some num)) :
    Polled sessions threads (threads.conn.set counter num) (past counter) := by
  unfold askNumber at answer
  split at answer
  next known =>
    have same := Option.some.inj (Option.some.inj answer)
    rw [← same, set_get]
    apply Polled.cons .look (by simp only [step, look, point, if_neg known]; rfl)
    exact .refl _
  next unknown =>
    have zero : threads.conn.get counter = 0 := by
      by_contra known
      exact unknown known
    split at answer
    next => cases answer
    next =>
      obtain ⟨rows, -, read⟩ := Option.map_eq_some_iff.mp answer
      have read := Option.some.inj read
      apply Polled.cons .look (by simp only [step, look, point, if_pos zero]; rfl)
      apply Polled.cons (.query (some ((rows.getLast?.map fun data => data.value column).getD ""))) rfl
      apply Polled.cons .set rfl
      simp only [read]
      exact .refl _

theorem ask_stopped {counter : Counter} {column : String} {answers : QueryAnswers}
    (point : threads.poll = .look counter)
    (answer : askNumber fuel (threads.conn.get counter) column answers = some none) :
    Polled sessions threads threads.conn polled := by
  unfold askNumber at answer
  split at answer
  next => cases Option.some.inj answer
  next unknown =>
    have zero : threads.conn.get counter = 0 := by
      by_contra known
      exact unknown known
    split at answer
    next =>
      apply Polled.cons .look (by simp only [step, look, point, if_pos zero]; rfl)
      apply Polled.cons (.query none) rfl
      exact .refl _
    next =>
      obtain ⟨rows, -, read⟩ := Option.map_eq_some_iff.mp answer
      cases read

theorem takeRow_recNum (answers : PollAnswers) (desk : OrdwthDesk) (fetched : RowData × Nat) :
    (takeRow answers desk fetched).recNum =
      if desk.recNum = 0 then string2UInt64 (fetched.1.value "rec_num") + 1 else desk.recNum := by
  rw [← handOn_recNum answers.setting]
  unfold takeRow
  simp only
  split
  next => rfl
  next => split <;> rfl

/-- The loop sets the counter from its rows while it is zero. -/
theorem rows_polled (answers : PollAnswers) (rows : List (RowData × Nat)) (desk : OrdwthDesk)
    (point : threads.poll = .rows) (same : threads.conn.recNum = desk.recNum) :
    Polled sessions threads (threads.conn.setRecNum (rows.foldl (takeRow answers) desk).recNum) polled := by
  induction rows generalizing desk threads with
  | nil =>
    apply Polled.cons (.fetch none) (by simp only [step, fetch, point]; rfl)
    rw [List.foldl_nil, ← same]
    exact .refl _
  | cons row rows ih =>
    have read := takeRow_recNum answers desk row
    apply Polled.cons (.fetch (some (row.1.value "rec_num"))) (by simp only [step, fetch, point]; rfl)
    by_cases zero : desk.recNum = 0
    · rw [if_pos zero] at read
      rw [← same] at zero
      apply Polled.cons .look (by simp only [step, look, if_pos zero]; rfl)
      apply Polled.cons .set rfl
      exact ih (takeRow answers desk row) rfl read.symm
    · rw [if_neg zero] at read
      rw [← same] at zero
      apply Polled.cons .look (by simp only [step, look, if_neg zero]; rfl)
      exact ih (takeRow answers desk row) rfl (same.trans read.symm)

theorem shOrderToFix_numbers (answers : PollAnswers) (desk : OrdwthDesk) (rows : List RowData) :
    (⟨(shOrderToFix answers desk rows).cjbh, (shOrderToFix answers desk rows).recNum⟩ : ShConnection) =
      (⟨desk.cjbh, desk.recNum⟩ : ShConnection).setRecNum
        (rows.zipIdx.foldl (takeRow answers) { desk with polled := desk.polled + 1 }).recNum := by
  obtain ⟨recNum, taken⟩ := takeRows_eq answers rows.zipIdx { desk with polled := desk.polled + 1 }
  unfold shOrderToFix
  simp only [taken]
  split <;> rfl

/-- A poll as one call is a run of the poll's steps. -/
theorem poll_polled {desk after : OrdwthDesk} {answers : PollAnswers} (point : threads.poll = polled)
    (conn : threads.conn = ⟨desk.cjbh, desk.recNum⟩) (done : getOneConnSHOrder fuel answers desk = some after) :
    Polled sessions threads ⟨after.cjbh, after.recNum⟩ polled := by
  unfold getOneConnSHOrder at done
  have cjbh_point : threads.poll = .look .cjbh := point
  have cjbh_get : threads.conn.get .cjbh = desk.cjbh := by rw [conn]; rfl
  split at done
  next => cases done
  next first =>
    cases done
    rw [← cjbh_get] at first
    rw [← conn]
    exact ask_stopped cjbh_point first
  next cjbh first =>
    rw [← cjbh_get] at first
    apply (ask_polled cjbh_point first).trans
    intro handed
    have recNum_get : (threads.conn.set .cjbh cjbh).get .recNum = desk.recNum := by rw [conn]; rfl
    simp only at done
    split at done
    next => cases done
    next second =>
      cases done
      rw [← recNum_get] at second
      rw [conn] at second ⊢
      exact ask_stopped rfl second
    next recNum second =>
      rw [← recNum_get] at second
      apply (ask_polled rfl second).trans
      intro handed
      split at done
      next =>
        cases done
        apply Polled.cons (.orders false) rfl
        rw [conn]
        exact .refl _
      next =>
        obtain ⟨rows, -, rfl⟩ := Option.map_eq_some_iff.mp done
        apply Polled.cons (.orders true) rfl
        have conn_desk : (threads.conn.set .cjbh cjbh).set .recNum recNum = ⟨cjbh, recNum⟩ := by rw [conn]; rfl
        rw [conn_desk]
        rw [shOrderToFix_numbers]
        exact rows_polled answers rows.zipIdx { desk with cjbh, recNum, polled := desk.polled + 1 } rfl rfl

end Simutgw.ShConnection.Threads
