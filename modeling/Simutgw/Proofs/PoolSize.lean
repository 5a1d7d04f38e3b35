import Simutgw.ConnectionPool
import Simutgw.Logic.Runs
import Mathlib.Data.List.Count
import Mathlib.Tactic.Linarith

/-! The counter of a connection pool against the connections there are. Every call
but one keeps the two together: a null given back is counted off although nothing
was ever counted for it. -/

namespace Simutgw.ConnectionPool
open Logic

variable {Connection : Type}

/-- The connections callers hold; a null is none. -/
def handedOut (lending : Lending Connection) : Nat := lending.held.countP Option.isSome

structure Counted (kind : PoolKind Connection) (lending : Lending Connection) : Prop where
  every : lending.pool.curSize = lending.pool.connList.length + handedOut lending
  nonneg : 0 ≤ lending.pool.curSize
  bounded : lending.pool.curSize ≤ kind.maxSize

def Succeeds (kind : PoolKind Connection) (attempt : ConnectAttempt Connection) : Bool :=
  match kind.createConnection attempt with
  | some (some _) => true
  | _ => false

/-- The attempts of the initialisation that give a connection. -/
def succeeding (kind : PoolKind Connection) (attempts : Nat → ConnectAttempt Connection) : Nat :=
  ((List.range (initialSize kind)).map attempts).countP (Succeeds kind)

/-- What a call must meet: no null is given back, and the initialisation has room
beside the connections already made. -/
def Meets (kind : PoolKind Connection) (lending : Lending Connection) : Call Connection → Prop
  | .init _ attempts =>
    lending.pool.isInited ∨ ¬ kind.legal ∨ lending.pool.curSize + succeeding kind attempts ≤ kind.maxSize
  | .getConnection _ _ _ => True
  | .releaseConnection _ connection => connection ≠ none

theorem addConn_counts {kind : PoolKind Connection} {now : Int} {attempts : List (ConnectAttempt Connection)}
    {pool after : ConnectionPool Connection} (added : addConn kind now attempts pool = some after) :
    after.curSize = pool.curSize + attempts.countP (Succeeds kind) ∧
      after.connList.length = pool.connList.length + attempts.countP (Succeeds kind) := by
  induction attempts generalizing pool with
  | nil =>
    cases added
    simp
  | cons attempt attempts ih =>
    rw [List.countP_cons]
    unfold addConn at added
    split at added
    next => cases added
    next failed =>
      have fails : Succeeds kind attempt = false := by simp [Succeeds, failed]
      obtain ⟨size, idle⟩ := ih added
      simp [fails, size, idle]
    next made =>
      have succeeds : Succeeds kind attempt = true := by simp [Succeeds, made]
      obtain ⟨size, idle⟩ := ih added
      simp only [List.length_append, List.length_singleton] at size idle
      simp only [succeeds, if_true]
      omega

theorem init_counts {kind : PoolKind Connection} {now : Int} {attempts : Nat → ConnectAttempt Connection}
    {pool after : ConnectionPool Connection} (initialised : init kind now attempts pool = some after) :
    (after = pool ∧ (pool.isInited ∨ ¬ kind.legal)) ∨
      (¬ pool.isInited ∧ kind.legal ∧ after.curSize = pool.curSize + succeeding kind attempts ∧
        after.connList.length = pool.connList.length + succeeding kind attempts) := by
  unfold init at initialised
  split at initialised
  next done =>
    cases initialised
    exact .inl ⟨rfl, .inl done⟩
  next fresh =>
    split at initialised
    next illegal =>
      cases initialised
      exact .inl ⟨rfl, .inr illegal⟩
    next legal =>
      obtain ⟨filled, added, rfl⟩ := Option.map_eq_some_iff.mp initialised
      obtain ⟨size, idle⟩ := addConn_counts added
      exact .inr ⟨fresh, Decidable.not_not.mp legal, size, idle⟩

/-- What `getConnection` gives is counted, whether it was idle, made anew or made
in another's place; so is what it takes off. -/
theorem getConnection_counts {kind : PoolKind Connection} {now : Int} {isClosed : Connection → Bool}
    {attempt : ConnectAttempt Connection} {pool after : ConnectionPool Connection} {given : Option Connection}
    (got : getConnection kind now isClosed attempt pool = some (given, after)) :
    after.curSize - after.connList.length = pool.curSize - pool.connList.length + (if given.isSome then 1 else 0) ∧
      (after.curSize ≤ pool.curSize ∨ after.curSize ≤ kind.maxSize) := by
  unfold getConnection at got
  split at got
  next idle rest listed =>
    simp only [listed, List.length_cons]
    split at got
    next =>
      split at got
      next => cases got
      next =>
        cases got
        refine ⟨?_, .inl ?_⟩
        · simp; omega
        · simp
      next =>
        cases got
        refine ⟨?_, .inl (le_refl _)⟩
        simp
        omega
    next =>
      cases got
      refine ⟨?_, .inl (le_refl _)⟩
      simp
      omega
  next empty =>
    split at got
    next room =>
      split at got
      next => cases got
      next =>
        cases got
        exact ⟨by simp, .inl (le_refl _)⟩
      next =>
        cases got
        refine ⟨?_, .inr ?_⟩
        · simp; omega
        · exact room
    next =>
      cases got
      exact ⟨by simp, .inl (le_refl _)⟩

theorem handedOut_erase [DecidableEq Connection] {held : List (Option Connection)} {connection : Option Connection}
    (holds : connection ∈ held) :
    (held.erase connection).countP Option.isSome + (if connection.isSome then 1 else 0) =
      held.countP Option.isSome := by
  rw [(List.perm_cons_erase holds).countP_eq, List.countP_cons]

theorem counted_iff [DecidableEq Connection] {kind : PoolKind Connection} {before after : Lending Connection}
    {call : Call Connection} (counted : Counted kind before) (taken : step kind before call = some after) :
    Counted kind after ↔ Meets kind before call := by
  obtain ⟨every, nonneg, bounded⟩ := counted
  cases call with
  | init now attempts =>
    obtain ⟨pool, initialised, rfl⟩ := Option.map_eq_some_iff.mp taken
    cases init_counts initialised with
    | inl same =>
      obtain ⟨rfl, nothing⟩ := same
      refine iff_of_true ⟨every, nonneg, bounded⟩ ?_
      exact nothing.imp id .inl
    | inr filled =>
      obtain ⟨fresh, legal, size, idle⟩ := filled
      simp only [Meets, fresh, legal, not_true_eq_false, false_or, Bool.false_eq_true]
      rw [← size]
      constructor
      · intro counted
        exact counted.bounded
      · intro room
        refine ⟨?_, ?_, room⟩
        · simp only [handedOut] at every ⊢
          omega
        · simp only
          omega
  | getConnection now isClosed attempt =>
    obtain ⟨⟨given, pool⟩, got, rfl⟩ := Option.map_eq_some_iff.mp taken
    obtain ⟨balance, bound⟩ := getConnection_counts got
    refine iff_of_true ?_ trivial
    have holds : (handedOut { pool, held := given :: before.held } : Int) =
        handedOut before + (if given.isSome then 1 else 0) := by
      simp only [handedOut, List.countP_cons, Nat.cast_add, Nat.cast_ite, Nat.cast_one, Nat.cast_zero]
    refine ⟨?_, ?_, ?_⟩
    · rw [holds]
      simp only
      omega
    · simp only
      split at balance <;> omega
    · simp only
      omega
  | releaseConnection now connection =>
    simp only [step] at taken
    split at taken
    next holds =>
      cases taken
      have fewer := handedOut_erase holds
      cases connection with
      | none =>
        refine iff_of_false ?_ (by simp [Meets])
        intro counted
        have every' := counted.every
        simp only [handedOut, releaseConnection, Option.isSome_none, Bool.false_eq_true, if_false] at every every' fewer
        omega
      | some connection =>
        refine iff_of_true ⟨?_, nonneg, bounded⟩ (by simp [Meets])
        simp only [handedOut, releaseConnection, Option.isSome_some, if_true, List.length_append,
          List.length_singleton, Nat.cast_add, Nat.cast_one] at every fewer ⊢
        omega
    next => cases taken

/-- The calls on a pool that keep it counted, and those that may. -/
def Keeping [DecidableEq Connection] (kind : PoolKind Connection) : Steps (Lending Connection) (Call Connection) :=
  fun before call after => step kind before call = some after ∧ Counted kind after

def Meeting [DecidableEq Connection] (kind : PoolKind Connection) : Steps (Lending Connection) (Call Connection) :=
  Steps.guarded (fun before call after => step kind before call = some after) (Meets kind)

theorem counted_start (kind : PoolKind Connection) : Counted kind {} ↔ 0 ≤ kind.maxSize := by
  constructor
  · intro counted
    exact counted.bounded
  · intro room
    exact ⟨rfl, le_refl _, room⟩

theorem keeping_iff_meeting [DecidableEq Connection] (kind : PoolKind Connection)
    (calls : List (Call Connection)) (last : Lending Connection) :
    (Counted kind {} ∧ Run (Keeping kind) {} calls last) ↔ (0 ≤ kind.maxSize ∧ Run (Meeting kind) {} calls last) := by
  rw [← counted_start]
  apply and_congr_right
  intro counted
  exact Run.kept_iff_guarded (fun _ _ _ counted taken => counted_iff counted taken) counted

/-- The two pools' counters say what there is, in every state of a run, exactly
where no null is given back and the initialisation finds room. -/
theorem pool_size_counts_connections [DecidableEq Connection] (mysql : MysqlConnectionPool.Settings)
    (redis : RedisConnectionPool.Settings) (calls : List (Call Connection)) (last : Lending Connection) :
    ((Counted (MysqlConnectionPool.kind Connection mysql) {} ∧
        Run (Keeping (MysqlConnectionPool.kind Connection mysql)) {} calls last) ↔
      (0 ≤ mysql.maxSize ∧ Run (Meeting (MysqlConnectionPool.kind Connection mysql)) {} calls last)) ∧
    ((Counted (RedisConnectionPool.kind Connection redis) {} ∧
        Run (Keeping (RedisConnectionPool.kind Connection redis)) {} calls last) ↔
      (0 ≤ redis.maxSize ∧ Run (Meeting (RedisConnectionPool.kind Connection redis)) {} calls last)) :=
  ⟨keeping_iff_meeting _ calls last, keeping_iff_meeting _ calls last⟩

def refusing : ConnectAttempt Nat := { connection := 0, connect := some 1, answered := false }

def unreachable : MysqlConnectionPool.Settings where
  sqlHost := "127.0.0.1"
  sqlUsername := "simutgw"
  sqlPassword := "simutgw"
  sqlPort := 3306
  sqlCatalog := "simutgw"
  maxSize := 10

/-- The repeat check asks for a connection, gets none and gives the none back. -/
theorem null_given_back_is_counted_off :
    ∃ last, Run (fun before call after => step (MysqlConnectionPool.kind Nat unreachable) before call = some after)
        {} [.getConnection 0 (fun _ => false) refusing, .releaseConnection 0 none] last ∧
      last.pool.curSize = -1 ∧ last.pool.connList.length = 0 ∧ handedOut last = 0 ∧
      ¬ Counted (MysqlConnectionPool.kind Nat unreachable) last := by
  refine ⟨{ pool := { curSize := -1 } }, Run.of_foldlM rfl, rfl, rfl, rfl, ?_⟩
  intro counted
  exact absurd counted.nonneg (by decide)

end Simutgw.ConnectionPool
