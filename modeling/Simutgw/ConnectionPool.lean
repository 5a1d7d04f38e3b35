import Mathlib.Algebra.BigOperators.Group.List.Basic
import Mathlib.Algebra.Order.Ring.Int

/-! The pools of connections to MySQL and to Redis. Both keep a list of idle
connections and a counter of those they made; they differ in how a connection is
made and in what makes an idle one useless. -/

namespace Simutgw

variable {Connection : Type}

/-- What making a connection meets: the code of the connect, which may be thrown
out of, and whether the statement sent right after it is answered well. -/
structure ConnectAttempt (Connection : Type) where
  connection : Connection
  connect : Option Int
  answered : Bool

structure IdleConnection (Connection : Type) where
  connection : Connection
  lastUseTime : Int

structure ConnectionPool (Connection : Type) where
  isInited : Bool := false
  curSize : Int := 0
  connList : List (IdleConnection Connection) := []

/-- What tells the two pools apart. An attempt may end the process. -/
structure PoolKind (Connection : Type) where
  legal : Bool
  maxSize : Int
  createConnection : ConnectAttempt Connection → Option (Option Connection)
  dead : (Connection → Bool) → Connection → Bool

namespace MysqlConnectionPool

structure Settings where
  sqlHost : String
  sqlUsername : String
  sqlPassword : String
  sqlPort : Nat
  sqlCatalog : String
  maxSize : Int

/-- An exception leaves the connection as it is, and it is returned. -/
def createConnection (settings : Settings) (attempt : ConnectAttempt Connection) : Option Connection :=
  match attempt.connect with
  | none => some attempt.connection
  | some code =>
    if code ≠ 0 then none
    else if ¬ settings.sqlCatalog.isEmpty ∧ ¬ attempt.answered then none
    else some attempt.connection

def kind (Connection : Type) (settings : Settings) : PoolKind Connection where
  legal := !(settings.sqlHost.isEmpty || settings.sqlUsername.isEmpty || settings.sqlPassword.isEmpty ||
    settings.sqlPort == 0)
  maxSize := settings.maxSize
  createConnection := fun attempt => some (createConnection settings attempt)
  dead := fun isClosed connection => isClosed connection

end MysqlConnectionPool

namespace RedisConnectionPool

structure Settings where
  redisHost : String
  redisPort : Nat
  requirePass : Bool
  maxSize : Int

/-- After a failed connect the password is sent over the null connection. -/
def createConnection (settings : Settings) (attempt : ConnectAttempt Connection) : Option (Option Connection) :=
  match attempt.connect with
  | none => some (some attempt.connection)
  | some code =>
    if code ≠ 0 then if settings.requirePass then none else some none
    else if settings.requirePass ∧ ¬ attempt.answered then some none
    else some (some attempt.connection)

def kind (Connection : Type) (settings : Settings) : PoolKind Connection where
  legal := !(settings.redisHost.isEmpty || settings.redisPort == 0)
  maxSize := settings.maxSize
  createConnection := createConnection settings
  dead := fun _ _ => false

end RedisConnectionPool

namespace ConnectionPool

/-- The seconds after which an idle connection is made anew. -/
def expireGap : Int := 60 * 60

/-- The attempts of the initialisation, one after the other; a failed one is skipped. -/
def addConn (kind : PoolKind Connection) (now : Int) :
    List (ConnectAttempt Connection) → ConnectionPool Connection → Option (ConnectionPool Connection)
  | [], pool => some pool
  | attempt :: attempts, pool =>
    match kind.createConnection attempt with
    | none => none
    | some none => addConn kind now attempts pool
    | some (some connection) =>
      addConn kind now attempts
        { pool with connList := pool.connList ++ [⟨connection, now⟩], curSize := pool.curSize + 1 }

/-- The first half of the connections is made at once. -/
def initialSize (kind : PoolKind Connection) : Nat := (kind.maxSize.tdiv 2).toNat

def init (kind : PoolKind Connection) (now : Int) (attempts : Nat → ConnectAttempt Connection)
    (pool : ConnectionPool Connection) : Option (ConnectionPool Connection) :=
  if pool.isInited then some pool
  else if ¬ kind.legal then some pool
  else
    (addConn kind now ((List.range (initialSize kind)).map attempts) pool).map fun pool =>
      { pool with isInited := true }

/-- The connection handed out, or null, and the pool. A useless idle connection
is replaced without being counted again, and counted off where it cannot be. -/
def getConnection (kind : PoolKind Connection) (now : Int) (isClosed : Connection → Bool)
    (attempt : ConnectAttempt Connection) (pool : ConnectionPool Connection) :
    Option (Option Connection × ConnectionPool Connection) :=
  match pool.connList with
  | idle :: rest =>
    let pool := { pool with connList := rest }
    if kind.dead isClosed idle.connection ∨ expireGap < now - idle.lastUseTime then
      match kind.createConnection attempt with
      | none => none
      | some none => some (none, { pool with curSize := pool.curSize - 1 })
      | some (some connection) => some (some connection, pool)
    else some (some idle.connection, pool)
  | [] =>
    if pool.curSize < kind.maxSize then
      match kind.createConnection attempt with
      | none => none
      | some none => some (none, pool)
      | some (some connection) => some (some connection, { pool with curSize := pool.curSize + 1 })
    else some (none, pool)

/-- The source warns that a null given back may upset the count. -/
def releaseConnection (now : Int) (connection : Option Connection) (pool : ConnectionPool Connection) :
    ConnectionPool Connection :=
  match connection with
  | none => { pool with curSize := pool.curSize - 1 }
  | some connection => { pool with connList := pool.connList ++ [⟨connection, now⟩] }

/-- A pool and what its callers hold of it, nulls among them. -/
structure Lending (Connection : Type) where
  pool : ConnectionPool Connection := {}
  held : List (Option Connection) := []

inductive Call (Connection : Type) where
  | init (now : Int) (attempts : Nat → ConnectAttempt Connection)
  | getConnection (now : Int) (isClosed : Connection → Bool) (attempt : ConnectAttempt Connection)
  | releaseConnection (now : Int) (connection : Option Connection)

/-- One call. Callers give back what they were given, once. -/
def step [DecidableEq Connection] (kind : PoolKind Connection) (lending : Lending Connection) :
    Call Connection → Option (Lending Connection)
  | .init now attempts => (init kind now attempts lending.pool).map fun pool => { lending with pool }
  | .getConnection now isClosed attempt =>
    (getConnection kind now isClosed attempt lending.pool).map fun given =>
      { pool := given.2, held := given.1 :: lending.held }
  | .releaseConnection now connection =>
    if connection ∈ lending.held then
      some { pool := releaseConnection now connection lending.pool, held := lending.held.erase connection }
    else none

end ConnectionPool
end Simutgw
