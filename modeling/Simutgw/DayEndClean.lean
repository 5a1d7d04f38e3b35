import Mathlib.Algebra.BigOperators.Group.List.Basic
import Mathlib.Algebra.Order.Ring.Int

/-! The day's end. Three tables are copied to their old tables and then truncated, in
one transaction by the look of it; but a `TRUNCATE` ends the transaction before it
runs. What is not committed is gone when the connection goes back to its pool. -/

namespace Simutgw.DayEndClean

inductive Table where
  | orderMatch
  | newOrder
  | orderReport
  deriving DecidableEq, Repr

/-- What all sessions see of the tables and their old tables, what this session has
copied and not committed, and all that other sessions have inserted. -/
structure Tables (Row : Type) where
  live : Table → List Row
  old : Table → List Row
  copied : Table → List Row := fun _ => []
  inserted : Table → List Row := fun _ => []

/-- How a statement ends: done; refused before anything happened; stopped, a `TRUNCATE`
by then having committed; or done with its answer lost on the way. -/
inductive Outcome where
  | done
  | refused
  | stopped
  | lost
  deriving DecidableEq, Repr

/-- What other sessions insert before a statement, and how it ends. -/
structure Answer (Row : Type) where
  inserted : Table → List Row := fun _ => []
  outcome : Outcome := .done

variable {Row : Type}

namespace Tables

def insert (rows : Table → List Row) (tables : Tables Row) : Tables Row :=
  { tables with
    live := fun table => tables.live table ++ rows table
    inserted := fun table => tables.inserted table ++ rows table }

def commit (tables : Tables Row) : Tables Row :=
  { tables with old := fun table => tables.old table ++ tables.copied table, copied := fun _ => [] }

def rollBack (tables : Tables Row) : Tables Row := { tables with copied := fun _ => [] }

def copy (target : Table) (tables : Tables Row) : Tables Row :=
  { tables with
    copied := fun table => if table = target then tables.copied table ++ tables.live table else tables.copied table }

def truncate (target : Table) (tables : Tables Row) : Tables Row :=
  { tables with live := fun table => if table = target then [] else tables.live table }

end Tables

/-- Nobody looks at the result. -/
def startTransaction (answer : Answer Row) (tables : Tables Row) : Tables Row :=
  let tables := tables.insert answer.inserted
  match answer.outcome with
  | .done | .lost => tables.commit
  | .refused | .stopped => tables

/-- A copy that fails leaves the earlier ones; one whose answer is lost is lost with
the connection and all before it. -/
def moveDbdata (table : Table) (answer : Answer Row) (tables : Tables Row) : Int × Tables Row :=
  let tables := tables.insert answer.inserted
  match answer.outcome with
  | .done => (0, tables.copy table)
  | .refused | .stopped => (-1, tables)
  | .lost => (-1, tables.rollBack)

def truncateTable (table : Table) (answer : Answer Row) (tables : Tables Row) : Int × Tables Row :=
  let tables := tables.insert answer.inserted
  match answer.outcome with
  | .done => (0, tables.commit.truncate table)
  | .refused => (-1, tables)
  | .stopped => (-1, tables.commit)
  | .lost => (-1, tables.commit.truncate table)

def commit (answer : Answer Row) (tables : Tables Row) : Int × Tables Row :=
  let tables := tables.insert answer.inserted
  match answer.outcome with
  | .done => (0, tables.commit)
  | .refused | .stopped => (-1, tables)
  | .lost => (-1, tables.commit)

/-- The answers to the statements of one backup, in their order. -/
structure Answers (Row : Type) where
  start : Answer Row := {}
  moveMatch : Answer Row := {}
  moveNewOrder : Answer Row := {}
  moveReport : Answer Row := {}
  truncateNewOrder : Answer Row := {}
  truncateMatch : Answer Row := {}
  truncateReport : Answer Row := {}
  commit : Answer Row := {}

/-- The early return after each statement. -/
def andThen (result : Int × Tables Row) (next : Tables Row → Int × Tables Row) : Int × Tables Row :=
  if result.1 = 0 then next result.2 else (-1, result.2)

def backupDb (answers : Answers Row) (tables : Tables Row) : Int × Tables Row :=
  andThen (moveDbdata .orderMatch answers.moveMatch (startTransaction answers.start tables)) fun tables =>
  andThen (moveDbdata .newOrder answers.moveNewOrder tables) fun tables =>
  andThen (moveDbdata .orderReport answers.moveReport tables) fun tables =>
  andThen (truncateTable .newOrder answers.truncateNewOrder tables) fun tables =>
  andThen (truncateTable .orderMatch answers.truncateMatch tables) fun tables =>
  andThen (truncateTable .orderReport answers.truncateReport tables) fun tables =>
  commit answers.commit tables

def runDayEndClean (answers : Answers Row) (tables : Tables Row) : Int × Tables Row :=
  let (code, tables) := backupDb answers tables
  (if code ≠ 0 then -1 else 0, tables)

/-- The pool rolls back what it is given back. -/
def simutgwDayEnd (answers : Answers Row) (tables : Tables Row) : Int × Tables Row :=
  let (code, tables) := runDayEndClean answers tables
  (if code < 0 then -1 else 0, tables.rollBack)

end Simutgw.DayEndClean
