import SinkKeeper.Server.Basic

/-!
# Asking the catalog

Whether a database, table or column is there, and what tables and columns there are. That something is not
there is an answer, not an error.
-/

namespace SinkKeeper.Task

open SinkKeeper.Sql

variable {σ : Type} [Server σ]

def truthText (b : Bool) : String := (Json.bool b).shown

def fetch (d : Dialect) (sql : String) (params : Json.Fields) : Task σ (List Row) :=
  onFault FaultKind.isDriver (call (.query sql params)) fun f =>
    throw (.sink (.unanswered (d.name ++ " query failed: " ++ f.driverMessage) (some sql)))

def databaseExists (d : Dialect) (database : Json) : Task σ Bool := do
  let _ ← checkName "database" database
  let query := d.databaseExists database
  let rows ← fetch d query.sql query.params
  let found ← d.rowsContain rows database
  note .info ("check db exist for db=" ++ database.text ++ ", result=" ++ truthText found)
  return found

def tableExists (d : Dialect) (database table : Json) : Task σ Bool := do
  let _ ← checkName "database" database
  let _ ← checkName "table" table
  let query ← d.tableExists database table
  let rows ← fetch d query.sql query.params
  let found ← d.rowsContain rows table
  note .info ("check table exist for db=" ++ database.text ++ " table=" ++ table.text
    ++ ", result=" ++ truthText found)
  return found

/-- The columns of a table, as the engine reports them. -/
def columns (d : Dialect) (database table : Json) : Task σ (List Column) := do
  let sql ← d.describeTable database table
  let rows ← fetch d sql []
  d.columnsOfRows rows

/-- Whether a name is among the names of columns, letter case aside. -/
def namesColumn (name : String) (columns : List Column) : Bool :=
  columns.any fun c => Text.lower c.name.text == Text.lower name

/-- Whether a column is there. Where the catalog has no query for it, the columns are looked through. -/
def columnExists (d : Dialect) (database table column : Json) : Task σ Bool := do
  let name ← checkName "column" column
  let found ← match d.columnExists database table column with
    | some query => do
      let rows ← fetch d query.sql query.params
      pure (!rows.isEmpty)
    | none => do
      let there ← columns d database table
      pure (namesColumn name there)
  note .info ("check column exist for db=" ++ database.text ++ " table=" ++ table.text
    ++ " column=" ++ column.text ++ ", result=" ++ truthText found)
  return found

/-- The tables of a database, in order. -/
def tables (d : Dialect) (database : Json) : Task σ (List String) := do
  let _ ← checkName "database" database
  let query ← d.listTables database
  let rows ← fetch d query.sql query.params
  let names ← rows.mapM fun row => (row.cell 0).map Json.text
  return names.mergeSort fun a b => decide (a ≤ b)

end SinkKeeper.Task
