import SinkKeeper.Server.Catalog
import SinkKeeper.Server.Execution
import SinkKeeper.Schema.Report

/-!
# Reconciling

Bringing a database to a wanted schema over an open connection. What is there is left alone; what is
missing is added, columns in the order in which they are declared.
-/

namespace SinkKeeper

/-! ## The steps -/

namespace Task

variable {σ : Type} [Server σ]

def createDatabase (d : Dialect) (database : Json) : Task σ Report := do
  if ← databaseExists d database then
    note .info ("the database [" ++ database.text ++ "] already exists, nothing to create")
    return .done
  else
    let sql ← d.createDatabase database
    execute sql
    note .info ("success to create " ++ d.name ++ " database [" ++ database.text ++ "]")
    return { Report.done with executed := [sql] }

/-- Makes a table unless it is there, and tells its columns. -/
def createTable (d : Dialect) (t : Table) : Task σ Report := do
  let executed ← if ← tableExists d t.database t.name then do
      note .info ("the table [" ++ t.label ++ "] already exists, nothing to create")
      pure []
    else do
      let sql ← d.createTable t
      execute sql
      note .info ("success to create " ++ d.name ++ " table [" ++ t.label ++ "]")
      pure [sql]
  let columns ← columns d t.database t.name
  return { Report.done with columns, executed }

def missingOf (d : Dialect) (t : Table) : List Column → Task σ (List Column)
  | [] => pure []
  | c :: rest => do
    let found ← columnExists d t.database t.name c.name
    let missing ← missingOf d t rest
    return if found then missing else c :: missing

/-- The columns that a table lacks, in the order in which they are declared. -/
def missingColumns (d : Dialect) (t : Table) : Task σ (List Column) := missingOf d t t.columns

/-- Adds the columns that a table lacks. A column that is there is never changed. -/
def addColumns (d : Dialect) (t : Table) : Task σ Report := do
  let missing ← missingColumns d t
  if missing.isEmpty then
    note .info ("all columns of [" ++ t.label ++ "] already exist, nothing to add")
    return .done
  else
    let statements ← d.addColumns t missing
    executeBatch statements d.hasTransactions
    note .info ("success to add columns " ++ (Json.array (missing.map (·.name))).shown ++ " to " ++ d.name
      ++ " table [" ++ t.label ++ "]")
    return { Report.done with columns := missing, executed := statements }

/-- Makes database and table as needed. A table that was there gets the columns that it lacks. -/
def ensureTable (d : Dialect) (t : Table) : Task σ Report := do
  let database ← createDatabase d t.database
  let table ← createTable d t
  -- A table that was just made has all of its columns.
  let added ← if table.executed.isEmpty then do
      let report ← addColumns d t
      pure report.executed
    else pure []
  let columns ← columns d t.database t.name
  return { Report.done with columns, executed := database.executed ++ table.executed ++ added }

def listTables (d : Dialect) (database : Json) : Task σ Report := do
  let tables ← tables d database
  return { Report.done with tables }

def listColumns (d : Dialect) (database table : Json) : Task σ Report := do
  let columns ← columns d database table
  return { Report.done with columns }

/-- Turns an error of the sink into a failed report and notes it. Other failures pass. -/
def report (description : String) (work : Task σ Report) : Task σ Report := fun link =>
  match work link with
  | .error (.sink e) link =>
    (do
      note .error (description ++ " failed: " ++ e.message)
      return Report.failed e : Task σ Report) link
  | outcome => outcome

end Task

/-! ## Operations -/

/-- What can be asked of a sink. -/
inductive Operation
  | createDatabase (database : Json)
  | createTable (table : Table)
  | addColumns (table : Table)
  | ensureTable (table : Table)
  | listTables (database : Json)
  | listColumns (database table : Json)

namespace Operation

def name : Operation → String
  | .createDatabase _ => "create_db"
  | .createTable _ => "create_table"
  | .addColumns _ => "add_columns"
  | .ensureTable _ => "ensure_table"
  | .listTables _ => "get_tables"
  | .listColumns .. => "get_columns"

def run {σ : Type} [Server σ] (d : Dialect) : Operation → Task σ Report
  | .createDatabase database => Task.createDatabase d database
  | .createTable t => Task.createTable d t
  | .addColumns t => Task.addColumns d t
  | .ensureTable t => Task.ensureTable d t
  | .listTables database => Task.listTables d database
  | .listColumns database table => Task.listColumns d database table

end Operation

end SinkKeeper
