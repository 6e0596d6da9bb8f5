import SinkKeeper.Dialect.Mysql
import SinkKeeper.Dialect.Clickhouse
import SinkKeeper.Dialect.Hive

/-!
# What a dialect does

The statements, queries and rows of each engine behind one name.
-/

namespace SinkKeeper.Dialect

open SinkKeeper.Sql
open Number (Numeral)

/-- The rule that the host of a connection string must meet, if there is one. -/
def allowedHosts : Dialect → Option (List Char → Bool)
  | .clickhouse => some Clickhouse.allowsHost
  | .mysql | .hive => none

def parseAddress (d : Dialect) (url : String) : Except Failure Address :=
  Address.parse d.scheme d.allowedHosts url

/-- Bounds the waits of a connection. A driver that takes one limit gets the greater. -/
def engineOptions (address : Address) (connect statement : Numeral) : Dialect → EngineOptions
  | .mysql => .eachTimeout connect statement statement
  | .clickhouse => .oneTimeout (connect.max statement)
  | .hive => .opener address (connect.max statement)

/-! ## Statements -/

def columnDefinition (c : Column) : Dialect → Except Failure String
  | .mysql => Mysql.columnDefinition c
  | .hive => Hive.columnDefinition c
  | .clickhouse => Clickhouse.columnDefinition c

/-- The statement that makes a database; it is the same for all. -/
def createDatabase (_ : Dialect) (database : Json) : Except Failure String := do
  let name ← quoteName "database" database
  return "CREATE DATABASE IF NOT EXISTS " ++ name

def createTable (t : Table) : Dialect → Except Failure String
  | .mysql => Mysql.createTable t
  | .hive => Hive.createTable t
  | .clickhouse => Clickhouse.createTable t

def addColumns (t : Table) (columns : List Column) : Dialect → Except Failure (List String)
  | .mysql => Mysql.addColumns t columns
  | .hive => Hive.addColumns t columns
  | .clickhouse => Clickhouse.addColumns t columns

def describeTable (database table : Json) : Dialect → Except Failure String
  | .mysql => Mysql.describeTable database table
  | .hive => Hive.describeTable database table
  | .clickhouse => Clickhouse.describeTable database table

/-! ## Catalog -/

def databaseExists (database : Json) : Dialect → Query
  | .mysql => Mysql.databaseExists database
  | .hive => Hive.databaseExists database
  | .clickhouse => Clickhouse.databaseExists database

def tableExists (database table : Json) : Dialect → Except Failure Query
  | .mysql => .ok (Mysql.tableExists database table)
  | .hive => Hive.tableExists database table
  | .clickhouse => .ok (Clickhouse.tableExists database table)

/-- The query for a column; Hive has none. -/
def columnExists (database table column : Json) : Dialect → Option Query
  | .mysql => some (Mysql.columnExists database table column)
  | .hive => none
  | .clickhouse => some (Clickhouse.columnExists database table column)

def listTables (database : Json) : Dialect → Except Failure Query
  | .mysql => .ok (Mysql.listTables database)
  | .hive => Hive.listTables database
  | .clickhouse => .ok (Clickhouse.listTables database)

/-! ## Rows -/

/-- Whether the rows of an existence query tell that what was asked for is there. -/
def rowsContain (rows : List Row) (name : Json) : Dialect → Except ShapeError Bool
  | .mysql | .clickhouse => .ok (!rows.isEmpty)
  | .hive => Hive.rowsContain name rows

def endsColumns (row : Row) : Dialect → Except ShapeError Bool
  | .mysql | .clickhouse => .ok false
  | .hive => Hive.endsColumns row

/-- The column of a describe row, if it is to be shown. -/
def columnOfRow (row : Row) : Dialect → Except ShapeError (Option Column)
  | .mysql => (Mysql.columnOfRow row).map some
  | .hive => (Hive.columnOfRow row).map some
  | .clickhouse => Clickhouse.columnOfRow row

/-- The columns of describe rows, up to the row that ends them. -/
def columnsOfRows (d : Dialect) : List Row → Except ShapeError (List Column)
  | [] => .ok []
  | row :: rest => do
    if ← d.endsColumns row then return []
    let column ← d.columnOfRow row
    let columns ← columnsOfRows d rest
    return column.toList ++ columns

end SinkKeeper.Dialect
