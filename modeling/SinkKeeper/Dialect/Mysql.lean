import SinkKeeper.Dialect.Basic

/-!
# MySQL

Statements, catalog queries and describe rows of MySQL. Its catalog compares names itself, so any row
answers an existence query.
-/

namespace SinkKeeper.Mysql

open SinkKeeper.Sql

def defaultEngine : String := "InnoDB"

def defaultCharset : String := "utf8mb4"

def columnDefinition (c : Column) : Except Failure String := do
  let name ← quoteName "column" c.name
  let type ← checkType c.type
  let required := if c.nullable then [] else ["NOT NULL"]
  let default := (c.defaultValue.map fun v => "DEFAULT " ++ quoteLiteral v).toList
  let comment := if c.comment.isTruthy then ["COMMENT " ++ quoteLiteral c.comment.text] else []
  return Text.join " " ([name, type] ++ required ++ default ++ comment)

/-- The item of the primary key, if there is one. -/
def keyItems (names : List Json) : Except SinkError (List String) :=
  if names.isEmpty then .ok []
  else (quoteNames "column" names).map fun key => ["PRIMARY KEY (" ++ key ++ ")"]

def createTable (t : Table) : Except Failure String := do
  let columns ← t.columns.mapM columnDefinition
  let key ← keyItems t.primaryKey
  let engine ← checkExpression "table engine" (t.engine.orElse (.string defaultEngine))
  let charset ← checkExpression "charset" (t.charset.orElse (.string defaultCharset))
  let table ← quoteTable t.database t.name
  let comment := if t.comment.isTruthy then " COMMENT=" ++ quoteLiteral t.comment.text else ""
  return "CREATE TABLE IF NOT EXISTS " ++ table ++ " (\n    " ++ Text.join ",\n    " (columns ++ key) ++ "\n)"
    ++ " ENGINE=" ++ engine ++ " DEFAULT CHARSET=" ++ charset ++ comment

/-- The statements that append columns, one for each. -/
def addColumns (t : Table) (columns : List Column) : Except Failure (List String) := do
  let table ← quoteTable t.database t.name
  columns.mapM fun c => do
    let definition ← columnDefinition c
    return "ALTER TABLE " ++ table ++ " ADD COLUMN " ++ definition

/-- The query for the columns of a table, which names it by literals. -/
def describeTable (database table : Json) : Except Failure String := do
  let _ ← quoteTable database table
  return "SELECT COLUMN_NAME, COLUMN_TYPE, COLUMN_COMMENT, IS_NULLABLE, COLUMN_DEFAULT "
    ++ "FROM information_schema.COLUMNS "
    ++ "WHERE TABLE_SCHEMA = " ++ quoteLiteral database.text
    ++ " AND TABLE_NAME = " ++ quoteLiteral table.text
    ++ " ORDER BY ORDINAL_POSITION"

/-! ## Catalog -/

def databaseExists (database : Json) : Query :=
  ⟨"SELECT SCHEMA_NAME FROM information_schema.SCHEMATA WHERE SCHEMA_NAME = :database",
    [("database", database)]⟩

def tableExists (database table : Json) : Query :=
  ⟨"SELECT TABLE_NAME FROM information_schema.TABLES "
      ++ "WHERE TABLE_SCHEMA = :database AND TABLE_NAME = :table",
    [("database", database), ("table", table)]⟩

def columnExists (database table column : Json) : Query :=
  ⟨"SELECT COLUMN_NAME FROM information_schema.COLUMNS "
      ++ "WHERE TABLE_SCHEMA = :database AND TABLE_NAME = :table AND COLUMN_NAME = :column",
    [("database", database), ("table", table), ("column", column)]⟩

/-- The tables of a database, views aside. -/
def listTables (database : Json) : Query :=
  ⟨"SELECT TABLE_NAME FROM information_schema.TABLES "
      ++ "WHERE TABLE_SCHEMA = :database AND TABLE_TYPE = 'BASE TABLE'",
    [("database", database)]⟩

def columnOfRow (row : Row) : Except ShapeError Column := do
  let name ← row.cell 0
  let type ← row.cell 1
  let comment ← row.cell 2
  let nullable ← row.cell 3
  let default ← row.cell 4
  return { Column.plain name.text type.text with
    comment := .optional (textIfAny comment)
    nullable := Text.upper nullable.text != "NO"
    defaultValue := Column.textOrNone default }

end SinkKeeper.Mysql
