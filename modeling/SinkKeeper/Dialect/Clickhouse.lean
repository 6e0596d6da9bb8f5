import SinkKeeper.Dialect.Basic

/-!
# ClickHouse

Statements, catalog queries and describe rows of ClickHouse. A table whose rows have a lifetime gets a
column of its own for it, which introspection hides.
-/

namespace SinkKeeper.Clickhouse

open SinkKeeper.Sql

def defaultEngine : String := "MergeTree()"

/-- The column that holds the time from which the lifetime of a row counts. -/
def retentionColumn : String := "inlong_ttl_date_time"

def defaultKinds : List String := ["DEFAULT", "MATERIALIZED", "ALIAS", "EPHEMERAL"]

def ttlUnits : List String := ["SECOND", "MINUTE", "HOUR", "DAY", "WEEK", "MONTH", "QUARTER", "YEAR"]

/-! ## Hosts -/

/-- One to three digits of any script. -/
def isHostNumber (cs : List Char) : Bool :=
  !cs.isEmpty && cs.length ≤ 3 && cs.all Text.isDecimalDigit

/-- The hosts that may be connected to: the local one and those of two networks. -/
def allowsHost (host : List Char) : Bool :=
  host == "localhost".toList
    || (Text.after? "192.168.1.".toList host).any isHostNumber
    || (Text.after? "10.0.0.".toList host).any isHostNumber

/-! ## Statements -/

def onCluster (cluster : Json) : Except SinkError String :=
  if cluster.isTruthy then (quoteName "cluster" cluster).map (" ON CLUSTER " ++ ·) else .ok ""

/-- The default of a column: an expression after its kind, or else a literal. -/
def defaultClause (c : Column) : Except Failure (List String) :=
  if c.defaultExpr.isTruthy then do
    let kind ← (c.defaultKind.orElse (.string "DEFAULT")).upper
    if !defaultKinds.contains kind then
      throw (.sink (.refusedToken ("Invalid default kind: " ++ c.defaultKind.shown)))
    let expression ← checkExpression "default expression" c.defaultExpr
    return [kind ++ " " ++ expression]
  else return (c.defaultValue.map fun v => "DEFAULT " ++ quoteLiteral v).toList

/-- The compression of a column, wrapped unless it already is. -/
def codecClause (codec : Json) : Except SinkError (List String) :=
  if codec.isTruthy then do
    let text ← checkExpression "compression codec" codec
    return [if Text.startsWith (Text.upper text) "CODEC(" then text else "CODEC(" ++ text ++ ")"]
  else return []

def ttlClause (expression : Json) : Except SinkError (List String) :=
  if expression.isTruthy then (checkExpression "TTL expression" expression).map fun e => ["TTL " ++ e]
  else .ok []

def columnDefinition (c : Column) : Except Failure String := do
  let name ← quoteName "column" c.name
  let type ← checkType c.type
  let default ← defaultClause c
  let comment := if c.comment.isTruthy then ["COMMENT " ++ quoteLiteral c.comment.text] else []
  let codec ← codecClause c.codec
  let ttl ← ttlClause c.ttlExpr
  return Text.join " " ([name, type] ++ default ++ comment ++ codec ++ ttl)

/-- The retention column's item and the clause that removes old rows, if rows have a lifetime. -/
def retention (t : Table) : Except Failure (List String × String) :=
  match t.ttl with
  | none => return ([], "")
  | some ttl => do
    let unit ← t.ttlUnit.upper
    if !ttlUnits.contains unit || ttl ≤ 0 then
      throw (.sink (.refusedToken
        ("Invalid table TTL: " ++ Number.writeInt ttl ++ " " ++ t.ttlUnit.text)))
    let column ← quoteName "column" (.string retentionColumn)
    return ([column ++ " DateTime DEFAULT now()"],
      "\nTTL " ++ column ++ " + INTERVAL " ++ Number.writeInt ttl ++ " " ++ unit)

def partitionClause (key : Json) : Except SinkError String :=
  if key.isTruthy then (checkExpression "partition key" key).map ("\nPARTITION BY " ++ ·) else .ok ""

/-- The order of rows; one must be told. -/
def orderClause (names : List Json) : Except SinkError String :=
  if names.isEmpty then .ok "\nORDER BY tuple()"
  else (quoteNames "column" names).map fun columns => "\nORDER BY (" ++ columns ++ ")"

/-- The primary key, if it is told. -/
def keyClause (names : List Json) : Except SinkError String :=
  if names.isEmpty then .ok ""
  else (quoteNames "column" names).map fun columns => "\nPRIMARY KEY (" ++ columns ++ ")"

def createTable (t : Table) : Except Failure String := do
  let columns ← t.columns.mapM columnDefinition
  let (retained, ttlClause) ← retention t
  let table ← quoteTable t.database t.name
  let cluster ← onCluster t.cluster
  let engine ← checkExpression "table engine" (t.engine.orElse (.string defaultEngine))
  let partition ← partitionClause t.partitionBy
  let order ← orderClause t.orderBy
  let key ← keyClause t.primaryKey
  let comment := if t.comment.isTruthy then "\nCOMMENT " ++ quoteLiteral t.comment.text else ""
  return "CREATE TABLE IF NOT EXISTS " ++ table ++ cluster
    ++ " (\n    " ++ Text.join ",\n    " (columns ++ retained) ++ "\n)"
    ++ "\nENGINE = " ++ engine ++ partition ++ order ++ key ++ ttlClause ++ comment

/-- The statements that append columns, one for each. -/
def addColumns (t : Table) (columns : List Column) : Except Failure (List String) := do
  let table ← quoteTable t.database t.name
  let cluster ← onCluster t.cluster
  columns.mapM fun c => do
    let definition ← columnDefinition c
    return "ALTER TABLE " ++ table ++ cluster ++ " ADD COLUMN " ++ definition

def describeTable (database table : Json) : Except Failure String := do
  let name ← quoteTable database table
  return "DESC TABLE " ++ name

/-! ## Catalog -/

def databaseExists (database : Json) : Query :=
  ⟨"SELECT name FROM system.databases WHERE name = :database", [("database", database)]⟩

def tableExists (database table : Json) : Query :=
  ⟨"SELECT name FROM system.tables WHERE database = :database AND name = :table",
    [("database", database), ("table", table)]⟩

def columnExists (database table column : Json) : Query :=
  ⟨"SELECT name FROM system.columns WHERE database = :database AND table = :table AND name = :column",
    [("database", database), ("table", table), ("column", column)]⟩

def listTables (database : Json) : Query :=
  ⟨"SELECT name FROM system.tables WHERE database = :database", [("database", database)]⟩

/-- The column of a row of `describeTable`, unless it is the retention column: name, type, default kind,
default expression, comment, codec and lifetime. -/
def columnOfRow (row : Row) : Except ShapeError (Option Column) := do
  let name ← row.cell 0
  if let .string s := name then
    if s = retentionColumn then return none
  let type ← row.cell 1
  let kind ← row.cell 2
  let expression ← row.cell 3
  let comment ← row.cell 4
  let codec ← row.cell 5
  let ttl ← row.cell 6
  return some { Column.plain name.text type.text with
    defaultKind := .optional (textIfAny kind)
    defaultExpr := .optional (textIfAny expression)
    comment := .optional (textIfAny comment)
    codec := .optional (textIfAny codec)
    ttlExpr := .optional (textIfAny ttl) }

end SinkKeeper.Clickhouse
