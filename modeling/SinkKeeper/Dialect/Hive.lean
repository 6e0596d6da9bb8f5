import SinkKeeper.Dialect.Basic

/-!
# Hive

Statements, catalog queries and describe rows of Hive. Its catalog answers with every name that fits a
pattern, in its own letter case, so rows are compared with the name that was asked for.
-/

namespace SinkKeeper.Hive

open SinkKeeper.Sql
open Number (Numeral Double)

def defaultDelimiter : String := "\\001"

def defaultStorage : String := "TEXTFILE"

def storageFormats : List String := ["TEXTFILE", "SEQUENCEFILE", "ORC", "PARQUET", "AVRO", "RCFILE"]

/-! ## Statements -/

def isOctalDigit (c : Char) : Bool := '0' ≤ c && c ≤ '7'

/-- A delimiter is a backslash with three octal digits, or one character that is no blank, quote or
backslash. -/
def isDelimiter : List Char → Bool
  | [sign, a, b, c] => sign = '\x5c' && isOctalDigit a && isOctalDigit b && isOctalDigit c
  | [c] => !(c = '\x27' || c = '\x5c' || Text.isBlank c)
  | _ => false

def checkDelimiter : Json → Except Failure String
  | .string s =>
    if isDelimiter s.toList then .ok s
    else .error (.sink (.refusedToken ("Invalid field delimiter: " ++ Text.quoted s)))
  | j => .error (.shape (.notText j.kind))

/-- A storage format that may be written, in upper case. -/
def checkStorage (storedAs : Json) : Except Failure String := do
  let format ← (storedAs.orElse (.string defaultStorage)).upper
  if storageFormats.contains format then return format
  else throw (.sink (.refusedToken ("Invalid storage format: " ++ storedAs.shown)))

def columnDefinition (c : Column) : Except Failure String := do
  let name ← quoteName "column" c.name
  let type ← checkType c.type
  let comment := if c.comment.isTruthy then " COMMENT " ++ quoteLiteral c.comment.text else ""
  return name ++ " " ++ type ++ comment

/-- The statement that makes a table; the partition columns stand apart from the others. -/
def createTable (t : Table) : Except Failure String := do
  let columns ← (t.columns.filter (!·.partition)).mapM columnDefinition
  let table ← quoteTable t.database t.name
  let comment := if t.comment.isTruthy then "\nCOMMENT " ++ quoteLiteral t.comment.text else ""
  let partitions ← (t.columns.filter (·.partition)).mapM columnDefinition
  let partitioned :=
    if partitions.isEmpty then "" else "\nPARTITIONED BY (" ++ Text.join ", " partitions ++ ")"
  let delimiter ← checkDelimiter (t.fieldDelimiter.orElse (.string defaultDelimiter))
  let storage ← checkStorage t.storedAs
  return "CREATE TABLE IF NOT EXISTS " ++ table ++ " (\n    " ++ Text.join ",\n    " columns ++ "\n)"
    ++ comment ++ partitioned
    ++ "\nROW FORMAT DELIMITED FIELDS TERMINATED BY '" ++ delimiter ++ "'"
    ++ "\nSTORED AS " ++ storage

/-- The statement that appends columns, none if there is nothing to append. -/
def addColumns (t : Table) (columns : List Column) : Except Failure (List String) :=
  if columns.isEmpty then return []
  else do
    let definitions ← columns.mapM columnDefinition
    let table ← quoteTable t.database t.name
    return ["ALTER TABLE " ++ table ++ " ADD COLUMNS (" ++ Text.join ", " definitions ++ ")"]

def describeTable (database table : Json) : Except Failure String := do
  let name ← quoteTable database table
  return "DESCRIBE " ++ name

/-! ## Catalog -/

/-- The databases whose names fit a pattern. -/
def databaseExists (database : Json) : Query :=
  ⟨"SHOW DATABASES LIKE :pattern", [("pattern", database)]⟩

/-- The tables of a database whose names fit a pattern. -/
def tableExists (database table : Json) : Except Failure Query := do
  let name ← quoteName "database" database
  return ⟨"SHOW TABLES IN " ++ name ++ " LIKE :pattern", [("pattern", table)]⟩

def listTables (database : Json) : Except Failure Query := do
  let name ← quoteName "database" database
  return ⟨"SHOW TABLES IN " ++ name, []⟩

/-- Whether a row names what was asked for, letter case aside. -/
def rowNames (name : Json) (row : Row) : Except ShapeError Bool := do
  let cell ← row.cell 0
  let wanted ← name.lower
  return Text.lower (Text.strip cell.text) == wanted

/-- Whether one of the rows names what was asked for; rows after it are not looked at. -/
def rowsContain (name : Json) : List Row → Except ShapeError Bool
  | [] => .ok false
  | row :: rest => do
    if ← rowNames name row then return true else rowsContain name rest

/-- Whether a row ends the columns of a table: a blank one, or one that begins with a number sign. -/
def endsColumns (row : Row) : Except ShapeError Bool := do
  match (← row.cell 0).orElse (.string "") with
  | .string s =>
    let name := Text.strip s
    return name == "" || Text.startsWith name "#"
  | j => throw (.noOperation j.kind "strip")

/-- The column of a row of `describeTable`: name, type and comment, each without blanks around it. -/
def columnOfRow (row : Row) : Except ShapeError Column := do
  let name ← row.cell 0
  let type ← row.cell 1
  let comment ← row.cell 2
  let trimmed := match comment with
    | .string s => .string (Text.strip s)
    | j => j
  return { Column.plain (Text.strip name.text) (Text.strip type.text) with
    comment := .optional (textIfAny trimmed) }

/-! ## Connecting -/

/-- What a connection is opened with. The socket's limit is in whole milliseconds, told in seconds. -/
structure Opening where
  host : String
  port : Nat
  seconds : Double
  user : Option String
  password : String
  database : String

def milliseconds : Numeral → Except ShapeError Int
  | .whole n => .ok (n * 1000)
  | .real x => Json.wholeOfDouble (x.scaleBy 1000)

/-- A text, or another one where it is absent or empty. -/
def textOr (other : String) : Option String → String
  | some s => if s = "" then other else s
  | none => other

def opening (a : Address) (seconds : Numeral) : Except ShapeError Opening := do
  let limit ← milliseconds seconds
  return ⟨a.host, a.port, (Double.ofInt limit).divideBy 1000, a.user, textOr "x" a.password,
    textOr "default" a.database⟩

end SinkKeeper.Hive
