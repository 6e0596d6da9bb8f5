import SinkKeeper.Address
import SinkKeeper.Schema.Table
import SinkKeeper.Sql.Token

/-!
# Dialects

The engines that a sink may run, and what every one of them has: a scheme, a driver, a rule for hosts, and
a way to run several statements.
-/

namespace SinkKeeper

open Number (Numeral)

/-- The supported engines. -/
inductive Dialect
  | mysql
  | hive
  | clickhouse
deriving DecidableEq, Repr

/-- A catalog query and the values bound to its names. -/
structure Query where
  sql : String
  params : Json.Fields

/-- A row of an answer. Rows that a driver fetched and rows given by a caller differ in the words of an
index error only. -/
structure Row where
  cells : List Json
  fetched : Bool

def Row.cell (row : Row) (i : Nat) : Except ShapeError Json :=
  match row.cells[i]? with
  | some cell => .ok cell
  | none => .error (.shortRow row.fetched)

/-- The text of a cell, none where it is null or empty. -/
def textIfAny : Json → Option String
  | .null => none
  | j => if j.text = "" then none else some j.text

/-- What is given to a driver beside the address. -/
inductive EngineOptions
  | eachTimeout (connect read write : Numeral)
  | oneTimeout (seconds : Numeral)
  | opener (address : Address) (seconds : Numeral)

namespace Dialect

def all : List Dialect := [.mysql, .hive, .clickhouse]

def name : Dialect → String
  | .mysql => "mysql"
  | .hive => "hive"
  | .clickhouse => "clickhouse"

/-- The dialect of a name, letter case aside. What counts as absent names none. -/
def ofName (name : Json) : Except ShapeError (Option Dialect) := do
  let word ← (name.orElse (.string "")).lower
  return all.find? (·.name == word)

def scheme : Dialect → String
  | .mysql => "jdbc:mysql"
  | .hive => "jdbc:hive2"
  | .clickhouse => "jdbc:clickhouse"

def driver : Dialect → String
  | .mysql => "mysql+pymysql"
  | .hive => "hive"
  | .clickhouse => "clickhouse+http"

def hasTransactions : Dialect → Bool
  | .mysql => true
  | .hive | .clickhouse => false

end Dialect

end SinkKeeper
