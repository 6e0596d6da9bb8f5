import SinkKeeper.Schema.Column

/-!
# Tables

The end state that is wanted of one table. The order of the columns counts.
-/

namespace SinkKeeper

/-- A table and the options of all engines. -/
structure Table where
  database : Json
  name : Json
  columns : List Column
  comment : Json
  primaryKey : List Json
  engine : Json
  charset : Json
  fieldDelimiter : Json
  storedAs : Json
  orderBy : List Json
  partitionBy : Json
  cluster : Json
  ttl : Option Int
  ttlUnit : Json

namespace Table

/-- The columns that a description lists; no list is no columns, but null is no list. -/
def columnsOf (fields : Json.Fields) : Except ShapeError (List Column) := do
  let items ← match fields.lookup "columns" with
    | some listed => listed.items
    | none => pure []
  items.mapM Column.ofJson

/-- The name of a table, under either of two keys. -/
def nameOf (data : Json) (fields : Json.Fields) : Except ShapeError Json :=
  let name := Json.fieldOrNull fields "name"
  if name.isTruthy then .ok name else data.field "table"

/-- The lifetime of rows, if there is one. -/
def ttlOf (fields : Json.Fields) : Except ShapeError (Option Int) :=
  match Json.fieldOrNull fields "ttl" with
  | .null => .ok none
  | ttl => ttl.toWhole.map some

/-- Reads a table's description. The first field that is wrong is told, in the order below. -/
def ofJson (data : Json) : Except ShapeError Table := do
  let fields ← data.fieldsFor "get"
  let database ← data.field "database"
  let name ← nameOf data fields
  let columns ← columnsOf fields
  let primaryKey ← (Json.fieldOrNull fields "primary_key").itemsOrNone
  let orderBy ← (Json.fieldOrNull fields "order_by").itemsOrNone
  let ttl ← ttlOf fields
  return {
    database, name, columns, primaryKey, orderBy, ttl
    comment := Json.fieldOrNull fields "comment"
    engine := Json.fieldOrNull fields "engine"
    charset := Json.fieldOrNull fields "charset"
    fieldDelimiter := Json.fieldOrNull fields "field_delimiter"
    storedAs := Json.fieldOrNull fields "stored_as"
    partitionBy := Json.fieldOrNull fields "partition_by"
    cluster := Json.fieldOrNull fields "cluster"
    ttlUnit := (Json.fieldOrNull fields "ttl_unit").orElse (.string "DAY") }

def columnNames (t : Table) : List Json := t.columns.map (·.name)

def label (t : Table) : String := t.database.text ++ "." ++ t.name.text

end Table

end SinkKeeper
