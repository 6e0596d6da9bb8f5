import SinkKeeper.Failure
import SinkKeeper.Schema.Table

/-!
# Schema files

A schema file lists tables, alone or in the field `tables` of an object. Tables that name no database get
the default one.
-/

namespace SinkKeeper.SchemaFile

def entriesOf : Json → Except ShapeError (List Json)
  | .array entries => .ok entries
  | .object fields =>
    match fields.lookup "tables" with
    | none => .ok []
    | some (.array entries) => .ok entries
    | some _ => .error .notTables
  | _ => .error .notTables

/-- The fields of a table with the default database, if there is one and the table names none. -/
def withDatabase (database : Option String) (fields : Json.Fields) : Json.Fields :=
  match database with
  | none | some "" => fields
  | some name =>
    if (Json.fieldOrNull fields "database").isTruthy then fields
    else Entries.put "database" (.string name) fields

def tableOf (database : Option String) : Json → Except ShapeError Table
  | .object fields => Table.ofJson (.object (withDatabase database fields))
  | entry => .error (.notTable entry)

/-- Reads the tables of a text, in order. -/
def read (database : Option String) (text : String) : Except Failure (List Table) :=
  match Json.parse text with
  | .error e => .error (.unparsed e)
  | .ok document => do
    let entries ← entriesOf document
    entries.mapM fun entry => (tableOf database entry : Except ShapeError Table)

end SinkKeeper.SchemaFile
