import SinkKeeper.Failure
import SinkKeeper.Schema.Table

/-!
# Reports

What an operation tells its caller: the columns or tables it found, the statements it ran, or the error
that ended it.
-/

namespace SinkKeeper

/-- The outcome of one operation. -/
structure Report where
  columns : List Column
  tables : List String
  executed : List String
  failure : Option SinkError

namespace Report

def done : Report := ⟨[], [], [], none⟩

def failed (e : SinkError) : Report := ⟨[], [], [], some e⟩

def success (r : Report) : Bool := r.failure.isNone

def toJson (r : Report) : Json :=
  .object [
    ("success", .bool r.success),
    ("columns", .array (r.columns.map Column.toJson)),
    ("tables", .array (r.tables.map .string)),
    ("executed", .array (r.executed.map .string)),
    ("error", .optional (r.failure.map (·.message))),
    ("error_type", .optional (r.failure.map (·.name))),
    ("error_kind", .optional (r.failure.map (·.family.name)))]

end Report

end SinkKeeper
