import SinkKeeper.Shape

/-!
# Columns

One column, wanted or observed. Fields that a description leaves loose are kept as they came.
-/

namespace SinkKeeper

/-- A column. A default value is a literal; a default expression is written as it is, after its kind. -/
structure Column where
  name : Json
  type : Json
  comment : Json
  nullable : Bool
  defaultValue : Option String
  defaultKind : Json
  defaultExpr : Json
  codec : Json
  ttlExpr : Json
  partition : Bool

namespace Column

def plain (name type : String) : Column where
  name := .string name
  type := .string type
  comment := .null
  nullable := true
  defaultValue := none
  defaultKind := .null
  defaultExpr := .null
  codec := .null
  ttlExpr := .null
  partition := false

/-- The flag of a field, with the value it has when the field is absent. -/
def flag (fields : Json.Fields) (key : String) (absent : Bool) : Bool :=
  ((fields.lookup key).map Json.isTruthy).getD absent

/-- The text of a field, if it is there and not null. -/
def textOrNone : Json → Option String
  | .null => none
  | j => some j.text

/-- Reads a column's description. The name is missed before the type. -/
def ofJson (data : Json) : Except ShapeError Column := do
  let name ← data.field "name"
  let type ← data.field "type"
  let fields ← data.fieldsFor "get"
  return {
    name, type
    comment := Json.fieldOrNull fields "comment"
    nullable := flag fields "nullable" true
    defaultValue := textOrNone (Json.fieldOrNull fields "default_value")
    defaultKind := Json.fieldOrNull fields "default_kind"
    defaultExpr := Json.fieldOrNull fields "default_expr"
    codec := Json.fieldOrNull fields "compression_codec"
    ttlExpr := Json.fieldOrNull fields "ttl_expr"
    partition := flag fields "partition" false }

/-- All fields of a column, null where it has none. -/
def fields (c : Column) : Json.Fields :=
  [("name", c.name), ("type", c.type), ("comment", c.comment), ("nullable", .bool c.nullable),
    ("default_value", .optional c.defaultValue), ("default_kind", c.defaultKind),
    ("default_expr", c.defaultExpr), ("compression_codec", c.codec), ("ttl_expr", c.ttlExpr),
    ("partition", .bool c.partition)]

/-- The description of a column: its fields without those that are null. -/
def toJson (c : Column) : Json := .object (c.fields.filter fun p => !p.2.isNull)

end Column

end SinkKeeper
