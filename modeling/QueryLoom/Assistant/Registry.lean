import QueryLoom.Json.Decoder

/-!
# What is known about tables

1. `FieldMetadata` describes a field, `Metric` is a named formula.
2. `RegisteredTable` is a table of the registry, with its columns and their foreign keys.
-/

namespace QueryLoom

/-- What kind of data a field holds. -/
inductive DataKind where
  | dimension
  | measure
  | date
  | identifier
  | text
  | boolean
deriving DecidableEq, Repr

namespace DataKind

def name : DataKind → String
  | .dimension => "dimension"
  | .measure => "measure"
  | .date => "date"
  | .identifier => "identifier"
  | .text => "text"
  | .boolean => "boolean"

def decoder : Json.Decoder DataKind :=
  .oneOf ([.dimension, .measure, .date, .identifier, .text, .boolean].map fun k => (k.name, k))

end DataKind

/-- A description of a field. -/
structure FieldMetadata where
  description : Option String := none
  kind : Option DataKind := none
deriving DecidableEq, Repr, Inhabited

namespace FieldMetadata

def toJson (m : FieldMetadata) : Json :=
  .object
    (Json.optionalMember "description" (m.description.map .text)
      ++ Json.optionalMember "dataType" (m.kind.map fun k => .text k.name))

def record : Json.Record FieldMetadata where
  noun := "struct FieldMetadata"
  blank := {}
  fields :=
    [.of "description" .defaulted (.optional .string) fun m s => { m with description := s },
     .of "dataType" .defaulted (.optional DataKind.decoder) fun m k => { m with kind := k }]

end FieldMetadata

/-- A named formula. -/
structure Metric where
  name : String
  formula : String
  description : Option String := none
deriving DecidableEq, Repr, Inhabited

namespace Metric

def toJson (m : Metric) : Json :=
  .object
    ([("name", .text m.name), ("formula", .text m.formula)]
      ++ Json.optionalMember "description" (m.description.map .text))

def record : Json.Record Metric where
  noun := "struct Metric"
  blank := default
  fields :=
    [.of "name" .required .string fun m s => { m with name := s },
     .of "formula" .required .string fun m s => { m with formula := s },
     .of "description" .defaulted (.optional .string) fun m s => { m with description := s }]

end Metric

/-- The column that a foreign key refers to. -/
structure ForeignKey where
  table : String
  column : String
deriving DecidableEq, Repr, Inhabited

namespace ForeignKey

def toJson (k : ForeignKey) : Json := .object [("table", .text k.table), ("column", .text k.column)]

def record : Json.Record ForeignKey where
  noun := "struct ForeignKey"
  blank := default
  fields :=
    [.of "table" .required .string fun k s => { k with table := s },
     .of "column" .required .string fun k s => { k with column := s }]

end ForeignKey

/-- A column of a registered table. -/
structure RegisteredColumn where
  name : String
  type : String
  isPrimary : Bool := false
  foreignKey : Option ForeignKey := none
deriving DecidableEq, Repr, Inhabited

namespace RegisteredColumn

def toJson (c : RegisteredColumn) : Json :=
  .object
    ([("name", .text c.name), ("type", .text c.type), ("isPrimary", .bool c.isPrimary)]
      ++ Json.optionalMember "foreignKey" (c.foreignKey.map ForeignKey.toJson))

def record : Json.Record RegisteredColumn where
  noun := "struct RegisteredColumn"
  blank := default
  fields :=
    [.of "name" .required .string fun c s => { c with name := s },
     .of "type" .required .string fun c s => { c with type := s },
     .of "isPrimary" .defaulted .bool fun c b => { c with isPrimary := b },
     .of "foreignKey" .defaulted (.optional ForeignKey.record.decoder)
       fun c k => { c with foreignKey := k }]

end RegisteredColumn

/-- A table of the registry. -/
structure RegisteredTable where
  name : String
  columns : List RegisteredColumn
  description : Option String := none
deriving DecidableEq, Repr, Inhabited

namespace RegisteredTable

def toJson (t : RegisteredTable) : Json :=
  .object
    ([("name", .text t.name), ("columns", .array (t.columns.map RegisteredColumn.toJson))]
      ++ Json.optionalMember "description" (t.description.map .text))

def record : Json.Record RegisteredTable where
  noun := "struct RegisteredTable"
  blank := default
  fields :=
    [.of "name" .required .string fun t s => { t with name := s },
     .of "columns" .required (.list RegisteredColumn.record.decoder)
       fun t cs => { t with columns := cs },
     .of "description" .defaulted (.optional .string) fun t s => { t with description := s }]

end RegisteredTable

end QueryLoom
