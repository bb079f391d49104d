import QueryLoom.Aggregation
import QueryLoom.Model

/-!
# Pivot layouts

1. `Measure` is a field with the function that aggregates it.
2. `Pivot` is a layout: fields for rows, a field for columns, measures. Of the fields for columns
   only the first is used.
3. `PivotPatch` replaces parts of a layout.
-/

namespace QueryLoom

/-- An aggregated field. -/
structure Measure where
  field : String
  aggregation : Aggregation
  displayName : Option String := none
deriving DecidableEq, Repr, Inhabited

namespace Measure

/-- The display name, a blank one counting as none. -/
def title? (m : Measure) : Option String := m.displayName.filter (· ≠ "")

/-- The name of the measure's column in a grouped table. -/
def groupedLabel (m : Measure) : String :=
  m.title?.getD (m.aggregation.keyword ++ "_of_" ++ m.field)

/-- The name of the measure in the columns of a pivoted table. -/
def pivotedLabel (m : Measure) : String :=
  m.title?.getD (m.aggregation.keyword ++ " of " ++ m.field)

def toJson (m : Measure) : Json :=
  .object
    ([("field", .text m.field), ("aggregation", .text m.aggregation.keyword)]
      ++ Json.optionalMember "displayName" (m.displayName.map .text))

def record : Json.Record Measure where
  noun := "struct PivotValue"
  blank := default
  fields :=
    [.of "field" .required .string fun m s => { m with field := s },
     .of "aggregation" .required Aggregation.decoder fun m a => { m with aggregation := a },
     .of "displayName" .defaulted (.optional .string) fun m s => { m with displayName := s }]

end Measure

/-- A pivot layout. -/
structure Pivot where
  rows : List String := []
  columns : List String := []
  values : List Measure := []
deriving DecidableEq, Repr, Inhabited

namespace Pivot

/-- Whether the layout spreads measures over columns. -/
def isPivoted (p : Pivot) : Bool := !p.columns.isEmpty && !p.values.isEmpty

def isEmpty (p : Pivot) : Bool := p.rows.isEmpty && p.columns.isEmpty && p.values.isEmpty

/-- The layout without the fields that a model does not list. -/
def restrict (p : Pivot) (m : Model) : Pivot where
  rows := p.rows.filter m.hasField
  columns := p.columns.filter m.hasField
  values := p.values.filter fun v => m.hasField v.field

def toJson (p : Pivot) : Json :=
  .object
    [("rows", .texts p.rows), ("columns", .texts p.columns),
     ("values", .array (p.values.map Measure.toJson))]

def record : Json.Record Pivot where
  noun := "struct PivotConfig"
  blank := default
  fields :=
    [.of "rows" .defaulted .strings fun p xs => { p with rows := xs },
     .of "columns" .defaulted .strings fun p xs => { p with columns := xs },
     .of "values" .defaulted (.list Measure.record.decoder) fun p xs => { p with values := xs }]

end Pivot

/-- New values for some parts of a layout. -/
structure PivotPatch where
  rows : Option (List String) := none
  columns : Option (List String) := none
  values : Option (List Measure) := none
deriving DecidableEq, Repr, Inhabited

namespace PivotPatch

/-- The layout with the parts replaced that the patch has. -/
def merge (patch : PivotPatch) (p : Pivot) : Pivot where
  rows := patch.rows.getD p.rows
  columns := patch.columns.getD p.columns
  values := patch.values.getD p.values

def toJson (patch : PivotPatch) : Json :=
  .object
    (Json.optionalMember "rows" (patch.rows.map .texts)
      ++ Json.optionalMember "columns" (patch.columns.map .texts)
      ++ Json.optionalMember "values" (patch.values.map fun xs => .array (xs.map Measure.toJson)))

def record : Json.Record PivotPatch where
  noun := "struct PivotPatch"
  blank := default
  fields :=
    [.of "rows" .defaulted (.optional .strings) fun p xs => { p with rows := xs },
     .of "columns" .defaulted (.optional .strings) fun p xs => { p with columns := xs },
     .of "values" .defaulted (.optional (.list Measure.record.decoder))
       fun p xs => { p with values := xs }]

end PivotPatch

end QueryLoom
