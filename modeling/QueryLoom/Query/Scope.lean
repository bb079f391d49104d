import QueryLoom.Request
import QueryLoom.Sql.Statement

/-!
# The scope of field names

1. `Scope.tableOf?` finds the table of a bare field name: the first selected table that lists it,
   else the first table of the catalogue that does, else the base table.
2. `Scope.column?`, `Scope.output?`, `Scope.condition?` and `Scope.aggregate?` turn what a request
   says about a field into SQL about a column.
-/

namespace QueryLoom

open Sql

/-- Where field names are looked up. -/
structure Scope where
  model : Model
  catalog : List Listing := []
  aliases : Aliases := {}

/-- The scope of a request. -/
def Request.scope (r : Request) : Scope := ⟨r.model, r.catalog, r.aliases⟩

namespace Scope

variable (s : Scope)

/-- The table that a field belongs to. -/
def tableOf? (field : String) : Option String :=
  match s.model.tableOf? field with
  | some table => some table
  | none =>
    match s.catalog.find? (·.hasField field) with
    | some listing => some listing.name
    | none => s.model.base?

/-- The column that a field names. -/
def column? (field : String) : Option Column := (s.tableOf? field).map fun t => ⟨t, field⟩

/-- The display name of a column: its alias or, without one, its own name. -/
def title (c : Column) : String := (s.aliases.get? c.table c.field).getD c.field

/-- A field as a column of the result. -/
def output? (field : String) : Option Output :=
  (s.column? field).map fun c => ⟨.column c, some (s.title c)⟩

/-- A measure as a column of the result. -/
def aggregate? (m : Measure) : Option Output :=
  (s.column? m.field).map fun c => ⟨.aggregate m.aggregation c, some m.groupedLabel⟩

/-- A measure over the rows in which the pivot column has a value, as a column of the result. -/
def aggregateWhere? (pivot : Column) (v : Value) (m : Measure) : Option Output :=
  (s.column? m.field).map fun c =>
    ⟨.aggregateWhere m.aggregation pivot v c, some (v.display ++ " - " ++ m.pivotedLabel)⟩

/-- The condition that a filter sets. -/
def condition? (f : Filter) : Option Condition :=
  (s.column? f.field).bind fun c =>
    match f.comparison with
    | .equals => some (.equals c f.value)
    | .greaterThan => some (.greater c f.value)
    | .lessThan => some (.less c f.value)
    | .contains => some (.like c ("%" ++ f.value.display ++ "%"))
    | .other _ => none

/-- The conditions that filters set, in their order. -/
def conditions (fs : List Filter) : List Condition := fs.filterMap s.condition?

end Scope

end QueryLoom
