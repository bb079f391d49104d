import QueryLoom.Query.JoinWalk
import QueryLoom.Query.Scope
import QueryLoom.Row

/-!
# Query plans

1. `Request.plan` decides how a request is answered. References to fields that are not selected
   are dropped first. A pivoted layout needs to know the distinct values of its column, so its plan
   is a lookup and a function of the values found; a grouped or a flat one is a statement.
2. A plan does not depend on the dialect; only its written form does.
-/

namespace QueryLoom

open Sql

/-- How a request is answered. -/
inductive Plan where
  /-- There is nothing to select. -/
  | nothing
  | statement (s : Statement)
  /-- A query for the values of a field, and what follows from the values. -/
  | lookup (query : Statement) (field : String) (finish : List Value → Option Statement)

/-- The number of values of a pivot column that get columns of their own. -/
def pivotValueLimit : Nat := 25

/-- The values of a pivot column, taken from the rows of its lookup. -/
def pivotValues (field : String) (rows : List Row) : List Value :=
  (columnValues field rows).take pivotValueLimit

namespace Request

variable (r : Request)

/-- The layout without references to fields that are not selected. -/
def layout : Pivot := r.pivot.restrict r.model

/-- The conditions of the filters on selected fields. -/
def conditions : List Condition := r.scope.conditions (Filter.restrict r.filters r.model)

/-- The tables that the request is about. -/
def source? : Option Source := Source.of? r.model r.joins

/-- The fields that a flat selection shows, each once: those chosen, as far as the model lists
them, or all. -/
def flatFields : List String :=
  match r.selection with
  | some fields => distinct (fields.filter r.model.hasField)
  | none => r.model.fieldNames

/-- The columns for rows. -/
def rowOutputs : List Output := r.layout.rows.filterMap r.scope.output?

/-- The columns that group rows. -/
def rowGroups : List Column := r.layout.rows.filterMap r.scope.column?

/-- A statement over the tables and under the conditions of the request. -/
def statement (outputs : List Output) (groups : List Column) : Statement where
  outputs := outputs
  source := r.source?
  conditions := r.conditions
  groups := groups

/-- A statement unless it would select nothing. -/
def statement? (outputs : List Output) (groups : List Column) : Option Statement :=
  if outputs.isEmpty then none else some (r.statement outputs groups)

/-- The fields one by one. -/
def flat : Option Statement := r.statement? (r.flatFields.filterMap r.scope.output?) []

/-- Measures for each group of rows. With no column at all, the number one for each row. -/
def grouped : Statement :=
  let outputs := r.rowOutputs ++ r.layout.values.filterMap r.scope.aggregate?
  r.statement (if outputs.isEmpty then [⟨.one, none⟩] else outputs) r.rowGroups

/-- The distinct values of a column, in order. -/
def valueLookup (column : Column) : Statement where
  distinct := true
  outputs := [⟨.column column, some column.field⟩]
  source := r.source?
  conditions := r.conditions ++ [.present column]
  ordered := true
  limit := some pivotValueLimit

/-- The columns for measures: of each value of the pivot column, every measure. -/
def pivotOutputs (column : Column) (values : List Value) : List Output :=
  values.flatMap fun v => r.layout.values.filterMap (r.scope.aggregateWhere? column v)

/-- Measures for each group of rows and each of the values of the pivot column. -/
def pivoted (column : Column) (values : List Value) : Option Statement :=
  r.statement? (r.rowOutputs ++ r.pivotOutputs column values) r.rowGroups

/-- How the request is answered. -/
def plan : Plan :=
  if r.model.isEmpty then .nothing
  else if r.layout.isPivoted then
    match r.layout.columns.head?.bind r.scope.column? with
    | none => .nothing
    | some column => .lookup (r.valueLookup column) column.field (r.pivoted column)
  else if r.layout.isEmpty then r.flat.elim .nothing .statement
  else .statement r.grouped

end Request

end QueryLoom
