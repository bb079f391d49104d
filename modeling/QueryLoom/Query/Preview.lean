import QueryLoom.Query.JoinWalk
import QueryLoom.Query.Scope

/-!
# Previews

`Request.preview?` selects every field of the model, in table and field order, whatever the layout
and the filters say. Without tables a line of text stands in for it.
-/

namespace QueryLoom

open Sql

namespace Request

/-- A selected column as a column of the preview, named only if it has an alias. -/
def previewOutput (r : Request) (c : String × String) : Output :=
  ⟨.column ⟨c.1, c.2⟩, r.aliases.get? c.1 c.2⟩

/-- The columns of the preview. -/
def previewOutputs (r : Request) : List Output := r.model.columns.map r.previewOutput

/-- The statement that shows every selected field, none for a model without tables. -/
def preview? (r : Request) : Option Statement :=
  (Source.of? r.model r.joins).map fun source =>
    let outputs := r.previewOutputs
    { outputs := if outputs.isEmpty then [⟨.all, none⟩] else outputs, source := some source }

/-- What stands in for the preview of a model without tables. -/
def previewPlaceholder : String :=
  "-- Select one or more tables in the data model to preview the query."

/-- The preview's text. -/
def previewText (d : Dialect) (r : Request) : String :=
  (r.preview?.map (·.render d)).getD previewPlaceholder

end Request

end QueryLoom
