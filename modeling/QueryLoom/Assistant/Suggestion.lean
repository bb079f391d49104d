import QueryLoom.Join
import QueryLoom.Pivot

/-!
# Suggested fields

1. `FieldSuggestion` names fields of a table that would help the model.
2. `Workspace` is a model with its declared joins. `Workspace.accept` adds suggestions to it: tables
   and fields and joins that are there stay where they are, new ones come at the end.
-/

namespace QueryLoom

/-- Fields of a table that a model could take in. -/
structure FieldSuggestion where
  table : String
  fields : List String
deriving DecidableEq, Repr, Inhabited

namespace FieldSuggestion

def toJson (s : FieldSuggestion) : Json :=
  .object [("table", .text s.table), ("fields", .texts s.fields)]

def record : Json.Record FieldSuggestion where
  noun := "struct FieldSuggestion"
  blank := default
  fields :=
    [.of "table" .required .string fun s x => { s with table := x },
     .of "fields" .required .strings fun s xs => { s with fields := xs }]

end FieldSuggestion

/-- The model with the suggested fields. -/
def Model.extendAll (m : Model) (suggestions : List FieldSuggestion) : Model :=
  suggestions.foldl (fun m s => m.extend s.table s.fields) m

/-- Declared joins with those suggested that are not among them. -/
def Join.declare (joins : List Join) : List Join → List Join
  | [] => joins
  | j :: js => Join.declare (if joins.contains j then joins else joins ++ [j]) js

/-- A model with its declared joins. -/
structure Workspace where
  model : Model := {}
  joins : List Join := []
deriving DecidableEq, Repr, Inhabited

/-- Takes suggestions in. -/
def Workspace.accept (w : Workspace) (suggestions : List FieldSuggestion) (joins : List Join) :
    Workspace :=
  ⟨w.model.extendAll suggestions, Join.declare w.joins joins⟩

end QueryLoom
