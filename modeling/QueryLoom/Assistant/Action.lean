import QueryLoom.Assistant.Suggestion
import QueryLoom.Filter

/-!
# Actions of the assistant

1. `Action` is what the assistant may do: change the pivot layout, add a filter, run a query,
   propose an analysis or a model, suggest fields.
2. In JSON an action is an object whose member `action` names it.
-/

namespace QueryLoom

/-- A layout and filters to put in place of the current ones. -/
structure AnalysisProposal where
  pivot : Pivot := {}
  filters : List Filter := []
deriving Repr, Inhabited

namespace AnalysisProposal

def toJson (p : AnalysisProposal) : Json :=
  .object [("pivotConfig", p.pivot.toJson), ("filters", .array (p.filters.map Filter.toJson))]

def record : Json.Record AnalysisProposal where
  noun := "struct AnalysisProposal"
  blank := default
  fields :=
    [.of "pivotConfig" .defaulted Pivot.record.decoder fun p x => { p with pivot := x },
     .of "filters" .defaulted (.list Filter.record.decoder) fun p x => { p with filters := x }]

end AnalysisProposal

/-- A model with joins, for the user to adopt. -/
structure ModelProposal where
  model : Model := {}
  joins : List Join := []
deriving DecidableEq, Repr, Inhabited

namespace ModelProposal

def toJson (p : ModelProposal) : Json :=
  .object
    [("modelConfiguration", p.model.toJson), ("joins", .array (p.joins.map Join.toJson))]

def record : Json.Record ModelProposal where
  noun := "struct ModelProposal"
  blank := default
  fields :=
    [.of "modelConfiguration" .required Model.decoder fun p x => { p with model := x },
     .of "joins" .defaulted (.list Join.record.decoder) fun p x => { p with joins := x }]

end ModelProposal

/-- Fields and joins that would let a model answer a question. -/
structure Suggestions where
  fields : List FieldSuggestion := []
  joins : List Join := []
  reason : Option String := none
deriving DecidableEq, Repr, Inhabited

/-- What the assistant may do. -/
inductive Action where
  | pivot (patch : PivotPatch)
  | filter (f : Filter)
  | query (sql : String)
  | proposeAnalysis (p : AnalysisProposal)
  | proposeModel (p : ModelProposal)
  | suggest (s : Suggestions)
deriving Repr

namespace Action

/-! ## JSON -/

/-- The name of an action. -/
def tag : Action → String
  | .pivot _ => "pivot"
  | .filter _ => "filter"
  | .query _ => "query"
  | .proposeAnalysis _ => "propose_analysis"
  | .proposeModel _ => "propose_model"
  | .suggest _ => "suggest_fields"

/-- What an action's object holds besides its name. -/
def members : Action → List (String × Json)
  | .pivot patch => [("config", patch.toJson)]
  | .filter f => [("config", f.toJson)]
  | .query sql => [("query", .text sql)]
  | .proposeAnalysis p => [("analysisProposal", p.toJson)]
  | .proposeModel p => [("modelProposal", p.toJson)]
  | .suggest s =>
    [("suggestedFields", .array (s.fields.map FieldSuggestion.toJson)),
      ("suggestedJoins", .array (s.joins.map Join.toJson))]
      ++ Json.optionalMember "reason" (s.reason.map .text)

def toJson (a : Action) : Json := .object (("action", .text a.tag) :: a.members)

/-- Changes what is suggested. -/
def mapSuggestions (f : Suggestions → Suggestions) : Action → Action
  | .suggest s => .suggest (f s)
  | a => a

/-- The record of an action's members, by the name of the action. -/
def choice (name : String) (blank : Action) (fields : List (Json.Field Action)) :
    Json.Record Action :=
  ⟨"struct variant AiAction::" ++ name, blank, fields⟩

def tagged : Json.Tagged Action where
  noun := "internally tagged enum AiAction"
  tag := "action"
  choices :=
    [("pivot", choice "Pivot" (.pivot {})
        [.of "config" .required PivotPatch.record.decoder fun _ x => .pivot x]),
     ("filter", choice "Filter" (.filter default)
        [.of "config" .required Filter.record.decoder fun _ x => .filter x]),
     ("query", choice "Query" (.query "")
        [.of "query" .required .string fun _ x => .query x]),
     ("propose_analysis", choice "ProposeAnalysis" (.proposeAnalysis {})
        [.of "analysisProposal" .required AnalysisProposal.record.decoder
          fun _ x => .proposeAnalysis x]),
     ("propose_model", choice "ProposeModel" (.proposeModel {})
        [.of "modelProposal" .required ModelProposal.record.decoder
          fun _ x => .proposeModel x]),
     ("suggest_fields", choice "SuggestFields" (.suggest {})
        [.of "suggestedFields" .required (.list FieldSuggestion.record.decoder)
          fun a x => a.mapSuggestions fun s => { s with fields := x },
         .of "suggestedJoins" .defaulted (.list Join.record.decoder)
          fun a x => a.mapSuggestions fun s => { s with joins := x },
         .of "reason" .defaulted (.optional .string)
          fun a x => a.mapSuggestions fun s => { s with reason := x }])]

def decoder : Json.Decoder Action := tagged.decoder

end Action

end QueryLoom
