import QueryLoom.Catalog
import QueryLoom.Filter
import QueryLoom.Join
import QueryLoom.Pivot

/-!
# Requests

`Request` is all that an analysis asks for: a data model with its joins, a pivot layout, filters,
the store's catalogue, aliases and, if given, an explicit list of fields.
-/

namespace QueryLoom

/-- An analysis request. -/
structure Request where
  model : Model := {}
  joins : List Join := []
  pivot : Pivot := {}
  filters : List Filter := []
  catalog : List Listing := []
  aliases : Aliases := {}
  /-- The fields to select when the pivot layout is empty: all of the model if not given. -/
  selection : Option (List String) := none
deriving Repr, Inhabited

namespace Request

/-- A request in JSON, its aliases in the order given. -/
def encode (r : Request) (names : Entries String) : Json :=
  .object
    ([("modelConfiguration", r.model.toJson),
      ("joins", .array (r.joins.map Join.toJson)),
      ("pivotConfig", r.pivot.toJson),
      ("filters", .array (r.filters.map Filter.toJson)),
      ("discoveredTables", .array (r.catalog.map Listing.toJson)),
      ("fieldAliases", Aliases.listed names)]
      ++ Json.optionalMember "selectedFields" (r.selection.map .texts))

def toJson (r : Request) : Json := r.encode r.aliases.sorted

def record : Json.Record Request where
  noun := "struct QueryRequest"
  blank := default
  fields :=
    [.of "modelConfiguration" .defaulted Model.decoder fun r x => { r with model := x },
     .of "joins" .defaulted (.list Join.record.decoder) fun r x => { r with joins := x },
     .of "pivotConfig" .defaulted Pivot.record.decoder fun r x => { r with pivot := x },
     .of "filters" .defaulted (.list Filter.record.decoder) fun r x => { r with filters := x },
     .of "discoveredTables" .defaulted (.list Listing.record.decoder)
       fun r x => { r with catalog := x },
     .of "fieldAliases" .defaulted Aliases.decoder fun r x => { r with aliases := x },
     .of "selectedFields" .defaulted (.optional .strings) fun r x => { r with selection := x }]

end Request

end QueryLoom
