import QueryLoom.Model

/-!
# Catalogue and aliases

1. `Listing` is a table with its columns, as a store reports it.
2. `Aliases` gives display names to fields of tables.
-/

namespace QueryLoom

/-- A table of a store with its columns. -/
structure Listing where
  name : String
  fields : List String
deriving DecidableEq, Repr, Inhabited

namespace Listing

def hasField (l : Listing) (field : String) : Bool := l.fields.contains field

def toJson (l : Listing) : Json :=
  .object [("name", .text l.name), ("fields", .texts l.fields)]

def record : Json.Record Listing where
  noun := "struct DiscoveredTable"
  blank := default
  fields :=
    [.of "name" .required .string fun l s => { l with name := s },
     .of "fields" .required .strings fun l xs => { l with fields := xs }]

end Listing

/-- Display names of columns, under the names of table and field with a point between. -/
structure Aliases where
  names : Entries String := []
deriving DecidableEq, Repr, Inhabited

namespace Aliases

/-- Sets the display name of a column. -/
def insert (a : Aliases) (table field name : String) : Aliases :=
  ⟨Entries.put a.names (qualifiedName table field) name⟩

/-- The display name of a column, a blank one counting as none. -/
def get? (a : Aliases) (table field : String) : Option String :=
  (Entries.get? a.names (qualifiedName table field)).filter (· ≠ "")

def isEmpty (a : Aliases) : Bool := a.names.isEmpty

/-- The entries in the order of their keys. -/
def sorted (a : Aliases) : List (String × String) :=
  a.names.mergeSort fun p q => decide (p.1 ≤ q.1)

/-- Entries in JSON, in the order given. -/
def listed (names : Entries String) : Json := .object (names.map fun p => (p.1, .text p.2))

def toJson (a : Aliases) : Json := listed a.sorted

def decoder : Json.Decoder Aliases := fun d =>
  (Json.Decoder.pairs "a map" Json.Decoder.string d).map fun ps => ⟨Entries.ofList ps⟩

end Aliases

end QueryLoom
