import QueryLoom.Json.Decoder

/-!
# Data models

1. `Model` is the data model in use: the selected tables, each with its selected fields. The first
   table is the base table of every query, and a field that several tables list belongs to the
   first of them.
2. `Model.insert` selects a table, `Model.extend` adds fields to one.
3. The questions asked of a model: its base table, the table of a field, its fields.
-/

namespace QueryLoom

/-- The selected tables with their selected fields, in order of selection. -/
structure Model where
  tables : Entries (List String) := []
deriving DecidableEq, Repr, Inhabited

/-- The items of a list that are not in `seen`, each once, in order. -/
def distinctAfter (seen : List String) : List String → List String
  | [] => []
  | x :: xs => if seen.contains x then distinctAfter seen xs else x :: distinctAfter (x :: seen) xs

/-- The items of a list, each once, in order. -/
def distinct (xs : List String) : List String := distinctAfter [] xs

namespace Model

/-- Selects a table with a list of fields. A table that is there keeps its place. -/
def insert (m : Model) (table : String) (fields : List String) : Model :=
  ⟨Entries.put m.tables table fields⟩

/-- The fields of a table, if it is selected. -/
def fields? (m : Model) (table : String) : Option (List String) := Entries.get? m.tables table

/-- Adds to a table the fields that it does not list yet. A table that is not selected comes at
the end. -/
def extend (m : Model) (table : String) (fields : List String) : Model :=
  let old := (m.fields? table).getD []
  m.insert table (old ++ distinctAfter old fields)

/-- The table names, in order of selection. -/
def tableNames (m : Model) : List String := Entries.keys m.tables

/-- The first table. -/
def base? (m : Model) : Option String := m.tableNames.head?

def hasTable (m : Model) (table : String) : Bool := m.tableNames.contains table

/-- The first table that lists a field. -/
def tableOf? (m : Model) (field : String) : Option String :=
  (m.tables.find? fun t => t.2.contains field).map (·.1)

/-- Whether any table lists a field. -/
def hasField (m : Model) (field : String) : Bool := (m.tableOf? field).isSome

/-- The fields of all tables, each once, in order. -/
def fieldNames (m : Model) : List String := distinct (m.tables.flatMap (·.2))

/-- Table and field of everything selected, in order. -/
def columns (m : Model) : List (String × String) :=
  m.tables.flatMap fun t => t.2.map fun f => (t.1, f)

def isEmpty (m : Model) : Bool := m.tables.isEmpty

/-! ## JSON -/

def toJson (m : Model) : Json :=
  .object (m.tables.map fun t => (t.1, .texts t.2))

def decoder : Json.Decoder Model := fun d =>
  (Json.Decoder.entries Json.Decoder.strings d).map Model.mk

end Model

/-- The name of a field with its table's name before it. -/
def qualifiedName (table field : String) : String := table ++ "." ++ field

end QueryLoom
