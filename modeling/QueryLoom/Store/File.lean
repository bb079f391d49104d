import QueryLoom.Store.Database

/-!
# Databases in files

`Database.fileText` is a database as the text of a file: a line that says so, then JSON.
`Database.ofFileText?` reads it back.
-/

namespace QueryLoom

namespace Affinity

/-- The affinities under their names. -/
def names : List (String × Affinity) :=
  [("integer", .integer), ("real", .real), ("text", .text), ("any", .any)]

def toJson (a : Affinity) : Json :=
  .text (((names.find? (·.2 = a)).map (·.1)).getD "any")

def decoder : Json.Decoder Affinity := .oneOf names

end Affinity

namespace StoredColumn

def toJson (c : StoredColumn) : Json :=
  .object [("name", .text c.name), ("affinity", c.affinity.toJson)]

def record : Json.Record StoredColumn where
  noun := "a column"
  blank := default
  fields :=
    [.of "name" .required .string fun c s => { c with name := s },
     .of "affinity" .required Affinity.decoder fun c a => { c with affinity := a }]

end StoredColumn

namespace StoredTable

def toJson (t : StoredTable) : Json :=
  .object
    [("name", .text t.name), ("columns", .array (t.columns.map StoredColumn.toJson)),
     ("rows", .array (t.rows.map fun r => .array (r.map Value.toJson)))]

def record : Json.Record StoredTable where
  noun := "a table"
  blank := default
  fields :=
    [.of "name" .required .string fun t s => { t with name := s },
     .of "columns" .required (.list StoredColumn.record.decoder) fun t x => { t with columns := x },
     .of "rows" .required (.list (.list Value.decoder)) fun t x => { t with rows := x }]

end StoredTable

namespace Database

/-- The line that a database file begins with. -/
def fileMark : List Char := "database\n".toList

/-- A database as the text of a file. -/
def fileText (db : Database) : String :=
  String.ofList (fileMark ++ (Json.array (db.tables.map StoredTable.toJson)).write)

/-- The database of a file's text. -/
def ofFileText? (s : String) : Option Database :=
  if fileMark.isPrefixOf s.toList then
    let body := String.ofList (s.toList.drop fileMark.length)
    ((Json.Decoder.list StoredTable.record.decoder).text body).toOption.map Database.mk
  else none

end Database

end QueryLoom
