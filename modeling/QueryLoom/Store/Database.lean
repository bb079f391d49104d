import QueryLoom.Catalog
import QueryLoom.Store.Affinity
import QueryLoom.Store.Error

/-!
# Databases

1. `Database` holds tables in the order in which they were made. Names of tables and of columns are
   the same if they differ only in the case of ASCII letters.
2. `Database.create` makes a table, `Database.load` makes one of a list of rows, `Database.reset`
   drops the user's tables and loads a dataset.
3. `Database.listings` are the user's tables with their columns.
-/

namespace QueryLoom

/-- A column of a stored table. -/
structure StoredColumn where
  name : String
  affinity : Affinity
deriving DecidableEq, Repr, Inhabited

/-- A table: columns, and rows with one value for each column. -/
structure StoredTable where
  name : String
  columns : List StoredColumn
  rows : List (List Value)
deriving Repr, Inhabited

/-- Tables in the order in which they were made. -/
structure Database where
  tables : List StoredTable := []
deriving Repr, Inhabited

/-! ## Names -/

/-- A name with its ASCII letters in lower case. -/
def foldedName (name : String) : List Char := name.toList.map Char.toLower

/-- Whether two names are the same up to the case of ASCII letters. -/
def sameName (a b : String) : Bool := foldedName a = foldedName b

/-- The letters that names of the database's own tables begin with. -/
def ownLetters : List Char := ['s', 'q', 'l', 'i', 't', 'e']

/-- Whether no user's table can have the name. -/
def isReserved (name : String) : Bool := (ownLetters ++ ['_']).isPrefixOf (foldedName name)

/-- Whether a table counts as the user's: its name does not begin with the letters and one more
character, whatever that is. -/
def isUserName (name : String) : Bool :=
  !(ownLetters.isPrefixOf (foldedName name) && ownLetters.length < name.length)

/-- A null character ends a statement, so a name that holds one leaves a quote without its end. -/
def wholeName (name : String) : Except DatabaseError Unit :=
  if name.toList.contains '\x00' then
    .error (.unrecognized
      (String.ofList ('"' :: Sql.doubled '"' (name.toList.takeWhile (· ≠ '\x00')))))
  else .ok ()

/-! ## Tables -/

namespace StoredTable

/-- The columns of a list of rows, in order of first mention. -/
def columnNames (rows : List Row) : List String := distinct (rows.flatMap Row.columns)

/-- The column that a list of rows gives for a name. -/
def columnOf (rows : List Row) (name : String) : StoredColumn :=
  ⟨name, .ofValues (rows.filterMap (·.get? name))⟩

/-- A row as a table with the given columns holds it. -/
def storedRow (columns : List StoredColumn) (r : Row) : List Value :=
  columns.map fun c => c.affinity.stored ((r.get? c.name).getD .null)

/-- The table of a list of rows. -/
def ofRows (name : String) (rows : List Row) : StoredTable :=
  let columns := (columnNames rows).map (columnOf rows)
  ⟨name, columns, rows.map (storedRow columns)⟩

/-- Checks the columns of a table from left to right, `before` being the names of those already
seen. -/
def checkColumns (before : List String) : List String → Except DatabaseError Unit
  | [] => .ok ()
  | c :: cs => do
    wholeName c
    if before.any (sameName c) then .error (.duplicateColumn c)
    checkColumns (c :: before) cs

/-- Why a table with such columns cannot be. -/
def check (t : StoredTable) : Except DatabaseError Unit :=
  if t.columns.isEmpty then .error .noColumns
  else checkColumns [] (t.columns.map (·.name))

end StoredTable

namespace Database

/-- The table of a name. -/
def table? (db : Database) (name : String) : Option StoredTable :=
  db.tables.find? fun t => sameName t.name name

/-- Makes a table. -/
def create (db : Database) (t : StoredTable) : Except DatabaseError Database := do
  wholeName t.name
  if isReserved t.name then .error (.reservedName t.name)
  if (db.table? t.name).isSome then .error (.tableExists t.name)
  t.check
  .ok ⟨db.tables ++ [t]⟩

/-- Makes a table of rows, none if there are no rows. -/
def load (db : Database) (name : String) (rows : List Row) : Except DatabaseError Database :=
  if rows.isEmpty then .ok db else db.create (.ofRows name rows)

/-- The database without the user's tables. -/
def cleared (db : Database) : Database := ⟨db.tables.filter fun t => !isUserName t.name⟩

/-- Loads tables one after the other, up to the first that cannot be. -/
def loadAll (db : Database) : List (String × List Row) → Option DatabaseError × Database
  | [] => (none, db)
  | t :: ts =>
    match db.load t.1 t.2 with
    | .ok db => loadAll db ts
    | .error e => (some e, db)

/-- Drops the user's tables and loads a dataset: what went wrong, and the database after it. -/
def reset (db : Database) (ds : Dataset) : Option DatabaseError × Database :=
  db.cleared.loadAll ds.tables

/-- The user's tables with their columns. -/
def listings (db : Database) : List Listing :=
  (db.tables.filter fun t => isUserName t.name).map fun t => ⟨t.name, t.columns.map (·.name)⟩

end Database

end QueryLoom
