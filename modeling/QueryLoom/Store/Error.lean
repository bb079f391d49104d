import QueryLoom.Sql.Token

/-!
# Errors of a store

`StoreError` is why a store gives no answer; `StoreError.message` is its wording.
-/

namespace QueryLoom

/-- Why a database refuses a statement. -/
inductive DatabaseError where
  | noSuchTable (name : String)
  | noSuchColumn (table field : String)
  | tableExists (name : String)
  | reservedName (name : String)
  | duplicateColumn (name : String)
  /-- A table was to be made without columns. -/
  | noColumns
  /-- A transaction was to begin while another one is under way. -/
  | nestedTransaction
  /-- A piece of the text is no token. -/
  | unrecognized (piece : String)
  /-- The text is no statement that the database knows. -/
  | notUnderstood
  /-- The file that should hold the database holds something else. -/
  | notADatabase
  | cannotOpen
deriving DecidableEq, Repr

def DatabaseError.message : DatabaseError → String
  | .noSuchTable name => "no such table: " ++ name
  | .noSuchColumn table field => "no such column: " ++ table ++ "." ++ field
  | .tableExists name => "table " ++ String.ofList (Sql.enclose '"' name.toList) ++ " already exists"
  | .reservedName name => "object name reserved for internal use: " ++ name
  | .duplicateColumn name => "duplicate column name: " ++ name
  | .noColumns => "near \")\": syntax error"
  | .nestedTransaction => "cannot start a transaction within a transaction"
  | .unrecognized piece => "unrecognized token: \"" ++ piece ++ "\""
  | .notUnderstood => "syntax error"
  | .notADatabase => "file is not a database"
  | .cannotOpen => "unable to open database file"

/-- Why a store gives no answer. -/
inductive StoreError where
  | database (cause : DatabaseError)
  | query (reason : String)
  | io (reason : String)
deriving DecidableEq, Repr

def StoreError.message : StoreError → String
  | .database cause => "SQLite error: " ++ cause.message
  | .query reason => "Query failed: " ++ reason
  | .io reason => "IO error: " ++ reason

end QueryLoom
