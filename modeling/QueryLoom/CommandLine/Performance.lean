import QueryLoom.CommandLine.Arguments
import QueryLoom.Query.Compile
import QueryLoom.Query.Preview
import QueryLoom.Query.Samples
import QueryLoom.Settings.Loading
import QueryLoom.Store.Select

/-!
# Carrying out orders

1. `Ending` is what a run of the program prints and the code it ends with.
2. `Store` is a database that may be missing, and the file it came from.
3. `perform` carries out a task, and `runProgram` all that a list of arguments asks for.
-/

namespace QueryLoom.CommandLine

/-- What a run of the program comes to. -/
structure Ending where
  code : Nat
  output : String := ""
  errors : String := ""
deriving DecidableEq, Repr

/-- All went well. -/
def succeeded (output : String) : Ending := ⟨0, output, ""⟩

/-- Something went wrong, and nothing else is printed. -/
def failed (activity reason : String) : Ending := ⟨1, "", activity ++ ": " ++ reason ++ "\n"⟩

/-- Texts, each on a line of its own. -/
def printed (ls : List String) : String := String.join (ls.map (· ++ "\n"))

/-! ## Files -/

/-- The wording of a fault in a file of JSON. -/
def faultReason : Json.Fault → String
  | .broken .malformed => "malformed JSON"
  | .broken .cut => "unexpected end of JSON"
  | .mismatch m => m.message

/-- A file cannot be read as a text. -/
def unreadable (path reason : String) : Ending :=
  failed ("Error reading file '" ++ path ++ "'") reason

/-- Why a file that is not there cannot be read. -/
def isMissingReason : String := "No such file or directory (os error 2)"

/-- The value in what stands at a path. -/
def decodeNode {α : Type} (dec : Json.Decoder α) (path : String) :
    Option FileNode → Except Ending α
  | none => .error (unreadable path isMissingReason)
  | some .directory => .error (unreadable path isDirectoryReason)
  | some (.database _) | some .binary => .error (unreadable path notTextReason)
  | some (.text s) =>
    (dec.text s).mapError fun f => failed ("Error parsing '" ++ path ++ "'") (faultReason f)

/-- The value in a file. -/
def decodeFile {α : Type} (dec : Json.Decoder α) (path : String) : Errand (Except Ending α) := do
  return decodeNode dec path (← Errand.lookAt path)

/-! ## Stores -/

/-- A database, or why every statement to it fails. -/
abbrev Contents := Except DatabaseError Database

/-- A database with the file that keeps it, if one does. -/
structure Store where
  contents : Contents
  file : Option String

namespace Store

/-- A store that no file keeps. -/
def scratch : Store := ⟨.ok {}, none⟩

/-- What a file holds: nothing yet, a database, or something else. -/
def contentsOf : FileNode → Contents
  | .database db => .ok db
  | .text s => if s = "" then .ok {} else .error .notADatabase
  | .binary => .error .notADatabase
  | .directory => .error .cannotOpen

/-- The store at a path. -/
def openAt (path : String) : Errand (Except StoreError Store) :=
  if path = ":memory:" || path = "" then return .ok scratch
  else do
    return (← Errand.openAt path).map fun n => ⟨contentsOf n, some path⟩

/-- A store answers queries as its database does. -/
def answer : Answering Contents := fun contents sql =>
  match contents with
  | .ok db => Database.answer db sql |>.map id .ok
  | .error e => (.error (.database e), contents)

/-- Keeps a changed database in its file. A file into which nothing was ever put stays empty. -/
def keep (before after : Database) : Option String → Errand Unit
  | none => return
  | some path =>
    if before.tables.isEmpty && after.tables.isEmpty then return else Errand.saveAt path after

end Store

/-! ## Tasks -/

/-- The wording of an error of the database. -/
def reasonOf (e : DatabaseError) : String := (StoreError.database e).message

/-- The tables that a request may name: its own catalogue or, if that is empty, the store's. -/
def withCatalog (r : Request) (contents : Contents) : Except DatabaseError Request :=
  if r.catalog.isEmpty then contents.map fun db => { r with catalog := db.listings } else .ok r

/-- Compiles a request, and runs the query if that is wanted. -/
def compile (store : Store) (r : Request) (d : Sql.Dialect) (execute : Bool) : Ending :=
  match withCatalog r store.contents with
  | .error e => failed "Error discovering tables" (reasonOf e)
  | .ok r =>
    match ((r.compile d).run Store.answer store.contents).1 with
    | .error e => failed "Compilation error" e.message
    | .ok none => succeeded ""
    | .ok (some sql) =>
      if !execute then succeeded (printed [sql])
      else
        match (Store.answer store.contents sql).1 with
        | .error e => failed "Query error" e.message
        | .ok rows => succeeded (printed [(Json.array (rows.map Row.toJson)).indented])

/-- A table with its fields. -/
def listingLine (l : Listing) : String :=
  l.name ++ " (" ++ String.intercalate ", " l.fields ++ ")"

/-- A loaded table with the number of its rows. -/
def loadedLine (t : String × List Row) : String :=
  t.1 ++ ": " ++ String.ofList (Decimal.natural t.2.length) ++ " rows"

/-- Loads a dataset into a store. -/
def load (store : Store) (ds : Dataset) : Errand Ending :=
  match store.contents with
  | .error e => return failed "Load error" (reasonOf e)
  | .ok db => do
    let (fault, after) := db.reset ds
    Store.keep db after store.file
    match fault with
    | some e => return failed "Load error" (reasonOf e)
    | none => return succeeded (printed (ds.tables.map loadedLine))

/-- Carries out a task on a store. -/
def performOn (store : Store) (fallback : Sql.Dialect) : Task → Errand Ending
  | .compile path d execute => do
    match ← decodeFile Request.record.decoder path with
    | .error e => return e
    | .ok r => return compile store r (d.getD fallback) execute
  | .preview path d => do
    match ← decodeFile Request.record.decoder path with
    | .error e => return e
    | .ok r => return succeeded (printed [r.previewText (d.getD fallback)])
  | .load path => do
    match ← decodeFile Dataset.decoder path with
    | .error e => return e
    | .ok ds => load store ds
  | .tables =>
    match store.contents with
    | .error e => return failed "Error discovering tables" (reasonOf e)
    | .ok db => return succeeded (printed (db.listings.map listingLine))
  | .samples table field =>
    match ((samples .sqlite table field).run Store.answer store.contents).1 with
    | .error e => return failed ("Error fetching samples for " ++ table ++ "." ++ field) e.message
    | .ok vs => return succeeded (printed vs)

/-- Whether a task needs a store. -/
def needsStore : Task → Bool
  | .preview _ _ => false
  | _ => true

/-- Carries out a task under settings. -/
def perform (settings : Settings) (task : Task) (db : Option String) : Errand Ending :=
  let fallback := settings.store.dialect
  if !needsStore task then performOn Store.scratch fallback task
  else do
    let env ← Errand.valuesOf (references settings.store.path)
    match db.elim (settings.store.resolvedPath env) .ok with
    | .error e => return failed "Configuration error" e.message
    | .ok path =>
      match ← Store.openAt path with
      | .error e => return failed ("Error opening store '" ++ path ++ "'") e.message
      | .ok store => performOn store fallback task

/-- A run of the program. -/
def runProgram (args : List String) : Errand Ending :=
  match Order.ofArguments args with
  | .misused => return ⟨2, "", "Usage: " ++ program.name ++ " [OPTIONS] <COMMAND>\n"⟩
  | .print text => return succeeded text
  | .perform task db => do
    match ← Settings.load with
    | .error e => return failed "Configuration error" e.message
    | .ok settings => perform settings task db

end QueryLoom.CommandLine
