import QueryLoom.Sql.Dialect

/-!
# Commands

1. `Flag` and `Operand` describe what a command takes on the command line.
2. `Command` is a command with its flags and operands. `commands` are the program's, `program` is
   what stands before any of them.
-/

namespace QueryLoom.CommandLine

/-- Which texts a flag or operand takes. -/
inductive Accepts where
  | any
  /-- A path, which is not empty. -/
  | path
  | dialect
deriving DecidableEq, Repr

def Accepts.allows : Accepts → String → Bool
  | .any, _ => true
  | .path, s => s ≠ ""
  | .dialect, s => (Sql.Dialect.parse? s).isSome

/-- A flag: its long name, its letter if it has one, and the value it takes if it takes one. -/
structure Flag where
  long : String
  letter : Option Char := none
  value : Option (String × Accepts) := none
  about : String
deriving DecidableEq, Repr

/-- A value given by its place. -/
structure Operand where
  name : String
  accepts : Accepts
  about : String := ""
deriving DecidableEq, Repr

/-- A command. -/
structure Command where
  name : String
  about : String
  flags : List Flag := []
  operands : List Operand := []
deriving DecidableEq, Repr

/-- The flag for the database, which every command takes. -/
def dbFlag : Flag where
  long := "db"
  value := some ("DB", .path)
  about := "Database file (overrides the settings file; \":memory:\" for scratch)"

/-- The flag for help, which every command takes. -/
def helpFlag : Flag := { long := "help", letter := some 'h', about := "Print help" }

/-- The flag for the version of the program. -/
def versionFlag : Flag := { long := "version", letter := some 'V', about := "Print version" }

/-- The name of the flag for a dialect. -/
def dialectLong : String := "dialect"

/-- The flag for a dialect. -/
def dialectFlag (about : String) : Flag :=
  { long := dialectLong, letter := some 'd', value := some ("DIALECT", .dialect), about }

/-- The flag for running a query. -/
def executeFlag : Flag where
  long := "execute"
  letter := some 'e'
  about := "Run the query and print the rows as JSON"

/-- The commands of the program. -/
def commands : List Command :=
  [{ name := "compile"
     about := "Compile an analysis request to SQL"
     flags :=
       [dialectFlag "SQL dialect to generate (defaults to the settings file)", dbFlag, executeFlag,
         helpFlag]
     operands := [⟨"REQUEST", .path, "Path to the request JSON (UI state shape)"⟩] },
   { name := "preview"
     about := "Print the preview query for a request"
     flags := [dialectFlag "SQL dialect to generate", dbFlag, helpFlag]
     operands := [⟨"REQUEST", .path, "Path to the request JSON"⟩] },
   { name := "load"
     about := "Replace every table in the store with the tables of a JSON dataset"
     flags := [dbFlag, helpFlag]
     operands := [⟨"DATA", .path, "Path to \x7b\"table\": [rows]\x7d JSON"⟩] },
   { name := "tables"
     about := "List the store's tables and their fields"
     flags := [dbFlag, helpFlag] },
   { name := "samples"
     about := "Show up to 50 distinct values of a field"
     flags := [dbFlag, helpFlag]
     operands := [⟨"TABLE", .any, ""⟩, ⟨"FIELD", .any, ""⟩] }]

/-- The command that prints help. -/
def helpCommand : Command where
  name := "help"
  about := "Print this message or the help of the given subcommand(s)"

/-- The program, seen as a command that takes another one. -/
def program : Command where
  name := "modelsql"
  about := "modelsql - compile data models, joins, filters and pivots to SQL"
  flags := [dbFlag, helpFlag, versionFlag]

end QueryLoom.CommandLine
