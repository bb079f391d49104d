import QueryLoom.Json.Decoder
import QueryLoom.Text.LetterCase

/-!
# SQL dialects

A dialect is known by its name and by the character that quotes identifiers. Texts are in single
quotes in all of them.
-/

namespace QueryLoom.Sql

/-- The SQL dialects. -/
inductive Dialect where
  | sqlite
  | duckdb
  | postgres
  | mysql
deriving DecidableEq, Repr, Inhabited

namespace Dialect

def name : Dialect → String
  | .sqlite => "sqlite"
  | .duckdb => "duckdb"
  | .postgres => "postgres"
  | .mysql => "mysql"

/-- The dialects under their names. -/
def names : List (String × Dialect) :=
  [.sqlite, .duckdb, .postgres, .mysql].map fun d => (d.name, d)

/-- Reads a name in any letter case; PostgreSQL has two. -/
def parse? (s : String) : Option Dialect :=
  let lower := Text.toLower s
  if lower = "postgresql" then some .postgres else names.lookup lower

/-- The error text for a text that is no dialect. -/
def unsupportedMessage (s : String) : String := "Unsupported dialect: " ++ Text.toLower s

/-- The character around identifiers. -/
def identifierQuote : Dialect → Char
  | .mysql => '`'
  | .sqlite | .duckdb | .postgres => '"'

def toJson (d : Dialect) : Json := .text d.name

def decoder : Json.Decoder Dialect := .oneOf names

end Dialect

end QueryLoom.Sql
