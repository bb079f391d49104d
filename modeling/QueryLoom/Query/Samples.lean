import QueryLoom.Sql.Token
import QueryLoom.Store.Dialogue

/-!
# Sample values

`samples` asks a store for some of the distinct values of a field.
-/

namespace QueryLoom

open Sql Token

/-- The number of values that make a sample. -/
def sampleLimit : Nat := 50

/-- The query for distinct values of a field. -/
def sampleTokens (table field : String) : List Token :=
  [.word "SELECT", .space, .word "DISTINCT", .space, .name field, .space, .word "FROM", .space,
    .name table, .space, .word "WHERE", .space, .name field, .space, .word "IS", .space,
    .word "NOT", .space, .word "NULL", .space, .word "LIMIT", .space,
    .number (Decimal.natural sampleLimit)]

/-- The display texts of a sample, taken from the rows of its query. -/
def sampleTexts (field : String) (rows : List Row) : List String :=
  ((columnValues field rows).take sampleLimit).map Value.display

/-- Some of the distinct values of a field, as texts. -/
def samples (d : Dialect) (table field : String) : Dialogue (List String) :=
  .ask (Token.render d (sampleTokens table field)) fun rows => .done (sampleTexts field rows)

end QueryLoom
