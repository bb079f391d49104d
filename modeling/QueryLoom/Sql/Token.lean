import QueryLoom.Sql.Dialect
import QueryLoom.Value

/-!
# SQL tokens

1. `Token` is a piece of SQL: a word, a quoted name, a quoted text, a number, a symbol or a space.
2. `Token.write` gives its text in a dialect; inside quotes the quote character is written twice.
3. `literal` is the token of a cell value, `Column.tokens` those of a column of a table.
-/

namespace QueryLoom.Sql

/-- A piece of SQL. -/
inductive Token where
  | word (s : String)
  | name (s : String)
  | text (s : String)
  | number (digits : List Char)
  | symbol (c : Char)
  | space
deriving DecidableEq, Repr

/-- A text with one character written twice wherever it occurs. -/
def doubled (q : Char) : List Char → List Char
  | [] => []
  | c :: cs => if c = q then q :: q :: doubled q cs else c :: doubled q cs

/-- A text between quotes, quotes inside it written twice. -/
def enclose (q : Char) (cs : List Char) : List Char := q :: (doubled q cs ++ [q])

namespace Token

/-- The text of a token. -/
def write (d : Dialect) : Token → List Char
  | .word s => s.toList
  | .name s => enclose d.identifierQuote s.toList
  | .text s => enclose '\'' s.toList
  | .number digits => digits
  | .symbol c => [c]
  | .space => [' ']

/-- The text of a list of tokens. -/
def writeAll (d : Dialect) (ts : List Token) : List Char := ts.flatMap (·.write d)

/-- `writeAll` as a string. -/
def render (d : Dialect) (ts : List Token) : String := String.ofList (writeAll d ts)

/-- Parts with a comma and a space between them. -/
def commaSeparated : List (List Token) → List Token
  | [] => []
  | [p] => p
  | p :: ps => p ++ [.symbol ',', .space] ++ commaSeparated ps

/-- Parts that are not empty, with a space between them. -/
def spaced (parts : List (List Token)) : List Token :=
  (parts.filter (!·.isEmpty)).intersperse [.space] |>.flatten

end Token

/-- A number in SQL has no exponent; what is not finite has none at all. -/
def literal : Value → Token
  | .null => .word "NULL"
  | .integer n => .number (Decimal.integer n.toInt)
  | .real x => if x.isFinite then .number (Value.plainLayout.write x) else .word "NULL"
  | .text s => .text s

/-- A column of a table. -/
structure Column where
  table : String
  field : String
deriving DecidableEq, Repr, Inhabited

/-- A column with its table's name before it. -/
def Column.tokens (c : Column) : List Token := [.name c.table, .symbol '.', .name c.field]

end QueryLoom.Sql
