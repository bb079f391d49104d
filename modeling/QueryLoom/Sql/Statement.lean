import QueryLoom.Aggregation
import QueryLoom.Join
import QueryLoom.Sql.Token

/-!
# SQL statements

1. The parts of a `SELECT` statement as data: what is selected, from where, under which conditions,
   in which groups.
2. `Statement.tokens` and `Statement.render` write one.
-/

namespace QueryLoom.Sql

open Token

/-- What a column of the result is computed from. -/
inductive Expr where
  | column (c : Column)
  | aggregate (f : Aggregation) (c : Column)
  /-- The aggregate of a measure over the rows whose column has a value. -/
  | aggregateWhere (f : Aggregation) (c : Column) (v : Value) (measure : Column)
  /-- The number one. -/
  | one
  /-- All columns. -/
  | all
deriving Repr

/-- A column of the result, with the name it gets. -/
structure Output where
  expr : Expr
  name : Option String := none
deriving Repr

/-- A condition on rows. -/
inductive Condition where
  | equals (c : Column) (v : Value)
  | greater (c : Column) (v : Value)
  | less (c : Column) (v : Value)
  | like (c : Column) (pattern : String)
  | present (c : Column)
deriving Repr

/-- A table joined to those before it. -/
structure Link where
  kind : JoinKind
  table : String
  left : Column
  right : Column
deriving DecidableEq, Repr

/-- The tables of a statement: the base table and those joined to it. -/
structure Source where
  base : String
  links : List Link := []
deriving DecidableEq, Repr

/-- A `SELECT` statement. -/
structure Statement where
  distinct : Bool := false
  outputs : List Output
  source : Option Source
  conditions : List Condition := []
  groups : List Column := []
  /-- Rows in the order of the first column. -/
  ordered : Bool := false
  limit : Option Nat := none
deriving Repr

/-! ## Writing -/

namespace Expr

def tokens : Expr → List Token
  | .column c => c.tokens
  | .aggregate f c => [.word f.keyword, .symbol '('] ++ c.tokens ++ [.symbol ')']
  | .aggregateWhere f c v measure =>
    [.word f.keyword, .symbol '(', .word "CASE", .space, .word "WHEN", .space] ++ c.tokens
      ++ [.space, .symbol '=', .space, literal v, .space, .word "THEN", .space] ++ measure.tokens
      ++ [.space, .word "END", .symbol ')']
  | .one => [.number ['1']]
  | .all => [.symbol '*']

end Expr

namespace Output

def tokens (o : Output) : List Token :=
  o.expr.tokens ++ match o.name with
    | some n => [.space, .word "AS", .space, .name n]
    | none => []

end Output

namespace Condition

def tokens : Condition → List Token
  | .equals c v => c.tokens ++ [.space, .symbol '=', .space, literal v]
  | .greater c v => c.tokens ++ [.space, .symbol '>', .space, literal v]
  | .less c v => c.tokens ++ [.space, .symbol '<', .space, literal v]
  | .like c pattern => c.tokens ++ [.space, .word "LIKE", .space, .text pattern]
  | .present c => c.tokens ++ [.space, .word "IS", .space, .word "NOT", .space, .word "NULL"]

/-- Conditions that must all hold. -/
def allTokens (cs : List Condition) : List Token :=
  (cs.map tokens).intersperse [.space, .word "AND", .space] |>.flatten

/-- The `WHERE` clause, empty without conditions. -/
def clause (cs : List Condition) : List Token :=
  if cs.isEmpty then [] else [.word "WHERE", .space] ++ allTokens cs

end Condition

namespace Link

def tokens (l : Link) : List Token :=
  [.word l.kind.keyword, .space, .word "JOIN", .space, .name l.table, .space, .word "ON", .space]
    ++ l.left.tokens ++ [.space, .symbol '=', .space] ++ l.right.tokens

end Link

namespace Source

/-- The `FROM` clause. -/
def tokens (s : Source) : List Token :=
  spaced ([.word "FROM", .space, .name s.base] :: s.links.map Link.tokens)

/-- The `FROM` clause of a source, empty without one. -/
def clause (s : Option Source) : List Token := (s.map tokens).getD []

end Source

namespace Statement

/-- The list of what is selected. -/
def selectTokens (s : Statement) : List Token :=
  [.word "SELECT", .space] ++ (if s.distinct then [.word "DISTINCT", .space] else [])
    ++ commaSeparated (s.outputs.map Output.tokens)

/-- The `GROUP BY` clause, empty without groups. -/
def groupTokens (s : Statement) : List Token :=
  if s.groups.isEmpty then []
  else [.word "GROUP", .space, .word "BY", .space] ++ commaSeparated (s.groups.map Column.tokens)

/-- The `ORDER BY` clause. -/
def orderTokens (s : Statement) : List Token :=
  if s.ordered then [.word "ORDER", .space, .word "BY", .space, .number ['1']] else []

/-- The `LIMIT` clause. -/
def limitTokens (s : Statement) : List Token :=
  match s.limit with
  | some n => [.word "LIMIT", .space, .number (Decimal.natural n)]
  | none => []

def tokens (s : Statement) : List Token :=
  spaced
    [s.selectTokens, Source.clause s.source, Condition.clause s.conditions, s.groupTokens,
      s.orderTokens, s.limitTokens]

/-- The statement's text in a dialect. -/
def render (d : Dialect) (s : Statement) : String := Token.render d s.tokens

end Statement

end QueryLoom.Sql
