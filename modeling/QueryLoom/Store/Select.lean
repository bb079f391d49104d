import QueryLoom.Sql.Token.Lexer
import QueryLoom.Store.Database
import QueryLoom.Store.Dialogue
import QueryLoom.Text.Blank

/-!
# Queries of a database

1. `Select` is a query of one table: all columns or some, distinct rows or all, a column that must
   not be null, the order of the first column, a limit.
2. `Select.ofTokens?` reads one from SQL. Other statements are not understood.
3. `Select.run` carries one out, and `Database.query` does so for a text.
-/

namespace QueryLoom

open Sql

/-- A column as a query names it. -/
structure ColumnName where
  table : Option String
  field : String
deriving DecidableEq, Repr

/-- A column of the result, with the name it is given. -/
structure Selected where
  column : ColumnName
  name : Option String
deriving DecidableEq, Repr

/-- A query of one table. -/
structure Select where
  distinct : Bool
  /-- The columns of the result, all of the table's if none are given. -/
  columns : Option (List Selected)
  table : String
  present : Option ColumnName
  ordered : Bool
  limit : Option Nat
deriving DecidableEq, Repr

namespace Select

/-! ## Reading -/

/-- A column at the front of tokens. -/
def columnName? : List Token → Option (ColumnName × List Token)
  | .name t :: .symbol '.' :: .name f :: rest => some (⟨some t, f⟩, rest)
  | .name f :: rest => some (⟨none, f⟩, rest)
  | _ => none

/-- Tokens that are one column of the result. -/
def selected? (ts : List Token) : Option Selected :=
  match columnName? ts with
  | some (c, []) => some ⟨c, none⟩
  | some (c, [.word "AS", .name n]) => some ⟨c, some n⟩
  | _ => none

/-- Tokens that list the columns of the result. -/
def columns? (ts : List Token) : Option (Option (List Selected)) :=
  if ts = [.symbol '*'] then some none
  else ((ts.splitOnP (· = .symbol ',')).mapM selected?).map some

/-- The condition at the front of tokens, if there is one. -/
def condition? : List Token → Option (Option ColumnName × List Token)
  | .word "WHERE" :: ts =>
    match columnName? ts with
    | some (c, .word "IS" :: .word "NOT" :: .word "NULL" :: rest) => some (some c, rest)
    | _ => none
  | ts => some (none, ts)

/-- The order at the front of tokens, if there is one. -/
def order : List Token → Bool × List Token
  | .word "ORDER" :: .word "BY" :: .number ['1'] :: rest => (true, rest)
  | ts => (false, ts)

/-- Tokens that are a limit or nothing. -/
def limit? : List Token → Option (Option Nat)
  | [] => some none
  | [.word "LIMIT", .number ds] => some (some (Numeric.natOf ds))
  | _ => none

/-- Reads a query from tokens without spaces. -/
def ofTokens? : List Token → Option Select
  | .word "SELECT" :: ts => do
    let (distinct, ts) := match ts with
      | .word "DISTINCT" :: rest => (true, rest)
      | ts => (false, ts)
    let isFrom (t : Token) : Bool := t = .word "FROM"
    let columns ← columns? (ts.takeWhile (!isFrom ·))
    match ts.dropWhile (!isFrom ·) with
    | _ :: .name table :: rest =>
      let (present, rest) ← condition? rest
      let (ordered, rest) := order rest
      let limit ← limit? rest
      return { distinct, columns, table, present, ordered, limit }
    | _ => none
  | _ => none

/-! ## Running -/

/-- What a column name stands for in a table. -/
inductive Meaning where
  /-- A column, by its place and its name in the table. -/
  | column (index : Nat) (name : String)
  /-- The number of the row. -/
  | rowNumber
  /-- A text: a quoted name that names nothing stands for itself. -/
  | constant (s : String)
deriving DecidableEq, Repr

/-- The names of the row number. -/
def rowNumberNames : List String := ["rowid", "oid", "_rowid_"]

/-- What a column name stands for in a table. -/
def meaning (t : StoredTable) (c : ColumnName) : Except DatabaseError Meaning :=
  let known : Option Meaning :=
    match t.columns.findIdx? fun column => sameName column.name c.field with
    | some i => some (.column i ((t.columns[i]?.map (·.name)).getD c.field))
    | none => if rowNumberNames.any (sameName c.field) then some .rowNumber else none
  match c.table, known with
  | some table, some m =>
    if sameName table t.name then .ok m else .error (.noSuchColumn table c.field)
  | some table, none => .error (.noSuchColumn table c.field)
  | none, some m => .ok m
  | none, none => .ok (.constant c.field)

namespace Meaning

/-- The value in the row with the given number. -/
def value (row : Nat × List Value) : Meaning → Value
  | .column i _ => row.2.getD i .null
  | .rowNumber => .integer (Int64.ofNat row.1)
  | .constant s => .text s

/-- The name of the column in the result. -/
def name : Meaning → String
  | .column _ name => name
  | .rowNumber => "rowid"
  | .constant s => s

end Meaning

/-- How an integer compares with a float, exactly. -/
def compareExact (n : Int64) (x : Float) : Ordering :=
  match Decimal.Parts.ofFloat x with
  | .nan => .gt
  | .infinite negative => if negative then .gt else .lt
  | .zero _ => compare n.toInt 0
  | .finite negative b =>
    compare (n.toInt * b.value.den) (if negative then -b.value.num else b.value.num)

/-- The order of values: null, then numbers by value, then texts by their characters. -/
def compareValues : Value → Value → Ordering
  | .null, .null => .eq
  | .null, _ => .lt
  | _, .null => .gt
  | .integer a, .integer b => compare a.toInt b.toInt
  | .integer a, .real y => compareExact a y
  | .real x, .integer b => (compareExact b x).swap
  | .real x, .real y => if x < y then .lt else if y < x then .gt else .eq
  | .text s, .text t => compare s t
  | .text _, _ => .gt
  | _, .text _ => .lt

/-- Whether two rows have the same values. -/
def sameValues (xs ys : List Value) : Bool :=
  xs.length = ys.length && (xs.zip ys).all fun p => compareValues p.1 p.2 = .eq

/-- Rows, each once, in order. -/
def distinctRows (seen : List (List Value)) : List (List Value) → List (List Value)
  | [] => []
  | r :: rs =>
    if seen.any (sameValues r) then distinctRows seen rs else r :: distinctRows (r :: seen) rs

/-- Rows in the order of their first values. -/
def sortRows (rows : List (List Value)) : List (List Value) :=
  rows.mergeSort fun r s => compareValues (r.headD .null) (s.headD .null) ≠ .gt

/-- All columns of a table. -/
def allColumns (t : StoredTable) : List Selected :=
  t.columns.map fun c => ⟨⟨none, c.name⟩, none⟩

/-- Carries out a query of a table. -/
def run (s : Select) (t : StoredTable) : Except DatabaseError (List Row) := do
  let columns := s.columns.getD (allColumns t)
  let meanings ← columns.mapM fun c => meaning t c.column
  let present ← s.present.mapM (meaning t)
  let numbered := t.rows.zipIdx.map fun r => (r.2 + 1, r.1)
  let kept := numbered.filter fun r => present.all fun m => !(m.value r).isNull
  let rows := kept.map fun r => meanings.map (·.value r)
  let rows := if s.distinct then distinctRows [] rows else rows
  let rows := if s.ordered then sortRows rows else rows
  let rows := match s.limit with
    | some n => rows.take n
    | none => rows
  let names := (columns.zip meanings).map fun p => p.1.name.getD p.2.name
  .ok (rows.map fun r => Row.ofList (names.zip r))

end Select

namespace Database

/-- The quotes that a database knows. -/
def quotes : Quotes := fun c =>
  if c = '"' || c = '`' then some .name else if c = '\'' then some .text else none

/-- The rows that a statement gives. A blank one gives none; a null character ends it. -/
def query (db : Database) (sql : String) : Except DatabaseError (List Row) :=
  if sql.toList.all Text.isBlank then .ok []
  else
    match Token.scan quotes (sql.toList.takeWhile (· ≠ '\x00')) with
    | .error piece => .error (.unrecognized (String.ofList piece))
    | .ok ts =>
      match Select.ofTokens? (ts.filter (· ≠ .space)) with
      | none => .error .notUnderstood
      | some s =>
        match db.table? s.table with
        | none => .error (.noSuchTable s.table)
        | some t => s.run t

/-- A database answers queries. -/
def answer : Answering Database := fun db sql => ((db.query sql).mapError .database, db)

end Database

end QueryLoom
