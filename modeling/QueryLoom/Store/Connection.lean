import QueryLoom.Store.Database

/-!
# Connections

1. `Work` is what a connection does while rows are loaded: it begins a transaction, makes a table,
   prepares an insertion, inserts rows one by one and commits.
2. `Connection` is a database with the transaction under way. Outside of a transaction every change
   is kept at once, inside of it when it commits.
3. `Connection.load` makes a table of rows in a transaction of its own. The machine may fail at any
   piece of work (`Faults`); a transaction that is left before it has committed is rolled back.
-/

namespace QueryLoom

/-- A piece of work on a database. -/
inductive Work where
  /-- A transaction begins. -/
  | begin
  /-- A table without rows is made. -/
  | create (name : String) (columns : List StoredColumn)
  /-- Insertions into a table are prepared. -/
  | prepare (table : String)
  /-- A row comes to the end of a table. -/
  | insert (table : String) (values : List Value)
  /-- The changes of the transaction are kept. -/
  | commit
deriving Repr

namespace StoredTable

/-- The columns of the table that is made of a list of rows. -/
def columnsOf (rows : List Row) : List StoredColumn := (columnNames rows).map (columnOf rows)

/-- The values of a row for columns, null for those it does not have. -/
def valuesFor (columns : List StoredColumn) (r : Row) : List Value :=
  columns.map fun c => (r.get? c.name).getD .null

/-- A table with one more row; each column holds its value as its affinity wants it. -/
def append (t : StoredTable) (values : List Value) : StoredTable :=
  { t with rows := t.rows ++ [List.zipWith (fun c v => c.affinity.stored v) t.columns values] }

end StoredTable

/-- Puts a row at the end of the table of a name. -/
def Database.append (db : Database) (table : String) (values : List Value) :
    Except DatabaseError Database :=
  if (db.table? table).isSome then
    .ok ⟨db.tables.map fun t => if sameName t.name table then t.append values else t⟩
  else .error (.noSuchTable table)

/-- A database, and what the transaction under way has made of it. -/
structure Connection where
  kept : Database
  draft : Option Database := none
deriving Repr

/-- Why the machine fails at a piece of work, if it does. -/
abbrev Faults := Connection → Work → Option StoreError

namespace Connection

/-- The database as the work to be done finds it. -/
def visible (c : Connection) : Database := c.draft.getD c.kept

/-- A changed database, kept at once if no transaction is under way. -/
def change (c : Connection) (db : Database) : Connection :=
  match c.draft with
  | some _ => { c with draft := some db }
  | none => { c with kept := db }

/-- Does a piece of work on a machine that does not fail. -/
def execute (c : Connection) : Work → Except DatabaseError Connection
  | .begin =>
    if c.draft.isSome then .error .nestedTransaction else .ok { c with draft := some c.kept }
  | .create name columns => (c.visible.create ⟨name, columns, []⟩).map c.change
  | .prepare table =>
    if (c.visible.table? table).isSome then .ok c else .error (.noSuchTable table)
  | .insert table values => (c.visible.append table values).map c.change
  | .commit => .ok ⟨c.visible, none⟩

/-- Does a piece of work. -/
def attempt (faults : Faults) (c : Connection) (w : Work) : Except StoreError Connection :=
  match faults c w with
  | some e => .error e
  | none => (c.execute w).mapError .database

/-- Does one piece of work after the other, up to the first that goes wrong: what went wrong, and
the connection after it. -/
def attemptAll (faults : Faults) (c : Connection) : List Work → Option StoreError × Connection
  | [] => (none, c)
  | w :: ws =>
    match c.attempt faults w with
    | .ok c => attemptAll faults c ws
    | .error e => (some e, c)

/-- Leaves a transaction that may still be under way. -/
def rollBack (c : Connection) : Connection := { c with draft := none }

/-- The work of a transaction that makes a table of rows. -/
def loadingWork (name : String) (rows : List Row) : List Work :=
  let columns := StoredTable.columnsOf rows
  .create name columns :: .prepare name ::
    (rows.map fun r => .insert name (StoredTable.valuesFor columns r)) ++ [.commit]

/-- Makes a table of rows, none if there are no rows: what went wrong, and the connection after
it. -/
def load (faults : Faults) (c : Connection) (name : String) (rows : List Row) :
    Option StoreError × Connection :=
  if rows.isEmpty then (none, c)
  else
    match c.attempt faults .begin with
    | .error e => (some e, c)
    | .ok opened =>
      let result := opened.attemptAll faults (loadingWork name rows)
      (result.1, result.2.rollBack)

end Connection

end QueryLoom
