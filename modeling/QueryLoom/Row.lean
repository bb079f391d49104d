import QueryLoom.Value

/-!
# Rows and datasets

1. `Row` is one row of a table: cells under column names, in column order.
2. `Dataset` is a list of named tables of rows, in load order.
-/

namespace QueryLoom

/-- One row: cells under column names, in column order. -/
structure Row where
  cells : Entries Value := []
deriving Repr, Inhabited

namespace Row

/-- Sets the cell of a column. A column that is there keeps its place. -/
def insert (r : Row) (column : String) (v : Value) : Row := ⟨Entries.put r.cells column v⟩

/-- The row of a list of cells, set one after the other. -/
def ofList (cells : List (String × Value)) : Row := ⟨Entries.ofList cells⟩

/-- The cell of a column. -/
def get? (r : Row) (column : String) : Option Value := Entries.get? r.cells column

/-- The first cell. -/
def first? (r : Row) : Option Value := r.cells.head?.map (·.2)

/-- The column names. -/
def columns (r : Row) : List String := Entries.keys r.cells

/-- The cell of a column or, if there is none, the first cell. -/
def pick? (r : Row) (column : String) : Option Value := (r.get? column).or r.first?

def toJson (r : Row) : Json := .object (r.cells.map fun c => (c.1, c.2.toJson))

def decoder : Json.Decoder Row := fun d => (Json.Decoder.entries Value.decoder d).map Row.mk

end Row

/-- The values that rows give for a column: of each row the cell of the column or its first one,
nulls left out. -/
def columnValues (column : String) (rows : List Row) : List Value :=
  (rows.filterMap (·.pick? column)).filter (!·.isNull)

/-- Named tables of rows, in load order. -/
structure Dataset where
  tables : Entries (List Row) := []
deriving Repr, Inhabited

namespace Dataset

/-- Sets the rows of a table. A table that is there keeps its place. -/
def withTable (ds : Dataset) (name : String) (rows : List Row) : Dataset :=
  ⟨Entries.put ds.tables name rows⟩

def toJson (ds : Dataset) : Json :=
  .object (ds.tables.map fun t => (t.1, .array (t.2.map Row.toJson)))

def decoder : Json.Decoder Dataset := fun d =>
  (Json.Decoder.entries (Json.Decoder.list Row.decoder) d).map Dataset.mk

end Dataset

end QueryLoom
