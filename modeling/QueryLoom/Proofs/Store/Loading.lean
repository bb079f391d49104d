import QueryLoom.Proofs.Query.Naming
import QueryLoom.Proofs.Store.Reset
import QueryLoom.Store.Select

/-!
# Loaded rows are read back

1. **Values**: `Value.kept` is a value as a database gives it back: only a negative zero is changed.
   A column of values of one kind keeps its values so (`Affinity.stored_of_kind`).
2. **Columns**: the names of the columns of a table that was made are told apart in any letter case
   (`StoredTable.nodup_of_check`), so each names its own column (`Select.meaning_getElem`).
3. **All rows**: `Select.allOf` asks for all of a table. It is read from its text
   (`Database.query_allTokens`) and gives the rows as they are stored (`Select.run_allOf`).
4. **Main statement**: `Database.load_readsBack` says what a table made of rows holds and what a
   query for all of it gives back.
-/

namespace QueryLoom

open Sql

/-! ## Values -/

namespace Value

/-- A value as a database gives it back: a negative zero has lost its sign. -/
def kept : Value → Value
  | .real x => .real (if x = -0.0 then 0.0 else x)
  | v => v

theorem kept_of_ne {v : Value} (h : v ≠ .real (-0.0)) : v.kept = v := by
  cases v with
  | real x =>
    have hx : x ≠ -0.0 := fun hx => h (congrArg real hx)
    rw [kept, if_neg hx]
  | null | integer | text => rfl

/-- Whether the values of a list that are not null are finite and of the kind of the first one of
them. -/
def OfOneKind (vs : List Value) : Prop :=
  ∀ v ∈ vs, v.isNull = false → v.IsFinite ∧ (vs.find? (!·.isNull)).map kind = some v.kind

instance (v : Value) : Decidable v.IsFinite :=
  match v with
  | .real x => inferInstanceAs (Decidable (x.isFinite = true))
  | .null | .integer _ | .text _ => inferInstanceAs (Decidable True)

instance (vs : List Value) : Decidable (OfOneKind vs) :=
  inferInstanceAs (Decidable (∀ v ∈ vs, v.isNull = false →
    v.IsFinite ∧ (vs.find? (!·.isNull)).map kind = some v.kind))

end Value

namespace Affinity

@[simp] theorem stored_null (a : Affinity) : a.stored .null = .null := by
  cases a <;> rfl

theorem realAsReal_eq_kept (x : Float) : realAsReal x = (Value.real x).kept := by
  by_cases hx : (x == 0.0) = true
  · rw [realAsReal, if_pos hx, Value.kept]
    rcases Decimal.beq_zero_iff.1 hx with rfl | rfl
    · rw [if_neg (by decide)]
    · rw [if_pos rfl]
  · have hne : x ≠ -0.0 := fun h => hx (Decimal.beq_zero_iff.2 (Or.inr h))
    rw [realAsReal, if_neg hx, Value.kept, if_neg hne]

/-- A column keeps the values of the kind that it prefers. -/
theorem stored_of_kind {v first : Value} (h : v.kind = first.kind) :
    (ofValue first).stored v = v.kept := by
  cases v with
  | null => exact stored_null _
  | integer n =>
    cases first with
    | integer => rfl
    | null | real | text => cases h
  | real x =>
    cases first with
    | real => exact realAsReal_eq_kept x
    | null | integer | text => cases h
  | text s =>
    cases first with
    | text => rfl
    | null | integer | real => cases h

/-- A column of values of one kind keeps them all. -/
theorem stored_of_ofOneKind {vs : List Value} (h : Value.OfOneKind vs) {v : Value} (hv : v ∈ vs) :
    (ofValues vs).stored v = v.kept := by
  cases hnull : v.isNull with
  | true =>
    cases v with
    | null => exact stored_null _
    | integer | real | text => cases hnull
  | false =>
    obtain ⟨first, hfirst, hkind⟩ := Option.map_eq_some_iff.1 (h v hv hnull).2
    rw [ofValues, hfirst]
    exact stored_of_kind hkind.symm

end Affinity

/-! ## Columns -/

theorem not_mem_of_wholeName {name : String} (h : wholeName name = .ok ()) :
    '\x00' ∉ name.toList := by
  intro hnull
  rw [wholeName, if_pos (List.contains_iff_mem.2 hnull)] at h
  cases h

namespace StoredTable

theorem nodup_of_checkColumns {before cs : List String} (h : checkColumns before cs = .ok ()) :
    (cs.map foldedName).Nodup ∧ ∀ c ∈ cs, ∀ b ∈ before, foldedName c ≠ foldedName b := by
  induction cs generalizing before with
  | nil => exact ⟨List.nodup_nil, nofun⟩
  | cons c cs ih =>
    simp only [checkColumns, bind, Except.bind] at h
    split at h
    · cases h
    · split at h
      · cases h
      · rename_i hfree
        obtain ⟨hnodup, hbefore⟩ := ih h
        have hnew : ∀ b ∈ before, foldedName c ≠ foldedName b := by
          simpa [sameName] using hfree
        refine ⟨?_, ?_⟩
        · rw [List.map_cons, List.nodup_cons]
          refine ⟨?_, hnodup⟩
          intro hmem
          obtain ⟨d, hd, hsame⟩ := List.mem_map.1 hmem
          exact hbefore d hd c List.mem_cons_self hsame
        · intro d hd b hb
          rcases List.mem_cons.1 hd with rfl | hd
          · exact hnew b hb
          · exact hbefore d hd b (List.mem_cons_of_mem c hb)

/-- The names of columns that can be are told apart in any letter case. -/
theorem nodup_of_check {t : StoredTable} (h : t.check = .ok ()) :
    (t.columns.map fun c => foldedName c.name).Nodup := by
  rw [check] at h
  split at h
  · cases h
  · have hnodup := (nodup_of_checkColumns h).1
    rwa [List.map_map] at hnodup

end StoredTable

namespace Select

variable {t : StoredTable}

/-- The name of a column stands for that column. -/
theorem meaning_getElem (h : (t.columns.map fun c => foldedName c.name).Nodup) {i : Nat}
    (hi : i < t.columns.length) :
    meaning t ⟨none, t.columns[i].name⟩ = .ok (.column i t.columns[i].name) := by
  have hfound : t.columns.findIdx? (fun c => sameName c.name t.columns[i].name) = some i := by
    rw [List.findIdx?_eq_some_iff_getElem]
    refine ⟨hi, Database.sameName_self _, ?_⟩
    intro j hj hsame
    have hfolded : foldedName t.columns[j].name = foldedName t.columns[i].name :=
      of_decide_eq_true hsame
    let names := t.columns.map fun c => foldedName c.name
    have hlength : names.length = t.columns.length := List.length_map _
    have hjn : j < names.length := by omega
    have hin : i < names.length := by omega
    have hnames : names[j] = names[i] := by simpa [names] using hfolded
    exact absurd (h.getElem_inj_iff.1 hnames) (Nat.ne_of_lt hj)
  simp [meaning, hfound, hi]

/-! ## All rows -/

/-- The query for all of a table. -/
def allOf (name : String) : Select where
  distinct := false
  columns := none
  table := name
  present := none
  ordered := false
  limit := none

/-- What the columns of a table stand for. -/
def places (t : StoredTable) : List Meaning := t.columns.mapIdx fun i c => .column i c.name

theorem mapM_of_forall₂ {α β ε : Type} {f : α → Except ε β} {xs : List α} {ys : List β}
    (h : List.Forall₂ (fun x y => f x = .ok y) xs ys) : xs.mapM f = .ok ys := by
  induction h with
  | nil => rfl
  | cons hx _ ih =>
    rw [List.mapM_cons, hx, ih]
    rfl

theorem meanings_allColumns (h : (t.columns.map fun c => foldedName c.name).Nodup) :
    ((allColumns t).mapM fun c => meaning t c.column) = .ok (places t) := by
  apply mapM_of_forall₂
  rw [List.forall₂_iff_get]
  refine ⟨by simp [allColumns, places], ?_⟩
  intro i hi _
  have hi : i < t.columns.length := by simpa [allColumns] using hi
  simpa [allColumns, places] using meaning_getElem h hi

/-- Each row gives its own values. -/
theorem values_places {r : List Value} (h : r.length = t.columns.length) (n : Nat) :
    (places t).map (·.value (n, r)) = r := by
  apply List.ext_getElem
  · simp [places, h]
  · intro i _ hi
    simp [places, Meaning.value, hi]

theorem names_places (t : StoredTable) :
    (((allColumns t).zip (places t)).map fun p => p.1.name.getD p.2.name) =
      t.columns.map (·.name) := by
  apply List.ext_getElem
  · simp [allColumns, places]
  · intro i _ _
    simp [allColumns, places, Meaning.name]

/-- A query for all of a table gives its rows as they are stored, under the names of its columns. -/
theorem run_allOf (h : (t.columns.map fun c => foldedName c.name).Nodup)
    (hrows : ∀ r ∈ t.rows, r.length = t.columns.length) (name : String) :
    (allOf name).run t = .ok (t.rows.map fun r => ⟨(t.columns.map (·.name)).zip r⟩) := by
  have hnames : (t.columns.map (·.name)).Nodup := by
    have hfolded : ((t.columns.map (·.name)).map foldedName).Nodup := by rwa [List.map_map]
    exact hfolded.of_map
  have hrow : ∀ r ∈ t.rows, Row.ofList ((t.columns.map (·.name)).zip r) =
      ⟨(t.columns.map (·.name)).zip r⟩ := by
    intro r hr
    have hkeys : (Entries.keys ((t.columns.map (·.name)).zip r)).Nodup := by
      rw [Entries.keys, List.map_fst_zip (by simp [hrows r hr])]
      exact hnames
    rw [Row.ofList, Entries.ofList_of_nodup hkeys]
  have hrun : (allOf name).run t = .ok ((t.rows.zipIdx.map fun p => (p.2 + 1, p.1)).map fun p =>
      Row.ofList ((t.columns.map (·.name)).zip ((places t).map (·.value p)))) := by
    have hpresent : (none : Option ColumnName).mapM (meaning t) =
        (.ok none : Except DatabaseError (Option Meaning)) := rfl
    simp only [run, allOf, Option.getD_none, meanings_allColumns h, hpresent, bind, Except.bind,
      names_places]
    simp
  have hnumbered : (t.rows.map fun r => (⟨(t.columns.map (·.name)).zip r⟩ : Row)) =
      t.rows.zipIdx.map fun p => ⟨(t.columns.map (·.name)).zip p.1⟩ := by
    conv_lhs => rw [← List.zipIdx_map_fst 0 t.rows]
    rw [List.map_map]
    rfl
  rw [hrun, hnumbered, List.map_map]
  apply congrArg Except.ok
  apply List.map_congr_left
  intro p hp
  have hmem : p.1 ∈ t.rows := (List.mem_zipIdx' hp).2 ▸ List.getElem_mem _
  simp only [Function.comp_apply, values_places (hrows _ hmem), hrow _ hmem]

/-- The text of the query for all of a table. -/
def allTokens (name : String) : List Token :=
  [.word "SELECT", .space, .symbol '*', .space, .word "FROM", .space, .name name]

theorem writeAll_allTokens (name : String) :
    Token.writeAll .sqlite (allTokens name) =
      "SELECT * FROM ".toList ++ enclose '"' name.toList := by
  simp [Token.writeAll, allTokens, Token.write, Dialect.identifierQuote]

theorem readable_allTokens (name : String) : Readable (allTokens name) where
  whole := by
    simp [allTokens, Token.IsWhole]
    decide
  apart := by
    simp [allTokens, Token.apart]

theorem ofTokens?_allTokens (name : String) :
    ofTokens? ((allTokens name).filter (· ≠ .space)) = some (allOf name) := rfl

end Select

namespace Database

variable {db db' : Database}

theorem suits_quotes : Quotes.Suits quotes .sqlite where
  name := rfl
  text := rfl
  other := by
    intro c h
    simp only [List.mem_cons, List.not_mem_nil, or_false, not_or] at h
    simp [quotes, h]

theorem mem_of_mem_doubled {q c : Char} {cs : List Char} (h : c ∈ doubled q cs) : c ∈ cs := by
  induction cs with
  | nil => exact h
  | cons d cs ih =>
    rw [doubled] at h
    split at h
    · rename_i hd
      simp only [List.mem_cons] at h ⊢
      rcases h with rfl | rfl | h
      · exact Or.inl hd.symm
      · exact Or.inl hd.symm
      · exact Or.inr (ih h)
    · rcases List.mem_cons.1 h with rfl | h
      · exact List.mem_cons_self
      · exact List.mem_cons_of_mem _ (ih h)

theorem not_mem_enclose {q c : Char} {cs : List Char} (hq : c ≠ q) (hcs : c ∉ cs) :
    c ∉ enclose q cs := by
  simp only [enclose, List.mem_cons, List.mem_append, List.not_mem_nil, or_false, not_or]
  exact ⟨hq, fun h => hcs (mem_of_mem_doubled h), hq⟩

/-- A database reads a query that was written for it. -/
theorem query_render {ts : List Token} {s : Select} {t : StoredTable} (hread : Readable ts)
    (hblank : ∃ c ∈ Token.writeAll .sqlite ts, ¬ Text.isBlank c)
    (hnull : '\x00' ∉ Token.writeAll .sqlite ts)
    (hs : Select.ofTokens? (ts.filter (· ≠ .space)) = some s) (ht : db.table? s.table = some t) :
    db.query (Token.render .sqlite ts) = s.run t := by
  have hseen : ¬ (Token.writeAll .sqlite ts).all Text.isBlank := by
    intro hall
    obtain ⟨c, hc, hnot⟩ := hblank
    exact hnot (List.all_eq_true.1 hall c hc)
  have hwhole : (Token.writeAll .sqlite ts).takeWhile (· ≠ '\x00') = Token.writeAll .sqlite ts := by
    rw [List.takeWhile_eq_self_iff]
    intro c hc
    exact decide_eq_true fun h => hnull (h ▸ hc)
  rw [query, Token.render, String.toList_ofList, if_neg hseen, hwhole,
    scan_writeAll suits_quotes hread]
  simp only [hs, ht]

/-- A query for all of a table, by a name without a null character. -/
theorem query_allTokens {name : String} (hname : '\x00' ∉ name.toList) {t : StoredTable}
    (ht : db.table? name = some t) :
    db.query (Token.render .sqlite (Select.allTokens name)) = (Select.allOf name).run t := by
  have htext := Select.writeAll_allTokens name
  refine query_render (Select.readable_allTokens name) ?_ ?_ (Select.ofTokens?_allTokens name) ht
  · rw [htext]
    exact ⟨'S', List.mem_cons_self, by decide⟩
  · rw [htext, List.mem_append, not_or]
    exact ⟨by decide, not_mem_enclose (by decide) hname⟩

theorem table?_append_self {t : StoredTable} (h : db.table? t.name = none) :
    table? ⟨db.tables ++ [t]⟩ t.name = some t := by
  rw [table?] at h ⊢
  rw [List.find?_append, h]
  simp [sameName_self]

/-- A table that was made gives all of itself back, if its rows are as wide as it is. -/
theorem query_of_create {t : StoredTable} (h : db.create t = .ok db')
    (hrows : ∀ r ∈ t.rows, r.length = t.columns.length) :
    db'.query (Token.render .sqlite (Select.allTokens t.name)) =
      .ok (t.rows.map fun r => ⟨(t.columns.map (·.name)).zip r⟩) := by
  obtain ⟨hwhole, -, hfree, hcheck, rfl⟩ := create_eq_ok_iff.1 h
  rw [query_allTokens (not_mem_of_wholeName hwhole) (table?_append_self hfree)]
  exact Select.run_allOf (StoredTable.nodup_of_check hcheck) hrows t.name

/-! ## Main statement -/

/-- A cell of a row as a table made of the row gives it back, null if the row has none. -/
def cellKept (r : Row) (column : String) : Value := ((r.get? column).getD .null).kept

/-- The rows of a table made of rows whose columns are of one kind each. -/
theorem rows_storedAs {t : String × List Row}
    (hkinds : ∀ c ∈ t.2.flatMap Row.columns, Value.OfOneKind (t.2.filterMap (·.get? c))) :
    (storedAs t).rows = t.2.map fun r => (distinct (t.2.flatMap Row.columns)).map (cellKept r) := by
  have hrow : ∀ r ∈ t.2, StoredTable.storedRow (storedAs t).columns r =
      (distinct (t.2.flatMap Row.columns)).map (cellKept r) := by
    intro r hr
    rw [storedAs, StoredTable.ofRows, StoredTable.storedRow, List.map_map]
    apply List.map_congr_left
    intro c hc
    show (Affinity.ofValues (t.2.filterMap (·.get? c))).stored ((r.get? c).getD .null) = _
    rw [cellKept]
    cases hcell : r.get? c with
    | none => exact Affinity.stored_null _
    | some v =>
      have hv : v ∈ t.2.filterMap (·.get? c) := List.mem_filterMap.2 ⟨r, hr, hcell⟩
      exact Affinity.stored_of_ofOneKind (hkinds c (mem_distinct.1 hc)) hv
  exact List.map_congr_left hrow

/-- A table that was made of rows comes after all other tables, which stay as they are. Its columns
are those of the rows in the order in which they are first mentioned. If the values of each column
are of one kind, it holds one row for each row that was loaded, in the same order, with the cells of
that row and nulls where it has none; a query for all of the table gives these back under the names
of the columns. Only a negative zero is not given back as it was loaded: it has lost its sign. -/
theorem load_readsBack {name : String} {rows : List Row} (hrows : rows ≠ [])
    (h : db.load name rows = .ok db')
    (hkinds : ∀ c ∈ rows.flatMap Row.columns, Value.OfOneKind (rows.filterMap (·.get? c))) :
    let columns := (rows.flatMap Row.columns).eraseDups
    (∃ t : StoredTable, db'.tables = db.tables ++ [t] ∧ t.name = name ∧
      t.columns.map (·.name) = columns ∧ t.rows = rows.map fun r => columns.map (cellKept r)) ∧
    db'.query (Token.render .sqlite (Select.allTokens name)) =
      .ok (rows.map fun r => ⟨columns.map fun c => (c, cellKept r c)⟩) ∧
    ∀ r ∈ rows, ∀ c, (r.get? c).getD .null ≠ .real (-0.0) →
      cellKept r c = (r.get? c).getD .null := by
  intro columns
  have hempty : rows.isEmpty = false := by simpa using hrows
  rw [load_of_rows (t := (name, rows)) hempty] at h
  have hnames : (storedAs (name, rows)).columns.map (·.name) = columns := by
    rw [columnNames_storedAs, distinct_eq]
  have hstored : (storedAs (name, rows)).rows = rows.map fun r => columns.map (cellKept r) := by
    rw [rows_storedAs hkinds, distinct_eq]
  refine ⟨⟨storedAs (name, rows), ?_, rfl, hnames, hstored⟩, ?_, ?_⟩
  · rw [(create_eq_ok h).2]
  · have hwidth : ∀ r ∈ (storedAs (name, rows)).rows,
        r.length = (storedAs (name, rows)).columns.length := by
      intro r hr
      rw [hstored] at hr
      obtain ⟨r, -, rfl⟩ := List.mem_map.1 hr
      rw [List.length_map, ← hnames, List.length_map]
    have hanswer := query_of_create h hwidth
    have hpaired : (rows.map fun r => columns.map (cellKept r)).map
        (fun r => (⟨columns.zip r⟩ : Row)) =
          rows.map fun r => ⟨columns.map fun c => (c, cellKept r c)⟩ := by
      rw [List.map_map]
      apply List.map_congr_left
      intro r _
      rw [Function.comp_apply, List.map_prod_left_eq_zip]
    rw [hstored, hnames, hpaired] at hanswer
    exact hanswer
  · intro r _ c hc
    exact Value.kept_of_ne hc

/-- Rows with different columns in different orders, with nulls, a missing cell in every column and
a negative zero, loaded beside another table. -/
theorem load_readsBack_ragged :
    let db : Database := ⟨[storedAs ("old", [⟨[("x", .integer 1)]⟩])]⟩
    let rows : List Row :=
      [⟨[("n", .integer 1), ("x", .null)]⟩, ⟨[("x", .real (-0.0)), ("s", .text "2")]⟩,
        ⟨[("s", .null), ("n", .integer 3)]⟩]
    let db' : Database := ⟨db.tables ++ [storedAs ("new", rows)]⟩
    db.load "new" rows = .ok db' ∧
      (∀ c ∈ rows.flatMap Row.columns, Value.OfOneKind (rows.filterMap (·.get? c))) ∧
      db'.query "SELECT * FROM \"new\"" = .ok
        [⟨[("n", .integer 1), ("x", .null), ("s", .null)]⟩,
          ⟨[("n", .null), ("x", .real 0.0), ("s", .text "2")]⟩,
          ⟨[("n", .integer 3), ("x", .null), ("s", .null)]⟩] := by
  intro db rows db'
  have h : db.load "new" rows = .ok db' :=
    create_eq_ok_iff.2 ⟨by decide, by decide, by decide, by decide, rfl⟩
  have hkinds : ∀ c ∈ rows.flatMap Row.columns, Value.OfOneKind (rows.filterMap (·.get? c)) := by
    decide
  exact ⟨h, hkinds, (load_readsBack (List.cons_ne_nil _ _) h hkinds).2.1⟩

/-- A negative zero is finite and of the kind of its column, but it is not given back. -/
theorem not_readsBack_exactly :
    ¬ ∀ (db db' : Database) (name : String) (rows : List Row), rows ≠ [] →
      db.load name rows = .ok db' →
      (∀ c ∈ rows.flatMap Row.columns, Value.OfOneKind (rows.filterMap (·.get? c))) →
      ∃ t : StoredTable, db'.tables = db.tables ++ [t] ∧
        t.rows = rows.map fun r =>
          (rows.flatMap Row.columns).eraseDups.map fun c => (r.get? c).getD .null := by
  intro hall
  let rows : List Row := [⟨[("a", .real (-0.0))]⟩]
  have h : ({} : Database).load "t" rows = .ok ⟨[storedAs ("t", rows)]⟩ :=
    create_eq_ok_iff.2 ⟨by decide, by decide, by decide, by decide, rfl⟩
  have hkinds : ∀ c ∈ rows.flatMap Row.columns, Value.OfOneKind (rows.filterMap (·.get? c)) := by
    decide
  obtain ⟨t, htables, hrows⟩ := hall _ _ "t" rows (List.cons_ne_nil _ _) h hkinds
  obtain rfl : storedAs ("t", rows) = t := List.singleton_inj.1 htables
  rw [rows_storedAs hkinds] at hrows
  have hzero : [[(Value.real (-0.0)).kept]] = [[Value.real (-0.0)]] := hrows
  rw [Value.kept, if_pos rfl] at hzero
  have hsign : (0.0 : Float) = -0.0 := by simpa using hzero
  exact absurd hsign (by decide)

end Database

end QueryLoom
