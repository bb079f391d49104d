import QueryLoom.Proofs.Query.Outcome
import QueryLoom.Proofs.Query.Outputs

/-!
# The two phases of a pivot

1. **Values**: `Row.Offers` says which cell a row gives for a column, `Gathered` which values a list
   of rows gives, row after row, until there are enough. The values pivoted on are these
   (`gathered_iff`), and rows after the last of them do not matter (`pivotValues_append`).
2. **Main statement**: `compile_pivots` gives the query for the values and the statement made from
   them side by side.
-/

namespace QueryLoom

open Sql

/-! ## Values -/

/-- Whether a row gives a value for a column: in the cell of that name or, without one, in its first
cell. -/
def Row.Offers (row : Row) (column : String) (v : Value) : Prop :=
  (∃ pre post, row.cells = pre ++ (column, v) :: post ∧ ∀ c ∈ pre, c.1 ≠ column) ∨
    ((∀ c ∈ row.cells, c.1 ≠ column) ∧ ∃ first post, row.cells = (first, v) :: post)

/-- Whether a list of rows gives a list of values for a column, at most `n` of them: each row the
value it offers, nulls left out. -/
inductive Gathered (column : String) : Nat → List Row → List Value → Prop where
  | enough {rows : List Row} : Gathered column 0 rows []
  | exhausted {n : Nat} : Gathered column n [] []
  | pass {n : Nat} {row : Row} {rows : List Row} {vs : List Value} :
    (∀ v, row.Offers column v → v = .null) → Gathered column n rows vs →
    Gathered column n (row :: rows) vs
  | gain {n : Nat} {row : Row} {rows : List Row} {v : Value} {vs : List Value} :
    row.Offers column v → v ≠ .null → Gathered column n rows vs →
    Gathered column (n + 1) (row :: rows) (v :: vs)

theorem Row.pick?_eq_some_iff {row : Row} {column : String} {v : Value} :
    row.pick? column = some v ↔ row.Offers column v := by
  simp only [Row.pick?, Option.or_eq_some_iff, Offers]
  apply or_congr
  · simp only [get?, Entries.get?, Option.map_eq_some_iff, List.find?_eq_some_iff_append]
    constructor
    · rintro ⟨⟨name, v'⟩, ⟨hname, pre, post, hcells, hpre⟩, rfl⟩
      obtain rfl : name = column := by simpa using hname
      exact ⟨pre, post, hcells, fun c hc => by simpa using hpre c hc⟩
    · rintro ⟨pre, post, hcells, hpre⟩
      exact ⟨(column, v), ⟨by simp, pre, post, hcells, fun c hc => by simpa using hpre c hc⟩, rfl⟩
  · apply and_congr
    · simp [get?, Entries.get?]
    · simp only [first?, Option.map_eq_some_iff, List.head?_eq_some_iff]
      constructor
      · rintro ⟨⟨name, v'⟩, ⟨post, hcells⟩, rfl⟩
        exact ⟨name, post, hcells⟩
      · rintro ⟨name, post, hcells⟩
        exact ⟨(name, v), ⟨post, hcells⟩, rfl⟩

theorem columnValues_cons_of_null {row : Row} {column : String}
    (h : ∀ v, row.Offers column v → v = .null) (rows : List Row) :
    columnValues column (row :: rows) = columnValues column rows := by
  rw [columnValues, List.filterMap_cons]
  cases hpick : row.pick? column with
  | none => rfl
  | some v =>
    obtain rfl := h v (Row.pick?_eq_some_iff.1 hpick)
    rfl

theorem columnValues_cons_of_offers {row : Row} {column : String} {v : Value}
    (h : row.Offers column v) (hv : v ≠ .null) (rows : List Row) :
    columnValues column (row :: rows) = v :: columnValues column rows := by
  have hkeep : (!v.isNull) = true := by
    rw [Bool.not_eq_true', Bool.eq_false_iff]
    exact mt Value.isNull_iff.1 hv
  have hpick := Row.pick?_eq_some_iff.2 h
  simp only [columnValues, List.filterMap_cons, hpick]
  rw [List.filter_cons, if_pos hkeep]

/-- The values that rows give for a column are those gathered row after row. -/
theorem gathered_iff {column : String} {n : Nat} {rows : List Row} {vs : List Value} :
    Gathered column n rows vs ↔ vs = (columnValues column rows).take n := by
  constructor
  · intro h
    induction h with
    | enough => simp
    | exhausted => simp [columnValues]
    | pass hnull _ ih => rw [columnValues_cons_of_null hnull, ih]
    | gain hoffers hv _ ih => rw [columnValues_cons_of_offers hoffers hv, List.take_succ_cons, ih]
  · rintro rfl
    induction rows generalizing n with
    | nil => simpa [columnValues] using .exhausted
    | cons row rows ih =>
      by_cases hnull : ∀ v, row.Offers column v → v = .null
      · rw [columnValues_cons_of_null hnull]
        exact .pass hnull ih
      · obtain ⟨v, hoffers, hv⟩ : ∃ v, row.Offers column v ∧ v ≠ .null := by
          simpa using hnull
        rw [columnValues_cons_of_offers hoffers hv]
        cases n with
        | zero => exact .enough
        | succ n => exact .gain hoffers hv ih

/-- Rows after the last value that counts do not matter. -/
theorem pivotValues_append {column : String} {rows : List Row}
    (h : (pivotValues column rows).length = pivotValueLimit) (more : List Row) :
    pivotValues column (rows ++ more) = pivotValues column rows := by
  have hlength : pivotValueLimit ≤ (columnValues column rows).length := by
    rw [pivotValues, List.length_take] at h
    omega
  have hmore : columnValues column (rows ++ more) =
      columnValues column rows ++ columnValues column more := by
    simp only [columnValues, List.filterMap_append, List.filter_append]
  rw [pivotValues, pivotValues, hmore, List.take_append_of_le_length hlength]

/-! ## Main statement -/

theorem Request.pivoted_eq (r : Request) (c : Column) (values : List Value) :
    r.pivoted c values =
      if (r.rowOutputs ++ r.pivotOutputs c values).isEmpty then none
      else some
        { outputs := r.rowOutputs ++ r.pivotOutputs c values
          source := r.source?
          conditions := r.conditions
          groups := r.rowGroups } := rfl

/-- The two phases of a pivot. The query for the values of the pivot column and the statement made
from them have one source, and the conditions of the query are those of the statement and then that
the column is not null. The values are the first 25 that the rows of the answer give; whatever comes
after the last of them does not matter. The statement selects the columns for rows and then, for
each value and each measure, one column that compares the pivot column with the value. -/
theorem compile_pivots (d : Dialect) (r : Request) (htables : r.model.tables ≠ [])
    (hcolumns : r.layout.columns ≠ []) (hvalues : r.layout.values ≠ []) :
    ∃ (c : Column) (source : Source) (conditions : List Condition) (groups : List Column),
      r.layout.columns.head? = some c.field ∧ r.model.Owns c ∧
      ∃ lookup : Statement,
        lookup =
          { distinct := true
            outputs := [⟨.column c, some c.field⟩]
            source := some source
            conditions := conditions ++ [.present c]
            ordered := true
            limit := some 25 } ∧
        ∀ (σ : Type) (store : Answering σ) (st : σ),
          (r.compile d).sent store st = [lookup.render d] ∧
          (∀ rows st', store st (lookup.render d) = (.ok rows, st') →
            ∃ values projections aggregates,
              Gathered c.field 25 rows values ∧
              List.Forall₂ r.Projects r.layout.rows projections ∧
              List.Forall₂ (r.Spreads c) (values ×ˢ r.layout.values) aggregates ∧
              (r.compile d).run store st =
                (.ok (if (projections ++ aggregates).isEmpty then none
                  else some (Statement.render d
                    { outputs := projections ++ aggregates
                      source := some source
                      conditions := conditions
                      groups := groups })), st')) ∧
          ∀ rows values more more' st' (store' : Answering σ),
            Gathered c.field 25 rows values → values.length = 25 →
            store st (lookup.render d) = (.ok (rows ++ more), st') →
            store' st (lookup.render d) = (.ok (rows ++ more'), st') →
            (r.compile d).run store st = (r.compile d).run store' st := by
  rcases r.plan_cases with ⟨h, _⟩ | ⟨_, _, _, c, hhead, howns, hplan⟩ | ⟨_, h, _⟩
  · exact absurd h htables
  · obtain ⟨base, hbase⟩ : ∃ base, r.model.base? = some base := by
      obtain ⟨t, ts, ht⟩ := List.exists_cons_of_ne_nil htables
      exact ⟨t.1, by simp [Model.base?, Model.tableNames, Entries.keys, ht]⟩
    obtain ⟨source, hsource⟩ : ∃ source, r.source? = some source :=
      ⟨_, by rw [Request.source?, Source.of?, hbase, Option.map_some]⟩
    refine ⟨c, source, r.conditions, r.rowGroups, hhead, howns, r.valueLookup c, ?_, ?_⟩
    · rw [Request.valueLookup, hsource, pivotValueLimit]
    intro σ store st
    obtain ⟨hsent, _, hok⟩ := @Request.compile_of_lookup r d σ store st c hplan
    refine ⟨hsent, ?_, ?_⟩
    · intro rows st' hstore
      refine ⟨pivotValues c.field rows, r.rowOutputs, r.pivotOutputs c (pivotValues c.field rows),
        gathered_iff.2 rfl, r.projects_rowOutputs, r.spreads_pivotOutputs c _, ?_⟩
      rw [hok rows st' hstore, Request.pivoted_eq, hsource]
      split
      · rfl
      · rfl
    · intro rows values more more' st' store' hgathered hlength hstore hstore'
      -- the first rows alone decide the values
      have hrows : pivotValues c.field rows = values := (gathered_iff.1 hgathered).symm
      have hfull : (pivotValues c.field rows).length = pivotValueLimit := hrows ▸ hlength
      obtain ⟨_, _, hok'⟩ := @Request.compile_of_lookup r d σ store' st c hplan
      rw [hok _ st' hstore, hok' _ st' hstore', pivotValues_append hfull more,
        pivotValues_append hfull more']
  · rcases h with h | h
    · exact absurd h hcolumns
    · exact absurd h hvalues

/-- Forty values in a column and rows without one: 25 of the values get a column of their own. -/
theorem compile_pivots_capped :
    let r : Request :=
      { model := ⟨[("jobs", ["seniority", "total", "title"])]⟩
        pivot :=
          { rows := ["title"], columns := ["seniority", "total"]
            values := [⟨"total", .sum, none⟩, ⟨"total", .max, some "Peak"⟩] } }
    let rows : List Row :=
      ⟨[]⟩ :: ⟨[("title", .text "a"), ("seniority", .null)]⟩ ::
        (List.range 40).map fun n => ⟨[("level", .integer (Int64.ofNat n))]⟩
    (r.model.tables ≠ [] ∧ r.layout.columns ≠ [] ∧ r.layout.values ≠ []) ∧
      ∃ s : Statement, s.outputs.length = 51 ∧
        ((r.compile .mysql).run (fun st _ => (.ok rows, st)) ()).1 =
          .ok (some (s.render .mysql)) := by
  intro r rows
  have htables : r.model.tables ≠ [] := by decide
  have hcolumns : r.layout.columns ≠ [] := by decide
  have hvalues : r.layout.values ≠ [] := by decide
  refine ⟨⟨htables, hcolumns, hvalues⟩, ?_⟩
  obtain ⟨c, source, conditions, groups, hhead, _, lookup, _, h⟩ :=
    compile_pivots .mysql r htables hcolumns hvalues
  obtain ⟨values, projections, aggregates, hgathered, hprojections, haggregates, hrun⟩ :=
    (h Unit (fun st _ => (.ok rows, st)) ()).2.1 rows () rfl
  have hfield : c.field = "seniority" := Option.some.inj hhead.symm
  have hcount : values.length = 25 := by
    rw [gathered_iff.1 hgathered, hfield]
    decide +kernel
  have hlength : (projections ++ aggregates).length = 51 := by
    rw [List.length_append, ← hprojections.length_eq, ← haggregates.length_eq,
      List.length_product, hcount]
    rfl
  have hsome : (projections ++ aggregates).isEmpty = false := by
    cases hnil : projections ++ aggregates with
    | nil => rw [hnil] at hlength; cases hlength
    | cons o os => rfl
  refine ⟨⟨false, projections ++ aggregates, some source, conditions, groups, false, none⟩,
    hlength, ?_⟩
  rw [hrun, hsome]
  rfl

end QueryLoom
