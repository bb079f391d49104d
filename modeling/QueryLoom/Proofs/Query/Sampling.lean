import QueryLoom.Proofs.Query.Pivoting
import QueryLoom.Query.Samples

/-!
# Sample values and pivot values

Two questions are asked for the values of a field: for a sample, and for the columns of a pivot.
Whatever rows the store answers with, both take their values from the beginning of one sequence.

1. **One sequence**: a row gives at most one value, so that the values gathered from all rows are
   those gathered under the number of rows as the limit (`gathered_all`).
2. **Main statement**: `lookups_agree` gives the results of both questions for the same rows, and
   for a failure of the store.
-/

namespace QueryLoom

open Sql

/-! ## One sequence -/

theorem length_columnValues_le (column : String) (rows : List Row) :
    (columnValues column rows).length ≤ rows.length :=
  Nat.le_trans (List.length_filter_le _ _) (List.length_filterMap_le _ _)

/-- All the values that rows give for a column. -/
theorem gathered_all (column : String) (rows : List Row) :
    Gathered column rows.length rows (columnValues column rows) := by
  rw [gathered_iff, List.take_of_length_le (length_columnValues_le column rows)]

theorem ne_null_of_mem_columnValues {column : String} {rows : List Row} {v : Value}
    (h : v ∈ columnValues column rows) : v ≠ .null := by
  have hkept := (List.mem_filter.1 h).2
  rintro rfl
  cases hkept

/-! ## Main statement -/

/-- The sample of a field and the lookup for a pivot column of that name take from the same rows the
display texts of the first 50 values and the first 25 values of one sequence. These are all the
values that the rows give for the field, row after row and nulls left out, whether or not the store
has kept to the conditions and limits of its queries. A failure of the store is the result of both.
The lookup is what a pivoted request asks, before it goes on with the values. -/
theorem lookups_agree (field : String) :
    (∀ rows : List Row, ∃ values : List Value,
      Gathered field rows.length rows values ∧ (∀ v ∈ values, v ≠ .null) ∧
      ∃ (texts : List String) (picked : List Value),
        texts = (values.take 50).map Value.display ∧ picked = values.take 25 ∧
        picked.map Value.display = texts.take 25 ∧ texts.length ≤ 50 ∧ picked.length ≤ 25 ∧
        ∀ (d : Dialect) (table : String) (query : Statement) (σ : Type) (store : Answering σ)
          (st st' : σ),
          (store st (Token.render d (sampleTokens table field)) = (.ok rows, st') →
            (samples d table field).run store st = (.ok texts, st')) ∧
          (store st (query.render d) = (.ok rows, st') →
            (pivotLookup d query field).run store st = (.ok picked, st'))) ∧
    (∀ (e : StoreError) (d : Dialect) (table : String) (query : Statement) (σ : Type)
      (store : Answering σ) (st st' : σ),
      (store st (Token.render d (sampleTokens table field)) = (.error e, st') →
        (samples d table field).run store st = (.error e, st')) ∧
      (store st (query.render d) = (.error e, st') →
        (pivotLookup d query field).run store st = (.error e, st'))) ∧
    ∀ (r : Request) (d : Dialect) (query : Statement) (finish : List Value → Option Statement),
      r.plan = .lookup query field finish →
        r.compile d =
          (pivotLookup d query field).map fun values => (finish values).map (·.render d) := by
  refine ⟨?_, ?_, ?_⟩
  · intro rows
    refine ⟨columnValues field rows, gathered_all field rows,
      fun v hv => ne_null_of_mem_columnValues hv, sampleTexts field rows, pivotValues field rows,
      rfl, rfl, ?_, ?_, ?_, ?_⟩
    · -- the limit of a pivot is within that of a sample
      rw [sampleTexts, pivotValues, ← List.map_take, List.take_take]
      rfl
    · rw [sampleTexts, List.length_map]
      exact List.length_take_le _ _
    · exact List.length_take_le _ _
    · intro d table query σ store st st'
      constructor
      · intro hstore
        rw [samples, Dialogue.run, hstore]
        rfl
      · intro hstore
        rw [pivotLookup, Dialogue.run, hstore]
        rfl
  · intro e d table query σ store st st'
    constructor
    · intro hstore
      rw [samples, Dialogue.run, hstore]
    · intro hstore
      rw [pivotLookup, Dialogue.run, hstore]
  · intro r d query finish hplan
    rw [Request.compile, hplan, Plan.compile_lookup]

/-- A store that keeps to no condition and no limit: a row without cells, a null in the cell of the
field, which is not made up for by the first cell, and sixty rows without a cell of that name. -/
theorem lookups_agree_unlimited :
    let rows : List Row :=
      ⟨[]⟩ :: ⟨[("a", .text "x"), ("level", .null)]⟩ ::
        (List.range 60).map fun n => ⟨[("b", .integer (Int64.ofNat n)), ("c", .null)]⟩
    let store : Answering Unit := fun st _ => (.ok rows, st)
    let broken : Answering Unit := fun st _ => (.error (.query "no such table"), st)
    let r : Request :=
      { model := ⟨[("jobs", ["level", "total"])]⟩
        pivot := { columns := ["level"], values := [⟨"total", .sum, none⟩] } }
    let query := r.valueLookup ⟨"jobs", "level"⟩
    (∃ texts picked,
      ((samples .mysql "jobs" "level").run store ()).1 = .ok texts ∧
      ((pivotLookup .mysql query "level").run store ()).1 = .ok picked ∧
      texts.length = 50 ∧ picked.length = 25 ∧ picked.map Value.display = texts.take 25 ∧
      texts.head? = some "0") ∧
    ((samples .mysql "jobs" "level").run broken ()).1 = .error (.query "no such table") ∧
    ((pivotLookup .mysql query "level").run broken ()).1 = .error (.query "no such table") ∧
    ((r.compile .mysql).run broken ()).1 = .error (.query "no such table") := by
  intro rows store broken r query
  obtain ⟨hrows, herror, hcompile⟩ := lookups_agree "level"
  obtain ⟨values, hvalues, -, texts, picked, rfl, rfl, htake, -, -, hrun⟩ := hrows rows
  obtain ⟨hsamples, hlookup⟩ := hrun .mysql "jobs" query Unit store () ()
  obtain ⟨hsamples', hlookup'⟩ :=
    herror (.query "no such table") .mysql "jobs" query Unit broken () ()
  have hplan : r.plan = .lookup query "level" (r.pivoted ⟨"jobs", "level"⟩) := rfl
  have hvalues : values = (columnValues "level" rows).take rows.length := gathered_iff.1 hvalues
  refine ⟨⟨_, _, ?_, ?_, ?_, ?_, htake, ?_⟩, ?_, ?_, ?_⟩
  · rw [hsamples rfl]
  · rw [hlookup rfl]
  · rw [hvalues]
    decide +kernel
  · rw [hvalues]
    decide +kernel
  · rw [hvalues]
    decide +kernel
  · rw [hsamples' rfl]
  · rw [hlookup' rfl]
  · rw [hcompile r .mysql query _ hplan, Dialogue.run_map, hlookup' rfl]
    rfl

end QueryLoom
