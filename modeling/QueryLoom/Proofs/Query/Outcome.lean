import QueryLoom.Proofs.Query.Planning

/-!
# What comes out of compiling

1. **Values found**: the rows of a lookup give no pivot value exactly if each of them holds null or
   nothing (`pivotValues_eq_nil`).
2. **Nothing to select**: `Request.direct_eq_none` says when a request without pivoted columns
   selects nothing.
3. **Main statement**: `compile_outcome` gives, for each request and store, the queries that the
   store receives and whether there is SQL, nothing or a failure.
-/

namespace QueryLoom

open Sql

/-! ## Values found -/

theorem Value.isNull_iff {v : Value} : v.isNull = true ↔ v = .null := by
  cases v <;> simp [Value.isNull]

theorem pivotValues_eq_nil {field : String} {rows : List Row} :
    pivotValues field rows = [] ↔ ∀ row ∈ rows, ∀ v, row.pick? field = some v → v = .null := by
  have htake : pivotValues field rows = [] ↔ columnValues field rows = [] := by
    simp [pivotValues, pivotValueLimit]
  rw [htake, columnValues, List.filter_eq_nil_iff]
  simp only [List.mem_filterMap, Bool.not_eq_true', Bool.not_eq_false, Value.isNull_iff,
    forall_exists_index, and_imp]
  constructor
  · intro h row hrow v hv
    exact h v row hrow hv
  · intro h v row hrow hv
    exact h row hrow v hv

namespace Request

variable {r : Request}

/-! ## Nothing to select -/

/-- Whether a flat selection holds no field of the model: of those chosen none is listed, or none
is chosen and the model lists none. -/
def SelectsNothing (r : Request) : Prop :=
  (∃ fields, r.selection = some fields ∧ ∀ f ∈ fields, ∀ t ∈ r.model.tables, f ∉ t.2) ∨
    (r.selection = none ∧ ∀ t ∈ r.model.tables, t.2 = [])

theorem flatFields_eq_nil : r.flatFields = [] ↔ r.SelectsNothing := by
  rw [List.eq_nil_iff_forall_not_mem]
  simp only [mem_flatFields, Model.hasField_iff, SelectsNothing]
  cases hselection : r.selection with
  | some fields =>
    constructor
    · intro h
      refine Or.inl ⟨fields, rfl, ?_⟩
      intro f hf t ht hmem
      refine h f ⟨⟨t, ht, hmem⟩, ?_⟩
      intro fields' hfields'
      exact Option.some.inj hfields' ▸ hf
    · rintro (⟨fields', hfields', h⟩ | ⟨hnone, _⟩)
      · rintro f ⟨⟨t, ht, hmem⟩, hchosen⟩
        exact h f (hchosen fields' hfields') t ht hmem
      · cases hnone
  | none =>
    constructor
    · intro h
      refine Or.inr ⟨rfl, ?_⟩
      intro t ht
      rw [List.eq_nil_iff_forall_not_mem]
      intro f hmem
      exact h f ⟨⟨t, ht, hmem⟩, fun fields hfields => nomatch hfields⟩
    · rintro (⟨fields, hfields, _⟩ | ⟨_, h⟩)
      · cases hfields
      · rintro f ⟨⟨t, ht, hmem⟩, _⟩
        rw [h t ht] at hmem
        cases hmem

theorem direct_eq_none :
    r.direct = none ↔
      (r.layout.rows = [] ∧ r.layout.columns = [] ∧ r.layout.values = []) ∧ r.SelectsNothing := by
  have hempty : r.layout.isEmpty = true ↔
      r.layout.rows = [] ∧ r.layout.columns = [] ∧ r.layout.values = [] := by
    simp [Pivot.isEmpty, and_assoc]
  rw [← hempty, ← flatFields_eq_nil, ← flat_eq_none, direct]
  split
  · rename_i h
    simp [h]
  · rename_i h
    simp [h]

/-! ## Main statement -/

variable {d : Dialect} {σ : Type} {store : Answering σ} {st : σ}

/-- A request whose plan has no query is answered without the store. -/
theorem compile_of_no_lookup (h : r.plan.lookup? = none) :
    (r.compile d).sent store st = [] ∧
      (r.compile d).run store st = (.ok ((r.plan.answer? []).map (·.render d)), st) := by
  constructor
  · rw [compile, Plan.sent_compile, h]
    rfl
  · rw [compile, Plan.run_compile_of_no_lookup h []]

/-- A pivoted request is answered with one query. It fails if the query does. -/
theorem compile_of_lookup {c : Column}
    (h : r.plan = .lookup (r.valueLookup c) c.field (r.pivoted c)) :
    (r.compile d).sent store st = [(r.valueLookup c).render d] ∧
      (∀ e st', store st ((r.valueLookup c).render d) = (.error e, st') →
        (r.compile d).run store st = (.error e, st')) ∧
      ∀ rows st', store st ((r.valueLookup c).render d) = (.ok rows, st') →
        (r.compile d).run store st =
          (.ok ((r.pivoted c (pivotValues c.field rows)).map (·.render d)), st') := by
  have hlookup : r.plan.lookup? = some (r.valueLookup c) := by rw [h]; rfl
  refine ⟨?_, ?_, ?_⟩
  · rw [compile, Plan.sent_compile, hlookup]
    rfl
  · intro e st' hstore
    exact Plan.run_compile_of_error hlookup hstore
  · intro rows st' hstore
    have hanswer : r.plan.answer? rows = r.pivoted c (pivotValues c.field rows) := by rw [h]; rfl
    rw [compile, Plan.run_compile_of_rows hlookup hstore, hanswer]

end Request

/-- The outcome of compiling. A model without tables gives nothing. A pivoted layout takes one query
for the values of its column; the failure of the query is the failure of the whole, and there is
nothing to select only if there are neither rows nor values. In all other cases no store is asked,
and there is nothing to select only if the layout is empty and the selection holds no field of the
model. -/
theorem compile_outcome (d : Dialect) (r : Request) :
    (r.model.tables = [] → ∀ (σ : Type) (store : Answering σ) (st : σ),
      (r.compile d).sent store st = [] ∧ (r.compile d).run store st = (.ok none, st)) ∧
    (r.model.tables ≠ [] → r.layout.columns ≠ [] → r.layout.values ≠ [] →
      ∃ c : Column, r.layout.columns.head? = some c.field ∧ r.model.Owns c ∧
        ∀ (σ : Type) (store : Answering σ) (st : σ),
          (r.compile d).sent store st = [(r.valueLookup c).render d] ∧
          (∀ e st', store st ((r.valueLookup c).render d) = (.error e, st') →
            (r.compile d).run store st = (.error e, st')) ∧
          ∀ rows st', store st ((r.valueLookup c).render d) = (.ok rows, st') →
            ∃ result, (r.compile d).run store st = (.ok result, st') ∧
              (result = none ↔ r.layout.rows = [] ∧
                ∀ row ∈ rows, ∀ v, row.pick? c.field = some v → v = .null)) ∧
    (r.model.tables ≠ [] → (r.layout.columns = [] ∨ r.layout.values = []) →
      ∃ result, (∀ (σ : Type) (store : Answering σ) (st : σ),
          (r.compile d).sent store st = [] ∧ (r.compile d).run store st = (.ok result, st)) ∧
        (result = none ↔
          (r.layout.rows = [] ∧ r.layout.columns = [] ∧ r.layout.values = []) ∧
            r.SelectsNothing)) ∧
    ∀ (σ : Type) (store : Answering σ) (st : σ) (e : StoreError),
      ((r.compile d).run store st).1 = .error e →
        r.model.tables ≠ [] ∧ r.layout.columns ≠ [] ∧ r.layout.values ≠ [] := by
  rcases r.plan_cases with
    ⟨htables, hplan⟩ | ⟨htables, hcolumns, hvalues, c, hhead, howns, hplan⟩ | ⟨htables, hnot, hplan⟩
  · -- no tables
    have hlookup : r.plan.lookup? = none := by rw [hplan]; rfl
    have hnothing : (r.plan.answer? []).map (·.render d) = none := by rw [hplan]; rfl
    refine ⟨?_, fun h => absurd htables h, fun h => absurd htables h, ?_⟩
    · intro _ σ store st
      have hrun := @Request.compile_of_no_lookup r d σ store st hlookup
      rwa [hnothing] at hrun
    · intro σ store st e h
      rw [(Request.compile_of_no_lookup hlookup).2] at h
      cases h
  · -- a pivoted layout
    refine ⟨fun h => absurd h htables, ?_, ?_, fun _ _ _ _ _ => ⟨htables, hcolumns, hvalues⟩⟩
    · intro _ _ _
      refine ⟨c, hhead, howns, ?_⟩
      intro σ store st
      obtain ⟨hsent, herror, hok⟩ := @Request.compile_of_lookup r d σ store st c hplan
      refine ⟨hsent, herror, ?_⟩
      intro rows st' hstore
      -- a measure is there, so only the values can be missing
      refine ⟨_, hok rows st' hstore, ?_⟩
      rw [Option.map_eq_none_iff, Request.pivoted_eq_none, pivotValues_eq_nil]
      simp [hvalues]
    · intro _ h
      rcases h with h | h
      · exact absurd h hcolumns
      · exact absurd h hvalues
  · -- no values of a column are needed
    have hlookup : r.plan.lookup? = none := by
      rw [hplan]
      cases r.direct <;> rfl
    have hanswer : r.plan.answer? [] = r.direct := by
      rw [hplan]
      cases r.direct <;> rfl
    refine ⟨fun h => absurd h htables, ?_, ?_, ?_⟩
    · intro _ hcolumns hvalues
      rcases hnot with h | h
      · exact absurd h hcolumns
      · exact absurd h hvalues
    · intro _ _
      refine ⟨_, fun σ store st => Request.compile_of_no_lookup hlookup, ?_⟩
      rw [hanswer, Option.map_eq_none_iff, Request.direct_eq_none]
    · intro σ store st e h
      rw [(Request.compile_of_no_lookup hlookup).2] at h
      cases h

/-- A pivoted request: its lookup fails with the store, and null for a value is no value. -/
theorem compile_outcome_pivoted :
    let r : Request :=
      { model := ⟨[("jobs", ["seniority", "total"])]⟩
        pivot := { columns := ["seniority"], values := [⟨"total", .sum, none⟩] } }
    (r.model.tables ≠ [] ∧ r.layout.columns ≠ [] ∧ r.layout.values ≠ []) ∧
      (∀ e, ((r.compile .sqlite).run (fun s _ => (.error e, s)) ()).1 = .error e) ∧
      ((r.compile .sqlite).run
        (fun s _ => (.ok [⟨[("seniority", .null)]⟩, ⟨[]⟩], s)) ()).1 = .ok none := by
  intro r
  have htables : r.model.tables ≠ [] := by decide
  have hcolumns : r.layout.columns ≠ [] := by decide
  have hvalues : r.layout.values ≠ [] := by decide
  obtain ⟨c, hhead, _, h⟩ := (compile_outcome .sqlite r).2.1 htables hcolumns hvalues
  refine ⟨⟨htables, hcolumns, hvalues⟩, ?_, ?_⟩
  · intro e
    rw [(h Unit (fun s _ => (.error e, s)) ()).2.1 e () rfl]
  · obtain ⟨result, hrun, hresult⟩ :=
      (h Unit (fun s _ => (.ok [⟨[("seniority", .null)]⟩, ⟨[]⟩], s)) ()).2.2 _ () rfl
    have hfield : c.field = "seniority" := Option.some.inj hhead.symm
    rw [hrun, hresult.2 ⟨rfl, ?_⟩]
    rw [hfield]
    simp [Row.pick?, Row.get?, Row.first?, Entries.get?]

end QueryLoom
