import QueryLoom.Proofs.Aggregation
import QueryLoom.Proofs.Query.Pivoting
import QueryLoom.Proofs.Sql.Statement

/-!
# Grouped statements

1. **Valid aggregations**: `Request.Aggregates` says which columns stand for the measures of a
   request, `Request.Summarizes` that a statement selects the columns that group its rows and, after
   them, these alone.
2. **Branches**: the grouped statement and the pivoted one are such (`summarizes_grouped`,
   `summarizes_pivoted`); a flat one has no groups.
3. **Main statement**: `compile_summarizes` is about the statement that compiling writes.
-/

namespace QueryLoom

open Sql

/-! ## Valid aggregations -/

/-- The columns inside the call of an aggregate function: what it aggregates, and the pivot column
that it compares. -/
def Sql.Expr.arguments : Expr → List Column
  | .aggregate _ c => [c]
  | .aggregateWhere _ pivot _ c => [pivot, c]
  | .column _ | .one | .all => []

/-- Whether columns of a result are the measures of a request: each measure once, or in a pivoted
layout each measure once for each of the first 25 values that the rows give for the pivot column. -/
inductive Request.Aggregates (r : Request) (rows : List Row) : List Output → Prop where
  | measured {aggregates : List Output} :
    r.layout.columns = [] ∨ r.layout.values = [] →
    List.Forall₂ r.Measures r.layout.values aggregates → r.Aggregates rows aggregates
  | spread {pivot : Column} {values : List Value} {aggregates : List Output} :
    r.layout.values ≠ [] → r.layout.columns.head? = some pivot.field → r.model.Owns pivot →
    Gathered pivot.field 25 rows values →
    List.Forall₂ (r.Spreads pivot) (values ×ˢ r.layout.values) aggregates →
    r.Aggregates rows aggregates

/-- Whether a statement is a valid aggregation over the row fields and the measures of a request,
given the rows of the query for the values of its pivot column. -/
structure Request.Summarizes (r : Request) (rows : List Row) (s : Statement) : Prop where
  /-- The columns that group the rows, renamed, and then the measures. -/
  outputs : r.layout.rows ≠ [] ∨ r.layout.values ≠ [] →
    s.outputs ≠ [] ∧ ∃ projections aggregates, s.outputs = projections ++ aggregates ∧
      List.Forall₂ (fun o c => o = ⟨.column c, some (r.scope.title c)⟩) projections s.groups ∧
      r.Aggregates rows aggregates
  /-- The number one alone if there are neither row fields nor measures. -/
  one : r.layout.rows = [] → r.layout.values = [] → s.outputs = [⟨.one, none⟩]
  /-- One group for each row field. -/
  groups : List.Forall₂ r.Groups r.layout.rows s.groups
  /-- The functions called are those of the measures, and the keyword of one that was read is a bare
  word. -/
  functions : ∀ o ∈ s.outputs, ∀ f ∈ o.expr.function?,
    (∃ m ∈ r.layout.values, m.aggregation = f) ∧ (f.IsRead → isWord f.keyword.toList = true)
  /-- A column of the model groups the rows only if it is a row field. -/
  columns : ∀ c, r.model.Owns c → (c ∈ s.groups ↔ c.field ∈ r.layout.rows)
  /-- What is inside an aggregate is a column of the model. -/
  arguments : ∀ o ∈ s.outputs, ∀ c ∈ o.expr.arguments, r.model.Owns c

namespace Request

variable {r : Request} {rows : List Row}

/-! ## Branches -/

theorem exists_mem_of_forall₂ {α β : Type} {R : α → β → Prop} {xs : List α} {ys : List β}
    (h : List.Forall₂ R xs ys) {y : β} (hy : y ∈ ys) : ∃ x ∈ xs, R x y := by
  induction h with
  | nil => cases hy
  | cons hxy _ ih =>
    rcases List.mem_cons.1 hy with rfl | hy
    · exact ⟨_, List.mem_cons_self, hxy⟩
    · obtain ⟨x, hx, hxy⟩ := ih hy
      exact ⟨x, List.mem_cons_of_mem _ hx, hxy⟩

/-- A measure is the call of its own function, on columns of the model. -/
theorem calls_of_aggregates {aggregates : List Output} (h : r.Aggregates rows aggregates)
    {o : Output} (ho : o ∈ aggregates) :
    ∃ m ∈ r.layout.values, o.expr.function? = some m.aggregation ∧
      ∀ c ∈ o.expr.arguments, r.model.Owns c := by
  cases h with
  | measured _ hmeasures =>
    obtain ⟨m, hm, c, howns, -, rfl⟩ := exists_mem_of_forall₂ hmeasures ho
    refine ⟨m, hm, rfl, ?_⟩
    intro c' hc'
    exact List.mem_singleton.1 hc' ▸ howns
  | @spread pivot _ _ _ _ hpivot _ hspreads =>
    obtain ⟨⟨v, m⟩, hp, c, howns, -, rfl⟩ := exists_mem_of_forall₂ hspreads ho
    refine ⟨m, (List.mem_product.1 hp).2, rfl, ?_⟩
    intro c' hc'
    have hc' : c' = pivot ∨ c' = c := by simpa [Expr.arguments] using hc'
    rcases hc' with rfl | rfl
    · exact hpivot
    · exact howns

/-- Without measures there are no columns for them. -/
theorem aggregates_eq_nil {aggregates : List Output} (h : r.Aggregates rows aggregates)
    (hvalues : r.layout.values = []) : aggregates = [] := by
  cases h with
  | measured _ hmeasures =>
    rw [hvalues] at hmeasures
    exact List.forall₂_nil_left_iff.1 hmeasures
  | spread hsome _ _ _ _ => exact absurd hvalues hsome

/-- A column for rows calls no function. -/
theorem function?_of_mem_rowOutputs {o : Output} (ho : o ∈ r.rowOutputs) :
    o.expr.function? = none ∧ o.expr.arguments = [] := by
  obtain ⟨f, -, ho⟩ := List.mem_filterMap.1 ho
  obtain ⟨c, -, rfl⟩ := Option.map_eq_some_iff.1 ho
  exact ⟨rfl, rfl⟩

/-- Columns for rows followed by the measures, under the groups of the row fields. -/
theorem summarizes_of_aggregates {aggregates : List Output} {s : Statement}
    (houtputs : s.outputs = r.rowOutputs ++ aggregates) (hsome : s.outputs ≠ [])
    (hgroups : s.groups = r.rowGroups) (haggregates : r.Aggregates rows aggregates) :
    r.Summarizes rows s where
  outputs := fun _ => ⟨hsome, r.rowOutputs, aggregates, houtputs,
    hgroups ▸ r.rowOutputs_rowGroups, haggregates⟩
  one := by
    intro hrows hvalues
    -- the statement would select nothing
    rw [houtputs, aggregates_eq_nil haggregates hvalues, rowOutputs_eq_nil.2 hrows] at hsome
    exact absurd rfl hsome
  groups := hgroups ▸ r.groups_rowGroups
  functions := by
    intro o ho f hf
    rw [houtputs, List.mem_append] at ho
    rcases ho with ho | ho
    · rw [(function?_of_mem_rowOutputs ho).1] at hf
      cases hf
    · obtain ⟨m, hm, hfunction, -⟩ := calls_of_aggregates haggregates ho
      rw [hfunction] at hf
      obtain rfl := Option.some.inj hf
      exact ⟨⟨m, hm, rfl⟩, Aggregation.isWord_keyword⟩
  columns := fun _ hc => hgroups ▸ mem_rowGroups hc
  arguments := by
    intro o ho c hc
    rw [houtputs, List.mem_append] at ho
    rcases ho with ho | ho
    · rw [(function?_of_mem_rowOutputs ho).2] at hc
      cases hc
    · obtain ⟨m, -, -, howns⟩ := calls_of_aggregates haggregates ho
      exact howns c hc

theorem summarizes_grouped (h : r.layout.columns = [] ∨ r.layout.values = []) :
    r.Summarizes rows r.grouped := by
  by_cases hnone : r.rowOutputs ++ r.layout.values.filterMap r.scope.aggregate? = []
  · -- neither rows nor measures: the number one, and no groups
    obtain ⟨hrows, hmeasures⟩ := List.append_eq_nil_iff.1 hnone
    have hrows : r.layout.rows = [] := rowOutputs_eq_nil.1 hrows
    have hvalues : r.layout.values = [] := by
      have hlength := r.measures_filterMap.length_eq
      rw [hmeasures] at hlength
      exact List.length_eq_zero_iff.1 hlength
    have hgroups : r.grouped.groups = [] := by
      show r.rowGroups = []
      rw [rowGroups, hrows, List.filterMap_nil]
    have houtputs : r.grouped.outputs = [⟨.one, none⟩] := by
      simp [grouped, statement, hnone]
    have hone : ∀ o ∈ r.grouped.outputs, o = ⟨.one, none⟩ := by
      intro o ho
      rw [houtputs] at ho
      exact List.mem_singleton.1 ho
    exact
      { outputs := fun hsome => absurd hsome (by simp [hrows, hvalues])
        one := fun _ _ => houtputs
        groups := by rw [hrows, hgroups]; exact .nil
        functions := by
          intro o ho f hf
          rw [hone o ho] at hf
          cases hf
        columns := fun _ => mem_rowGroups
        arguments := by
          intro o ho c hc
          rw [hone o ho] at hc
          cases hc }
  · have houtputs : r.grouped.outputs =
        r.rowOutputs ++ r.layout.values.filterMap r.scope.aggregate? := by
      simp only [grouped, statement]
      rw [if_neg (by simpa using hnone)]
    exact summarizes_of_aggregates houtputs (houtputs ▸ hnone) rfl
      (.measured h r.measures_filterMap)

theorem summarizes_pivoted {pivot : Column} (hvalues : r.layout.values ≠ [])
    (hhead : r.layout.columns.head? = some pivot.field) (hpivot : r.model.Owns pivot)
    {s : Statement} (hs : r.pivoted pivot (pivotValues pivot.field rows) = some s) :
    r.Summarizes rows s := by
  obtain ⟨hsome, rfl⟩ := statement?_eq_some.1 hs
  exact summarizes_of_aggregates rfl hsome rfl
    (.spread hvalues hhead hpivot (gathered_iff.2 rfl) (r.spreads_pivotOutputs pivot _))

theorem groups_flat {s : Statement} (hs : r.flat = some s) : s.groups = [] := by
  obtain ⟨-, rfl⟩ := statement?_eq_some.1 hs
  rfl

/-- A statement that a plan ends in: over the tables and under the conditions of the request, a
valid aggregation unless the layout is empty. -/
theorem summarizes_of_answer? {s : Statement} (h : r.plan.answer? rows = some s) :
    (∃ outputs groups, s = r.statement outputs groups) ∧
      (r.layout.isEmpty = false → r.Summarizes rows s) ∧
      (r.layout.isEmpty = true → s.groups = []) := by
  rcases r.plan_cases with
    ⟨_, hplan⟩ | ⟨_, hcolumns, hvalues, c, hhead, howns, hplan⟩ | ⟨_, hdirect, hplan⟩
  · rw [hplan] at h
    cases h
  · rw [hplan] at h
    have hfull : r.layout.isEmpty = false := by simp [Pivot.isEmpty, hcolumns]
    refine ⟨⟨_, _, (statement?_eq_some.1 h).2⟩,
      fun _ => summarizes_pivoted hvalues hhead howns h, ?_⟩
    intro hempty
    rw [hfull] at hempty
    cases hempty
  · have hs : r.direct = some s := by
      rw [hplan] at h
      cases hdirect : r.direct with
      | none => simp [hdirect, Plan.answer?] at h
      | some t => simpa [hdirect, Plan.answer?] using h
    unfold direct at hs
    split at hs
    · rename_i hempty
      refine ⟨⟨_, _, (statement?_eq_some.1 hs).2⟩, ?_, fun _ => groups_flat hs⟩
      intro hfull
      rw [hempty] at hfull
      cases hfull
    · rename_i hfull
      obtain rfl := Option.some.inj hs
      exact ⟨⟨_, _, rfl⟩, fun _ => summarizes_grouped hdirect, fun hempty => absurd hempty hfull⟩

end Request

/-! ## Main statement -/

theorem Sql.Statement.groupTokens_eq_nil {s : Statement} : s.groupTokens = [] ↔ s.groups = [] := by
  cases hgroups : s.groups with
  | nil => simp [groupTokens, hgroups]
  | cons c cs => simp [groupTokens, hgroups]

/-- The SQL of a request is a `SELECT` with its `FROM`, `WHERE` and `GROUP BY` clauses, written for
the statement that the plan ends in once the store has answered its query with rows. If the layout
is not empty, this is a valid aggregation: it selects the columns of the `GROUP BY` clause, renamed,
and after them the measures only, or else the number one; the clause names one column for each row
field and is there exactly if there are row fields; no other column of the model stands in it, be it
aggregated or pivoted on. If the layout is empty there is no `GROUP BY` clause. -/
theorem compile_summarizes (d : Dialect) (r : Request) {σ : Type} (store : Answering σ) (st : σ)
    (sql : String) (h : ((r.compile d).run store st).1 = .ok (some sql)) :
    ∃ rows s, r.plan.answer? rows = some s ∧
      (∀ query, r.plan.lookup? = some query → (store st (query.render d)).1 = .ok rows) ∧
      sql = Token.render d (s.selectTokens ++ Token.after (Source.clause s.source)
        ++ Token.after (Condition.clause s.conditions) ++ Token.after s.groupTokens) ∧
      (r.layout.rows ≠ [] ∨ r.layout.columns ≠ [] ∨ r.layout.values ≠ [] →
        r.Summarizes rows s ∧ (s.groupTokens = [] ↔ r.layout.rows = [])) ∧
      (r.layout.rows = [] ∧ r.layout.columns = [] ∧ r.layout.values = [] → s.groupTokens = []) := by
  obtain ⟨rows, s, hs, hsql, hrows⟩ := Plan.answer?_of_run h
  obtain ⟨⟨outputs, groups, hstatement⟩, hfull, hempty⟩ := Request.summarizes_of_answer? hs
  have hlayout : r.layout.isEmpty = true ↔
      r.layout.rows = [] ∧ r.layout.columns = [] ∧ r.layout.values = [] := by
    simp [Pivot.isEmpty, and_assoc]
  refine ⟨rows, s, hs, hrows, ?_, ?_, ?_⟩
  · have htokens := Statement.tokens_eq (s := s) (by rw [hstatement]; rfl) (by rw [hstatement]; rfl)
    rw [← hsql, Statement.render, htokens]
  · intro hsome
    have hsummarizes : r.Summarizes rows s := by
      apply hfull
      rw [Bool.eq_false_iff]
      intro htrue
      obtain ⟨hrows, hcolumns, hvalues⟩ := hlayout.1 htrue
      rcases hsome with h | h | h
      · exact h hrows
      · exact h hcolumns
      · exact h hvalues
    refine ⟨hsummarizes, ?_⟩
    rw [Statement.groupTokens_eq_nil, ← List.length_eq_zero_iff, ← List.length_eq_zero_iff,
      hsummarizes.groups.length_eq]
  · intro hnone
    rw [Statement.groupTokens_eq_nil]
    exact hempty (hlayout.2 hnone)

/-- A pivot column that is a row field as well, measures of a row field and of another field, and a
field that is not listed. -/
theorem compile_summarizes_pivoted :
    let r : Request :=
      { model := ⟨[("jobs", ["title", "total"]), ("sources", ["total", "name"])]⟩
        pivot :=
          { rows := ["name", "total", "salary"], columns := ["name"]
            values := [⟨"total", .sum, none⟩, ⟨"title", .custom "MEDIAN", none⟩] } }
    let rows : List Row := [⟨[("name", .null)]⟩, ⟨[("name", .text "a")]⟩]
    let store : Answering Unit := fun s _ => (.ok rows, s)
    let s : Statement := r.statement
      [⟨.column ⟨"sources", "name"⟩, some "name"⟩, ⟨.column ⟨"jobs", "total"⟩, some "total"⟩,
        ⟨.aggregateWhere .sum ⟨"sources", "name"⟩ (.text "a") ⟨"jobs", "total"⟩,
          some "a - SUM of total"⟩,
        ⟨.aggregateWhere (.custom "MEDIAN") ⟨"sources", "name"⟩ (.text "a") ⟨"jobs", "title"⟩,
          some "a - MEDIAN of title"⟩]
      [⟨"sources", "name"⟩, ⟨"jobs", "total"⟩]
    ((r.compile .duckdb).run store ()).1 = .ok (some (s.render .duckdb)) ∧
      r.layout.rows = ["name", "total"] ∧ r.Summarizes rows s ∧ s.groupTokens ≠ [] := by
  intro r rows store s
  have hrun : ((r.compile .duckdb).run store ()).1 = .ok (some (s.render .duckdb)) := rfl
  have hrows : r.layout.rows = ["name", "total"] := by decide
  obtain ⟨rows', s', hs, hanswer, -, hfull, -⟩ := compile_summarizes .duckdb r store () _ hrun
  -- the rows of the store give the statement
  obtain rfl : rows = rows' := Except.ok.inj (hanswer _ rfl)
  obtain rfl : s = s' := Option.some.inj hs
  obtain ⟨hsummarizes, hgroups⟩ := hfull (Or.inl (by simp [hrows]))
  exact ⟨hrun, hrows, hsummarizes, mt hgroups.1 (by simp [hrows])⟩

end QueryLoom
