import Mathlib.Data.List.Basic
import QueryLoom.Proofs.Model.Distinct
import QueryLoom.Proofs.Store.Dialogue
import QueryLoom.Query.Compile

/-!
# What a plan is made of

1. **Columns**: `Model.Owns` says that a column's table is the first one that lists its field. In
   the scope of a request every listed field names such a column (`Scope.column?_of_hasField`).
2. **Listed fields**: the layout, the filters and the selection of a request are cut down to listed
   fields before they are used, so none of their columns is missing.
3. **Plans**: `Request.plan_cases` gives the four ways a request is answered, `Request.Poses` what
   every statement of a plan has in common.
4. **Carrying out a plan**: `Plan.sent_compile` says what the store is asked, the lemmas beside it
   what comes out.
-/

namespace QueryLoom

open Sql

/-! ## Columns -/

/-- A column belongs to a model if its table is the first one that lists its field. -/
def Model.Owns (m : Model) (c : Column) : Prop :=
  ∃ pre fields post, m.tables = pre ++ (c.table, fields) :: post ∧ c.field ∈ fields ∧
    ∀ e ∈ pre, c.field ∉ e.2

theorem Model.owns_iff {m : Model} {c : Column} :
    m.Owns c ↔ m.tableOf? c.field = some c.table := by
  simp only [Model.Owns, Model.tableOf?, Option.map_eq_some_iff, List.find?_eq_some_iff_append]
  constructor
  · rintro ⟨pre, fields, post, htables, hmem, hpre⟩
    refine ⟨(c.table, fields), ⟨by simpa using hmem, pre, post, htables, ?_⟩, rfl⟩
    intro e he
    simpa using hpre e he
  · rintro ⟨⟨table, fields⟩, ⟨hmem, pre, post, htables, hpre⟩, rfl⟩
    refine ⟨pre, fields, post, htables, by simpa using hmem, ?_⟩
    intro e he
    simpa using hpre e he

theorem Model.hasField_iff {m : Model} {f : String} :
    m.hasField f = true ↔ ∃ e ∈ m.tables, f ∈ e.2 := by
  simp [Model.hasField, Model.tableOf?, List.find?_isSome]

/-- A field that the model lists names a column of the model. -/
theorem Scope.column?_of_hasField {s : Scope} {f : String} (h : s.model.hasField f = true) :
    ∃ c : Column, s.column? f = some c ∧ c.field = f ∧ s.model.Owns c := by
  obtain ⟨t, ht⟩ := Option.isSome_iff_exists.1 h
  refine ⟨⟨t, f⟩, ?_, rfl, Model.owns_iff.2 ht⟩
  simp [Scope.column?, Scope.tableOf?, ht]

/-- The column of a condition. -/
def Sql.Condition.column : Condition → Column
  | .equals c _ | .greater c _ | .less c _ | .like c _ | .present c => c

/-! ## Listed fields -/

/-- Of a function that is defined on a list, nothing is missing. -/
theorem filterMap_eq_nil {α β : Type} {g : α → Option β} {xs : List α}
    (h : ∀ x ∈ xs, (g x).isSome = true) : xs.filterMap g = [] ↔ xs = [] := by
  cases xs with
  | nil => simp
  | cons x xs =>
    obtain ⟨y, hy⟩ := Option.isSome_iff_exists.1 (h x List.mem_cons_self)
    simp [hy]

namespace Request

variable {r : Request}

theorem hasField_of_mem_rows {f : String} (h : f ∈ r.layout.rows) : r.model.hasField f = true :=
  (List.mem_filter.1 h).2

theorem hasField_of_mem_columns {f : String} (h : f ∈ r.layout.columns) :
    r.model.hasField f = true :=
  (List.mem_filter.1 h).2

theorem hasField_of_mem_values {m : Measure} (h : m ∈ r.layout.values) :
    r.model.hasField m.field = true :=
  (List.mem_filter.1 h).2

/-- The fields of a flat selection: those chosen that the model lists, or all that it lists. -/
theorem mem_flatFields {f : String} :
    f ∈ r.flatFields ↔
      r.model.hasField f = true ∧ ∀ fields, r.selection = some fields → f ∈ fields := by
  unfold flatFields
  cases r.selection with
  | some fields => simp [mem_distinct, and_comm]
  | none => simp [Model.fieldNames, mem_distinct, Model.hasField_iff]

theorem exists_column {f : String} (h : r.model.hasField f = true) :
    ∃ c : Column, r.scope.column? f = some c ∧ c.field = f ∧ r.model.Owns c :=
  Scope.column?_of_hasField h

theorem isSome_output? {f : String} (h : r.model.hasField f = true) :
    (r.scope.output? f).isSome = true := by
  obtain ⟨c, hc, _⟩ := exists_column h
  simp [Scope.output?, hc]

theorem rowOutputs_eq_nil : r.rowOutputs = [] ↔ r.layout.rows = [] :=
  filterMap_eq_nil fun _ hf => isSome_output? (hasField_of_mem_rows hf)

/-- A pivoted layout has a column for each value and measure. -/
theorem pivotOutputs_eq_nil {c : Column} {values : List Value} :
    r.pivotOutputs c values = [] ↔ values = [] ∨ r.layout.values = [] := by
  have hmeasures : ∀ v, r.layout.values.filterMap (r.scope.aggregateWhere? c v) = [] ↔
      r.layout.values = [] := by
    intro v
    apply filterMap_eq_nil
    intro m hm
    obtain ⟨c, hc, _⟩ := exists_column (hasField_of_mem_values hm)
    simp [Scope.aggregateWhere?, hc]
  simp only [pivotOutputs, List.flatMap_eq_nil_iff, hmeasures]
  cases values with
  | nil => simp
  | cons v vs =>
    simp only [List.mem_cons, forall_eq_or_imp, reduceCtorEq, false_or, and_iff_left_iff_imp]
    exact fun h _ _ => h

theorem statement?_eq_none {outputs : List Output} {groups : List Column} :
    r.statement? outputs groups = none ↔ outputs = [] := by
  cases outputs <;> simp [statement?]

/-- There is no flat statement only if the selection holds no listed field. -/
theorem flat_eq_none : r.flat = none ↔ r.flatFields = [] := by
  rw [flat, statement?_eq_none]
  exact filterMap_eq_nil fun _ hf => isSome_output? (mem_flatFields.1 hf).1

/-- There is no pivoted statement only if there are neither rows nor values nor measures. -/
theorem pivoted_eq_none {c : Column} {values : List Value} :
    r.pivoted c values = none ↔
      r.layout.rows = [] ∧ (values = [] ∨ r.layout.values = []) := by
  rw [pivoted, statement?_eq_none, List.append_eq_nil_iff, rowOutputs_eq_nil, pivotOutputs_eq_nil]

/-! ## Plans -/

/-- A plan that does not ask the store: the flat statement, or the grouped one. -/
def direct (r : Request) : Option Statement :=
  if r.layout.isEmpty then r.flat else some r.grouped

/-- The ways a request is answered. -/
theorem plan_cases (r : Request) :
    (r.model.tables = [] ∧ r.plan = .nothing) ∨
    (r.model.tables ≠ [] ∧ r.layout.columns ≠ [] ∧ r.layout.values ≠ [] ∧
      ∃ c : Column, r.layout.columns.head? = some c.field ∧ r.model.Owns c ∧
        r.plan = .lookup (r.valueLookup c) c.field (r.pivoted c)) ∨
    (r.model.tables ≠ [] ∧ (r.layout.columns = [] ∨ r.layout.values = []) ∧
      r.plan = r.direct.elim .nothing .statement) := by
  by_cases htables : r.model.tables = []
  · left
    exact ⟨htables, by simp [plan, Model.isEmpty, htables]⟩
  right
  have hmodel : ¬ r.model.isEmpty = true := by simpa [Model.isEmpty] using htables
  by_cases hpivoted : r.layout.isPivoted = true
  · left
    have hboth : r.layout.columns ≠ [] ∧ r.layout.values ≠ [] := by
      simpa [Pivot.isPivoted] using hpivoted
    obtain ⟨f, fs, hcolumns⟩ := List.exists_cons_of_ne_nil hboth.1
    -- the pivot column is a listed field, so it names a column
    have hf : r.model.hasField f = true := hasField_of_mem_columns (by simp [hcolumns])
    obtain ⟨c, hc, rfl, howns⟩ := exists_column hf
    refine ⟨htables, hboth.1, hboth.2, c, by simp [hcolumns], howns, ?_⟩
    simp [plan, hmodel, hpivoted, hcolumns, hc]
  · right
    have hnot : r.layout.columns = [] ∨ r.layout.values = [] := by
      simpa [Pivot.isPivoted, Classical.or_iff_not_imp_left] using hpivoted
    refine ⟨htables, hnot, ?_⟩
    unfold plan direct
    rw [if_neg hmodel, if_neg hpivoted]
    split
    · rfl
    · rfl

/-! ## Statements of a plan -/

/-- What a column of the result of a request is computed from: fields that the model lists and
measures of the layout. -/
inductive Shows (r : Request) : Expr → Prop where
  | field {c : Column} : r.model.Owns c → r.Shows (.column c)
  | measure {m : Measure} {c : Column} :
    m ∈ r.pivot.values → r.model.Owns c → r.Shows (.aggregate m.aggregation c)
  | pivoted {m : Measure} {pivot c : Column} {v : Value} :
    m ∈ r.pivot.values → r.model.Owns pivot → r.model.Owns c →
      r.Shows (.aggregateWhere m.aggregation pivot v c)
  | one : r.Shows .one

/-- What every statement of a plan has in common. -/
structure Poses (r : Request) (s : Statement) : Prop where
  source : s.source = r.source?
  outputs : ∀ o ∈ s.outputs, r.Shows o.expr
  filters : r.conditions <+: s.conditions
  conditions : ∀ c ∈ s.conditions, r.model.Owns c.column
  groups : ∀ c ∈ s.groups, r.model.Owns c

theorem owns_of_column? {f : String} {c : Column} (hf : r.model.hasField f = true)
    (hc : r.scope.column? f = some c) : r.model.Owns c := by
  obtain ⟨c', hc', _, howns⟩ := exists_column hf
  rw [hc, Option.some.injEq] at hc'
  exact hc' ▸ howns

theorem owns_of_mem_conditions {t : Condition} (h : t ∈ r.conditions) :
    r.model.Owns t.column := by
  obtain ⟨f, hf, ht⟩ := List.mem_filterMap.1 h
  have hfield : r.model.hasField f.field = true := (List.mem_filter.1 hf).2
  obtain ⟨c, hc, ht⟩ := Option.bind_eq_some_iff.1 ht
  have howns := owns_of_column? hfield hc
  cases hcomparison : f.comparison with
  | other name =>
    -- an unknown operator sets no condition
    simp [hcomparison] at ht
  | _ =>
    simp only [hcomparison, Option.some.injEq] at ht
    rw [← ht]
    exact howns

theorem owns_of_mem_rowGroups {c : Column} (h : c ∈ r.rowGroups) : r.model.Owns c := by
  obtain ⟨f, hf, hc⟩ := List.mem_filterMap.1 h
  exact owns_of_column? (hasField_of_mem_rows hf) hc

theorem shows_of_output? {f : String} {o : Output} (hf : r.model.hasField f = true)
    (ho : r.scope.output? f = some o) : r.Shows o.expr := by
  obtain ⟨c, hc, rfl⟩ := Option.map_eq_some_iff.1 ho
  exact .field (owns_of_column? hf hc)

theorem shows_of_mem_rowOutputs {o : Output} (h : o ∈ r.rowOutputs) : r.Shows o.expr := by
  obtain ⟨f, hf, ho⟩ := List.mem_filterMap.1 h
  exact shows_of_output? (hasField_of_mem_rows hf) ho

theorem shows_of_aggregate? {m : Measure} {o : Output} (hm : m ∈ r.layout.values)
    (ho : r.scope.aggregate? m = some o) : r.Shows o.expr := by
  obtain ⟨c, hc, rfl⟩ := Option.map_eq_some_iff.1 ho
  exact .measure (List.mem_filter.1 hm).1 (owns_of_column? (hasField_of_mem_values hm) hc)

theorem shows_of_mem_pivotOutputs {pivot : Column} {values : List Value} {o : Output}
    (hpivot : r.model.Owns pivot) (h : o ∈ r.pivotOutputs pivot values) : r.Shows o.expr := by
  obtain ⟨v, _, h⟩ := List.mem_flatMap.1 h
  obtain ⟨m, hm, ho⟩ := List.mem_filterMap.1 h
  obtain ⟨c, hc, rfl⟩ := Option.map_eq_some_iff.1 ho
  exact .pivoted (List.mem_filter.1 hm).1 hpivot (owns_of_column? (hasField_of_mem_values hm) hc)

theorem poses_statement {outputs : List Output} {groups : List Column}
    (houtputs : ∀ o ∈ outputs, r.Shows o.expr) (hgroups : ∀ c ∈ groups, r.model.Owns c) :
    r.Poses (r.statement outputs groups) where
  source := rfl
  outputs := houtputs
  filters := List.prefix_refl _
  conditions := fun _ h => owns_of_mem_conditions h
  groups := hgroups

theorem poses_statement? {outputs : List Output} {groups : List Column} {s : Statement}
    (houtputs : ∀ o ∈ outputs, r.Shows o.expr) (hgroups : ∀ c ∈ groups, r.model.Owns c)
    (hs : r.statement? outputs groups = some s) : r.Poses s := by
  unfold statement? at hs
  split at hs
  · cases hs
  · obtain rfl := Option.some.inj hs
    exact poses_statement houtputs hgroups

theorem poses_flat {s : Statement} (hs : r.flat = some s) : r.Poses s := by
  refine poses_statement? ?_ (by simp) hs
  intro o ho
  obtain ⟨f, hf, ho⟩ := List.mem_filterMap.1 ho
  exact shows_of_output? (mem_flatFields.1 hf).1 ho

theorem poses_grouped (r : Request) : r.Poses r.grouped := by
  refine poses_statement ?_ fun _ => owns_of_mem_rowGroups
  intro o ho
  split at ho
  · -- without rows and measures the number one is selected
    obtain rfl := List.mem_singleton.1 ho
    exact .one
  · rcases List.mem_append.1 ho with ho | ho
    · exact shows_of_mem_rowOutputs ho
    · obtain ⟨m, hm, ho⟩ := List.mem_filterMap.1 ho
      exact shows_of_aggregate? hm ho

theorem poses_direct {s : Statement} (hs : r.direct = some s) : r.Poses s := by
  unfold direct at hs
  split at hs
  · exact poses_flat hs
  · exact Option.some.inj hs ▸ poses_grouped r

theorem poses_pivoted {c : Column} {values : List Value} {s : Statement} (hc : r.model.Owns c)
    (hs : r.pivoted c values = some s) : r.Poses s := by
  refine poses_statement? ?_ (fun _ => owns_of_mem_rowGroups) hs
  intro o ho
  rcases List.mem_append.1 ho with ho | ho
  · exact shows_of_mem_rowOutputs ho
  · exact shows_of_mem_pivotOutputs hc ho

theorem poses_valueLookup {c : Column} (hc : r.model.Owns c) : r.Poses (r.valueLookup c) where
  source := rfl
  outputs := by
    intro o ho
    -- the lookup selects the pivot column alone
    obtain rfl := List.mem_singleton.1 ho
    exact .field hc
  filters := List.prefix_append _ _
  conditions := by
    intro t ht
    rcases List.mem_append.1 ht with ht | ht
    · exact owns_of_mem_conditions ht
    · obtain rfl := List.mem_singleton.1 ht
      exact hc
  groups := fun _ h => nomatch h

end Request

/-! ## Carrying out a plan -/

namespace Plan

/-- The query that a plan starts with. -/
def lookup? : Plan → Option Statement
  | .nothing | .statement _ => none
  | .lookup query _ _ => some query

/-- The statement that a plan ends in, once its query is answered with rows. -/
def answer? (rows : List Row) : Plan → Option Statement
  | .nothing => none
  | .statement s => some s
  | .lookup _ field finish => finish (pivotValues field rows)

variable {d : Dialect} {σ : Type} {store : Answering σ} {st : σ}

/-- A plan sends its query, if it has one, and nothing else. -/
theorem sent_compile (p : Plan) :
    (p.compile d).sent store st = p.lookup?.toList.map (·.render d) := by
  cases p with
  | nothing => rfl
  | statement s => rfl
  | lookup query field finish =>
    simp only [compile, Dialogue.sent, lookup?]
    split
    · rfl
    · rfl

/-- A plan without a query needs no store. -/
theorem run_compile_of_no_lookup {p : Plan} (h : p.lookup? = none) (rows : List Row) :
    (p.compile d).run store st = (.ok ((p.answer? rows).map (·.render d)), st) := by
  cases p with
  | nothing => rfl
  | statement s => rfl
  | lookup query field finish => cases h

/-- A plan with a query passes on the failure of the query. -/
theorem run_compile_of_error {p : Plan} {query : Statement} {e : StoreError} {st' : σ}
    (h : p.lookup? = some query) (hstore : store st (query.render d) = (.error e, st')) :
    (p.compile d).run store st = (.error e, st') := by
  cases p with
  | nothing => cases h
  | statement s => cases h
  | lookup query' field finish =>
    obtain rfl := Option.some.inj h
    simp only [compile, Dialogue.run, hstore]

/-- A plan with a query answers with the rows of the query. -/
theorem run_compile_of_rows {p : Plan} {query : Statement} {rows : List Row} {st' : σ}
    (h : p.lookup? = some query) (hstore : store st (query.render d) = (.ok rows, st')) :
    (p.compile d).run store st = (.ok ((p.answer? rows).map (·.render d)), st') := by
  cases p with
  | nothing => cases h
  | statement s => cases h
  | lookup query' field finish =>
    obtain rfl := Option.some.inj h
    simp only [compile, Dialogue.run, hstore, answer?]

/-- The text that comes out is that of the plan's answer to the rows of its query. -/
theorem answer?_of_run {p : Plan} {sql : String}
    (h : ((p.compile d).run store st).1 = .ok (some sql)) :
    ∃ rows s, p.answer? rows = some s ∧ s.render d = sql ∧
      ∀ query, p.lookup? = some query → (store st (query.render d)).1 = .ok rows := by
  cases hlookup : p.lookup? with
  | none =>
    rw [run_compile_of_no_lookup hlookup [], Except.ok.injEq] at h
    obtain ⟨s, hs, hsql⟩ := Option.map_eq_some_iff.1 h
    exact ⟨[], s, hs, hsql, fun query hquery => nomatch hquery⟩
  | some query =>
    -- there is no text unless the store has answered the query
    rcases hstore : store st (query.render d) with ⟨answer, st'⟩
    cases answer with
    | error e =>
      rw [run_compile_of_error hlookup hstore] at h
      cases h
    | ok rows =>
      rw [run_compile_of_rows hlookup hstore] at h
      obtain ⟨s, hs, hsql⟩ := Option.map_eq_some_iff.1 (Except.ok.inj h)
      refine ⟨rows, s, hs, hsql, ?_⟩
      intro query' hquery
      obtain rfl := Option.some.inj hquery
      rw [hstore]

end Plan

namespace Request

variable {r : Request}

theorem poses_of_lookup? {s : Statement} (h : r.plan.lookup? = some s) : r.Poses s := by
  rcases r.plan_cases with ⟨_, hplan⟩ | ⟨_, _, _, c, _, howns, hplan⟩ | ⟨_, _, hplan⟩
  · rw [hplan] at h
    cases h
  · rw [hplan] at h
    obtain rfl := Option.some.inj h
    exact poses_valueLookup howns
  · rw [hplan] at h
    cases hdirect : r.direct with
    | none => simp [hdirect, Plan.lookup?] at h
    | some s => simp [hdirect, Plan.lookup?] at h

theorem poses_of_answer? {rows : List Row} {s : Statement} (h : r.plan.answer? rows = some s) :
    r.Poses s := by
  rcases r.plan_cases with ⟨_, hplan⟩ | ⟨_, _, _, c, _, howns, hplan⟩ | ⟨_, _, hplan⟩
  · rw [hplan] at h
    cases h
  · rw [hplan] at h
    exact poses_pivoted howns h
  · rw [hplan] at h
    cases hdirect : r.direct with
    | none => simp [hdirect, Plan.answer?] at h
    | some t =>
      simp only [hdirect, Option.elim_some, Plan.answer?, Option.some.injEq] at h
      exact h ▸ poses_direct hdirect

end Request

end QueryLoom
