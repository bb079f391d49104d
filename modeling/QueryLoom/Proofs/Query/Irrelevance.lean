import QueryLoom.CommandLine.Performance
import QueryLoom.Proofs.Entries
import QueryLoom.Proofs.Query.Planning

/-!
# What compiling does not look at

1. **Requests that agree**: `Request.Agrees` relates two requests that differ only in references to
   fields that no selected table lists, and in their catalogues.
2. **Scopes**: for a listed field, what the scope of a request says does not involve the catalogue,
   so the scopes of such requests say the same.
3. **Plans**: part by part, requests that agree have the same plan (`Agrees.plan`).
4. **Main statement**: `compile_eq_of_agrees` compares what comes out of two such requests, what
   their stores are asked, and what the command line makes of them.
-/

namespace QueryLoom

open Sql

/-! ## Requests that agree -/

/-- Whether a selected table lists a field. -/
def Model.Lists (m : Model) (f : String) : Prop := ∃ t ∈ m.tables, f ∈ t.2

instance (m : Model) : DecidablePred m.Lists :=
  fun f => inferInstanceAs (Decidable (∃ t ∈ m.tables, f ∈ t.2))

theorem Model.hasField_eq (m : Model) : m.hasField = fun f => decide (m.Lists f) := by
  funext f
  rw [Bool.eq_iff_iff, Model.hasField_iff, decide_eq_true_iff]
  rfl

/-- Whether two requests are the same once every entry is removed that names a field which no
selected table lists. Their catalogues may differ. -/
structure Request.Agrees (r r' : Request) : Prop where
  model : r.model = r'.model
  joins : r.joins = r'.joins
  aliases : r.aliases.names.Same r'.aliases.names
  rows : r.pivot.rows.filter r.model.Lists = r'.pivot.rows.filter r.model.Lists
  columns : r.pivot.columns.filter r.model.Lists = r'.pivot.columns.filter r.model.Lists
  values : (r.pivot.values.filter fun v => r.model.Lists v.field) =
    r'.pivot.values.filter fun v => r.model.Lists v.field
  filters : (r.filters.filter fun f => r.model.Lists f.field) =
    r'.filters.filter fun f => r.model.Lists f.field
  /-- Both have an explicit selection, or neither has. -/
  selection : (r.selection.map fun fs => fs.filter r.model.Lists) =
    r'.selection.map fun fs => fs.filter r.model.Lists

namespace Request.Agrees

variable {r r' : Request}

theorem layout (h : r.Agrees r') : r.layout = r'.layout := by
  simp only [Request.layout, Pivot.restrict, ← h.model, Pivot.mk.injEq]
  simp only [Model.hasField_eq]
  exact ⟨h.rows, h.columns, h.values⟩

theorem restrict_filters (h : r.Agrees r') :
    Filter.restrict r.filters r.model = Filter.restrict r'.filters r'.model := by
  simp only [Filter.restrict, ← h.model, Model.hasField_eq]
  exact h.filters

theorem flatFields (h : r.Agrees r') : r.flatFields = r'.flatFields := by
  have hselection := h.selection
  unfold Request.flatFields
  rw [← h.model, Model.hasField_eq]
  cases hr : r.selection with
  | none =>
    cases hr' : r'.selection with
    | none => rfl
    | some fields' => simp [hr, hr'] at hselection
  | some fields =>
    cases hr' : r'.selection with
    | none => simp [hr, hr'] at hselection
    | some fields' =>
      rw [hr, hr', Option.map_some, Option.map_some, Option.some.injEq] at hselection
      exact congrArg distinct hselection

/-! ## Scopes -/

/-- A listed field names the same column, whatever the catalogues. -/
theorem column? (h : r.Agrees r') {f : String} (hf : r.model.hasField f = true) :
    r.scope.column? f = r'.scope.column? f := by
  obtain ⟨t, ht⟩ := Option.isSome_iff_exists.1 hf
  have ht' : r'.model.tableOf? f = some t := h.model ▸ ht
  simp [Scope.column?, Scope.tableOf?, Request.scope, ht, ht']

theorem title (h : r.Agrees r') (c : Column) : r.scope.title c = r'.scope.title c := by
  simp [Scope.title, Request.scope, Aliases.get?, h.aliases _]

theorem output? (h : r.Agrees r') {f : String} (hf : r.model.hasField f = true) :
    r.scope.output? f = r'.scope.output? f := by
  simp only [Scope.output?, h.column? hf, h.title]

theorem aggregate? (h : r.Agrees r') {m : Measure} (hm : r.model.hasField m.field = true) :
    r.scope.aggregate? m = r'.scope.aggregate? m := by
  simp only [Scope.aggregate?, h.column? hm]

theorem aggregateWhere? (h : r.Agrees r') {m : Measure} (hm : r.model.hasField m.field = true)
    (c : Column) (v : Value) : r.scope.aggregateWhere? c v m = r'.scope.aggregateWhere? c v m := by
  simp only [Scope.aggregateWhere?, h.column? hm]

theorem condition? (h : r.Agrees r') {f : Filter} (hf : r.model.hasField f.field = true) :
    r.scope.condition? f = r'.scope.condition? f := by
  simp only [Scope.condition?, h.column? hf]

/-! ## Plans -/

theorem conditions (h : r.Agrees r') : r.conditions = r'.conditions := by
  unfold Request.conditions Scope.conditions
  rw [← h.restrict_filters]
  exact List.filterMap_congr fun f hf => h.condition? (List.mem_filter.1 hf).2

theorem source? (h : r.Agrees r') : r.source? = r'.source? := by
  rw [Request.source?, Request.source?, h.model, h.joins]

theorem rowOutputs (h : r.Agrees r') : r.rowOutputs = r'.rowOutputs := by
  unfold Request.rowOutputs
  rw [← h.layout]
  exact List.filterMap_congr fun f hf => h.output? (hasField_of_mem_rows hf)

theorem rowGroups (h : r.Agrees r') : r.rowGroups = r'.rowGroups := by
  unfold Request.rowGroups
  rw [← h.layout]
  exact List.filterMap_congr fun f hf => h.column? (hasField_of_mem_rows hf)

theorem statement (h : r.Agrees r') : r.statement = r'.statement := by
  funext outputs groups
  rw [Request.statement, Request.statement, h.source?, h.conditions]

theorem statement? (h : r.Agrees r') : r.statement? = r'.statement? := by
  funext outputs groups
  rw [Request.statement?, Request.statement?, h.statement]

theorem flat (h : r.Agrees r') : r.flat = r'.flat := by
  have houtputs : r.flatFields.filterMap r.scope.output? =
      r.flatFields.filterMap r'.scope.output? :=
    List.filterMap_congr fun f hf => h.output? (mem_flatFields.1 hf).1
  rw [Request.flat, Request.flat, houtputs, h.flatFields, h.statement?]

theorem grouped (h : r.Agrees r') : r.grouped = r'.grouped := by
  have hmeasures : r.layout.values.filterMap r.scope.aggregate? =
      r.layout.values.filterMap r'.scope.aggregate? :=
    List.filterMap_congr fun m hm => h.aggregate? (hasField_of_mem_values hm)
  unfold Request.grouped
  rw [hmeasures, h.layout, h.rowOutputs, h.rowGroups, h.statement]

theorem valueLookup (h : r.Agrees r') : r.valueLookup = r'.valueLookup := by
  funext c
  rw [Request.valueLookup, Request.valueLookup, h.source?, h.conditions]

theorem pivotOutputs (h : r.Agrees r') : r.pivotOutputs = r'.pivotOutputs := by
  funext c values
  unfold Request.pivotOutputs
  rw [← h.layout]
  refine List.flatMap_congr fun v _ => ?_
  exact List.filterMap_congr fun m hm => h.aggregateWhere? (hasField_of_mem_values hm) c v

theorem pivoted (h : r.Agrees r') : r.pivoted = r'.pivoted := by
  funext c values
  rw [Request.pivoted, Request.pivoted, h.rowOutputs, h.pivotOutputs, h.rowGroups, h.statement?]

/-- The column that is pivoted is a listed one. -/
theorem pivotColumn? (h : r.Agrees r') :
    r.layout.columns.head?.bind r.scope.column? = r'.layout.columns.head?.bind r'.scope.column? := by
  rw [← h.layout]
  cases hcolumns : r.layout.columns with
  | nil => rfl
  | cons f fs =>
    have hf : f ∈ r.layout.columns := hcolumns ▸ List.mem_cons_self
    exact h.column? (hasField_of_mem_columns hf)

/-- Requests that agree are answered in the same way. -/
theorem plan (h : r.Agrees r') : r.plan = r'.plan := by
  unfold Request.plan
  rw [h.pivotColumn?, h.layout, h.model, h.flat, h.grouped, h.valueLookup, h.pivoted]

theorem compile (h : r.Agrees r') (d : Dialect) : r.compile d = r'.compile d := by
  rw [Request.compile, Request.compile, h.plan]

/-! ## Catalogues -/

/-- A request agrees with itself under another catalogue. -/
theorem of_catalog (r : Request) (catalog : List Listing) :
    r.Agrees { r with catalog := catalog } :=
  ⟨rfl, rfl, fun _ => rfl, rfl, rfl, rfl, rfl, rfl⟩

/-- With a database at hand the command line always finds a catalogue, and it puts nothing else
into a request. -/
theorem of_withCatalog (r : Request) (db : Database) :
    ∃ q, CommandLine.withCatalog r (.ok db) = .ok q ∧ r.Agrees q := by
  unfold CommandLine.withCatalog
  split
  · exact ⟨_, rfl, of_catalog r db.listings⟩
  · exact ⟨r, rfl, of_catalog r r.catalog⟩

/-- What the command line makes of a request hangs on what compiling makes of it. -/
theorem ending (h : r.Agrees r') (d : Dialect) (db : Database) (file : Option String)
    (execute : Bool) :
    CommandLine.compile ⟨.ok db, file⟩ r d execute =
      CommandLine.compile ⟨.ok db, file⟩ r' d execute := by
  obtain ⟨q, hq, hrq⟩ := of_withCatalog r db
  obtain ⟨q', hq', hrq'⟩ := of_withCatalog r' db
  have hcompile : q.compile d = q'.compile d := by
    rw [← hrq.compile d, h.compile d, hrq'.compile d]
  simp only [CommandLine.compile, hq, hq', hcompile]

end Request.Agrees

/-! ## Main statement -/

/-- References to fields that are not listed and the catalogue have no effect. Two requests that
agree once such references are removed come out the same and send the same queries, whatever the
store; and the command line ends in the same way for both, whether or not it had to look up the
catalogue. -/
theorem compile_eq_of_agrees (d : Dialect) {r r' : Request} (h : r.Agrees r') :
    (∀ (σ : Type) (store : Answering σ) (st : σ),
      (r.compile d).run store st = (r'.compile d).run store st ∧
        (r.compile d).sent store st = (r'.compile d).sent store st) ∧
    ∀ (db : Database) (file : Option String) (execute : Bool),
      CommandLine.compile ⟨.ok db, file⟩ r d execute =
        CommandLine.compile ⟨.ok db, file⟩ r' d execute := by
  constructor
  · intro σ store st
    rw [h.compile d]
    exact ⟨rfl, rfl⟩
  · exact h.ending d

/-- Each part of one request holds a reference that only the other's catalogue knows. -/
theorem compile_eq_of_agrees_stale :
    let r : Request :=
      { model := ⟨[("jobs", ["seniority", "total"])]⟩
        pivot :=
          { rows := ["salary", "seniority"], columns := ["salary"]
            values := [⟨"total", .sum, none⟩, ⟨"salary", .avg, none⟩] }
        filters := [⟨none, "salary", .equals, .integer 3⟩, ⟨none, "total", .lessThan, .integer 9⟩]
        aliases := ⟨[("jobs.total", "Total"), ("jobs.seniority", "Level")]⟩
        selection := some ["salary", "total"] }
    let r' : Request :=
      { model := ⟨[("jobs", ["seniority", "total"])]⟩
        pivot := { rows := ["seniority"], values := [⟨"total", .sum, none⟩] }
        filters := [⟨none, "total", .lessThan, .integer 9⟩]
        catalog := [⟨"pay", ["salary"]⟩]
        aliases := ⟨[("jobs.seniority", "Level"), ("jobs.total", "Total")]⟩
        selection := some ["total"] }
    r.Agrees r' ∧
      ∀ store : Answering Unit,
        (r.compile .sqlite).run store () = (r'.compile .sqlite).run store () := by
  intro r r'
  have hagrees : r.Agrees r' :=
    { model := rfl
      joins := rfl
      aliases := Entries.same_of_perm (List.Perm.swap _ _ _) (by decide)
      rows := rfl
      columns := rfl
      values := rfl
      filters := rfl
      selection := rfl }
  exact ⟨hagrees, fun store => ((compile_eq_of_agrees .sqlite hagrees).1 Unit store ()).1⟩

end QueryLoom
