import Mathlib.Data.List.Forall2
import Mathlib.Data.List.ProdSigma
import QueryLoom.Proofs.Query.Planning

/-!
# What statements select

1. **One column for one entry**: `Request.Projects`, `Request.Groups`, `Request.Measures` and
   `Request.Spreads` say which column of a statement belongs to a row field, to a measure, and to a
   value and a measure.
2. **Nothing missing, repeated or moved**: the columns of a statement and the entries of the layout
   go together one by one, in order (`Request.projects_rowOutputs` and the lemmas after it).
3. **Clauses**: the text of a statement is its clauses with single spaces between
   (`Statement.tokens_eq`).
-/

namespace QueryLoom

open Sql

/-- Of a function that is defined on a list, the values go together with the items one by one. -/
theorem forall₂_filterMap {α β : Type} {R : α → β → Prop} {g : α → Option β} {xs : List α}
    (h : ∀ x ∈ xs, ∃ y, g x = some y ∧ R x y) : List.Forall₂ R xs (xs.filterMap g) := by
  induction xs with
  | nil => exact .nil
  | cons x xs ih =>
    obtain ⟨y, hy, hxy⟩ := h x List.mem_cons_self
    rw [List.filterMap_cons_some hy]
    exact .cons hxy (ih fun z hz => h z (List.mem_cons_of_mem _ hz))

namespace Request

variable {r : Request}

/-! ## One column for one entry -/

/-- Whether a column of the result shows a field, renamed to its title. -/
def Projects (r : Request) (f : String) (o : Output) : Prop :=
  ∃ c : Column, r.model.Owns c ∧ c.field = f ∧ o = ⟨.column c, some (r.scope.title c)⟩

/-- Whether a column that groups rows is that of a field. -/
def Groups (r : Request) (f : String) (c : Column) : Prop := r.model.Owns c ∧ c.field = f

/-- Whether a column of the result is a measure. -/
def Measures (r : Request) (m : Measure) (o : Output) : Prop :=
  ∃ c : Column, r.model.Owns c ∧ c.field = m.field ∧
    o = ⟨.aggregate m.aggregation c, some m.groupedLabel⟩

/-- Whether a column of the result is a measure over the rows in which the pivot column has a
value. -/
def Spreads (r : Request) (pivot : Column) (p : Value × Measure) (o : Output) : Prop :=
  ∃ c : Column, r.model.Owns c ∧ c.field = p.2.field ∧
    o = ⟨.aggregateWhere p.2.aggregation pivot p.1 c,
      some (p.1.display ++ " - " ++ p.2.pivotedLabel)⟩

/-! ## Nothing missing, repeated or moved -/

theorem projects_rowOutputs (r : Request) :
    List.Forall₂ r.Projects r.layout.rows r.rowOutputs := by
  apply forall₂_filterMap
  intro f hf
  obtain ⟨c, hc, hcf, howns⟩ := exists_column (hasField_of_mem_rows hf)
  exact ⟨_, by rw [Scope.output?, hc, Option.map_some], c, howns, hcf, rfl⟩

theorem groups_rowGroups (r : Request) : List.Forall₂ r.Groups r.layout.rows r.rowGroups := by
  apply forall₂_filterMap
  intro f hf
  obtain ⟨c, hc, hcf, howns⟩ := exists_column (hasField_of_mem_rows hf)
  exact ⟨c, hc, howns, hcf⟩

theorem measures_filterMap (r : Request) :
    List.Forall₂ r.Measures r.layout.values (r.layout.values.filterMap r.scope.aggregate?) := by
  apply forall₂_filterMap
  intro m hm
  obtain ⟨c, hc, hcf, howns⟩ := exists_column (hasField_of_mem_values hm)
  exact ⟨_, by rw [Scope.aggregate?, hc, Option.map_some], c, howns, hcf, rfl⟩

/-- The columns for the pairs of a value and a measure, all measures of the first value first. -/
theorem pivotOutputs_eq (r : Request) (pivot : Column) (values : List Value) :
    r.pivotOutputs pivot values =
      (values ×ˢ r.layout.values).filterMap fun p => r.scope.aggregateWhere? pivot p.1 p.2 := by
  induction values with
  | nil => rfl
  | cons v vs ih =>
    rw [List.product_cons, List.filterMap_append, List.filterMap_map, ← ih]
    rfl

theorem spreads_pivotOutputs (r : Request) (pivot : Column) (values : List Value) :
    List.Forall₂ (r.Spreads pivot) (values ×ˢ r.layout.values) (r.pivotOutputs pivot values) := by
  rw [pivotOutputs_eq]
  apply forall₂_filterMap
  rintro ⟨v, m⟩ hp
  obtain ⟨c, hc, hcf, howns⟩ := exists_column (hasField_of_mem_values (List.mem_product.1 hp).2)
  exact ⟨_, by rw [Scope.aggregateWhere?, hc, Option.map_some], c, howns, hcf, rfl⟩

/-- A column groups rows exactly if it is that of a row field. -/
theorem mem_rowGroups {c : Column} (hc : r.model.Owns c) :
    c ∈ r.rowGroups ↔ c.field ∈ r.layout.rows := by
  have hcolumn : r.scope.column? c.field = some c := by
    simp [Scope.column?, Scope.tableOf?, Request.scope, Model.owns_iff.1 hc]
  constructor
  · intro hmem
    obtain ⟨f, hf, hfc⟩ := List.mem_filterMap.1 hmem
    obtain ⟨table, -, rfl⟩ := Option.map_eq_some_iff.1 hfc
    exact hf
  · intro hmem
    exact List.mem_filterMap.2 ⟨c.field, hmem, hcolumn⟩

/-- Each column for rows renames the column that groups them. -/
theorem rowOutputs_rowGroups (r : Request) :
    List.Forall₂ (fun o c => o = ⟨.column c, some (r.scope.title c)⟩) r.rowOutputs r.rowGroups := by
  rw [rowOutputs, rowGroups]
  induction r.layout.rows with
  | nil => exact .nil
  | cons f fs ih =>
    simp only [Scope.output?, List.filterMap_cons]
    cases r.scope.column? f with
    | none => exact ih
    | some c => exact .cons rfl ih

theorem statement?_eq_some {outputs : List Output} {groups : List Column} {s : Statement} :
    r.statement? outputs groups = some s ↔ outputs ≠ [] ∧ s = r.statement outputs groups := by
  cases outputs with
  | nil => simp [statement?]
  | cons o os => simp [statement?, eq_comm]

end Request

/-! ## Clauses -/

namespace Sql

open Token

/-- A clause after a space, nothing if it is empty. -/
def Token.after (clause : List Token) : List Token :=
  if clause.isEmpty then [] else .space :: clause

/-- After a first part that is not empty, every part comes after a space. -/
theorem spaced_cons {p : List Token} (hp : p ≠ []) (ps : List (List Token)) :
    spaced (p :: ps) = p ++ ps.flatMap after := by
  induction ps generalizing p with
  | nil => simp [spaced, hp]
  | cons q ps ih =>
    cases q with
    | nil =>
      have hskip : spaced (p :: [] :: ps) = spaced (p :: ps) := by simp [spaced, hp]
      rw [hskip, ih hp]
      simp [after]
    | cons t ts =>
      have hfirst : spaced (p :: (t :: ts) :: ps) = p ++ .space :: spaced ((t :: ts) :: ps) := by
        simp [spaced, hp, List.intersperse_cons_cons]
      rw [hfirst, ih (List.cons_ne_nil t ts)]
      simp [after]

/-- The text of a statement without order and limit: its `SELECT`, `FROM`, `WHERE` and `GROUP BY`
clauses. -/
theorem Statement.tokens_eq {s : Statement} (hordered : s.ordered = false)
    (hlimit : s.limit = none) :
    s.tokens = s.selectTokens ++ after (Source.clause s.source) ++
      after (Condition.clause s.conditions) ++ after s.groupTokens := by
  have hselect : s.selectTokens ≠ [] := by simp [selectTokens]
  have horder : s.orderTokens = [] := by simp [orderTokens, hordered]
  have hlimit : s.limitTokens = [] := by simp [limitTokens, hlimit]
  rw [tokens, spaced_cons hselect, horder, hlimit]
  simp [after]

end Sql

end QueryLoom
