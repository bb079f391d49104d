import QueryLoom.Proofs.Query.Irrelevance
import QueryLoom.Proofs.Query.Outcome
import QueryLoom.Proofs.Query.Outputs

/-!
# Flat selections

1. **Fields shown**: `Request.shown` are the fields of a flat selection, those chosen that the model
   lists, or all that it lists, with no field twice.
2. **Selecting them**: a request is answered as if just these fields were selected explicitly
   (`Request.compile_select_shown`).
3. **One column for one field**: the columns of the result go together with the fields shown one by
   one (`Request.projects_flat`), and without aliases they have different names.
4. **Main statement**: `compile_selection`.
-/

namespace QueryLoom

open Sql

/-! ## Fields shown -/

theorem Model.fieldNames_eq (m : Model) : m.fieldNames = (m.tables.flatMap (·.2)).eraseDups :=
  distinct_eq _

namespace Request

variable {r : Request}

/-- The fields that a flat selection shows: of those chosen the ones that the model lists, or else
all that it lists. Repeats after the first are left out. -/
def shown (r : Request) : List String :=
  match r.selection with
  | some fields => (fields.filter r.model.Lists).eraseDups
  | none => (r.model.tables.flatMap (·.2)).eraseDups

theorem flatFields_eq (r : Request) : r.flatFields = r.shown := by
  unfold flatFields shown
  cases r.selection with
  | none => exact r.model.fieldNames_eq
  | some fields =>
    show distinct (fields.filter r.model.hasField) = _
    rw [distinct_eq, Model.hasField_eq]

theorem nodup_shown (r : Request) : r.shown.Nodup := by
  rw [← flatFields_eq]
  unfold flatFields
  split
  · exact nodup_distinctAfter [] _
  · exact nodup_distinctAfter [] _

/-! ## Selecting them -/

/-- Of listed fields that are all different an explicit selection shows all. -/
theorem flatFields_of_nodup {fields : List String} (hnodup : fields.Nodup)
    (hlisted : ∀ f ∈ fields, r.model.hasField f = true) :
    ({ r with selection := some fields } : Request).flatFields = fields := by
  show distinct (fields.filter r.model.hasField) = fields
  rw [List.filter_eq_self.2 hlisted]
  exact distinct_of_nodup hnodup

/-- The selection has a say only through the fields that are shown. -/
theorem compile_of_flatFields {selection : Option (List String)}
    (h : ({ r with selection := selection } : Request).flatFields = r.flatFields) (d : Dialect) :
    ({ r with selection := selection } : Request).compile d = r.compile d := by
  have hflat : ({ r with selection := selection } : Request).flat = r.flat := by
    unfold flat
    rw [h]
    rfl
  have hplan : ({ r with selection := selection } : Request).plan = r.plan := by
    unfold plan
    rw [hflat]
    rfl
  rw [compile, compile, hplan]

/-- A request is answered as if the fields that it shows were selected explicitly. -/
theorem compile_select_shown (r : Request) (d : Dialect) :
    ({ r with selection := some r.shown } : Request).compile d = r.compile d := by
  apply compile_of_flatFields
  rw [flatFields_eq r]
  apply flatFields_of_nodup r.nodup_shown
  intro f hf
  rw [← flatFields_eq, mem_flatFields] at hf
  exact hf.1

/-! ## One column for one field -/

theorem projects_flat (r : Request) :
    List.Forall₂ r.Projects r.shown (r.shown.filterMap r.scope.output?) := by
  apply forall₂_filterMap
  intro f hf
  rw [← flatFields_eq, mem_flatFields] at hf
  obtain ⟨c, hc, hcf, howns⟩ := exists_column hf.1
  exact ⟨_, by rw [Scope.output?, hc, Option.map_some], c, howns, hcf, rfl⟩

/-- Without aliases each column is named after its field. -/
theorem names_of_projects {fields : List String} {outputs : List Output}
    (h : List.Forall₂ r.Projects fields outputs) (haliases : ∀ t f, r.aliases.get? t f = none) :
    outputs.map (·.name) = fields.map some := by
  induction h with
  | nil => rfl
  | cons hfirst _ ih =>
    obtain ⟨c, -, rfl, rfl⟩ := hfirst
    simp [ih, Scope.title, scope, haliases]

/-- The text of a flat statement: its `SELECT` list, `FROM` clause and `WHERE` clause. -/
theorem render_flat (d : Dialect) (outputs : List Output) :
    (r.statement outputs []).render d = Token.render d
      ([.word "SELECT", .space] ++ Token.commaSeparated (outputs.map Output.tokens)
        ++ Token.after (Source.clause r.source?) ++ Token.after (Condition.clause r.conditions)) := by
  rw [Statement.render, Statement.tokens_eq rfl rfl]
  simp [statement, Statement.selectTokens, Statement.groupTokens, Token.after]

/-- With an empty layout the flat statement is the plan, if there is one. -/
theorem plan_of_empty (h : r.layout.rows = [] ∧ r.layout.columns = [] ∧ r.layout.values = []) :
    r.plan = r.flat.elim .nothing .statement := by
  rcases r.plan_cases with ⟨htables, hplan⟩ | ⟨_, hcolumns, _⟩ | ⟨_, _, hplan⟩
  · have hnone : r.flat = none := by
      rw [flat_eq_none, List.eq_nil_iff_forall_not_mem]
      intro f hf
      obtain ⟨t, ht, _⟩ := Model.hasField_iff.1 (mem_flatFields.1 hf).1
      rw [htables] at ht
      cases ht
    rw [hplan, hnone]
    rfl
  · exact absurd h.2.1 hcolumns
  · have hempty : r.layout.isEmpty = true := by simp [Pivot.isEmpty, h]
    rw [hplan, direct, if_pos hempty]

end Request

/-! ## Main statement -/

/-- A request is answered as if the fields that it shows were selected explicitly: with no selection
these are all that the model lists, with one those chosen that the model lists, no field twice. With
an empty layout the result has exactly one column for each field shown, in this order, from the
first table that lists the field; there is no result if no field is shown. Without aliases no two
columns have the same name. -/
theorem compile_selection (d : Dialect) (r : Request) :
    (r.selection = none → r.shown = r.model.fieldNames) ∧
    (∀ (σ : Type) (store : Answering σ) (st : σ),
      let r' : Request := { r with selection := some r.shown }
      (r.compile d).run store st = (r'.compile d).run store st ∧
        (r.compile d).sent store st = (r'.compile d).sent store st) ∧
    (r.layout.rows = [] ∧ r.layout.columns = [] ∧ r.layout.values = [] →
      ∃ result, (∀ (σ : Type) (store : Answering σ) (st : σ),
          (r.compile d).run store st = (.ok result, st)) ∧
        (result = none ↔ r.shown = []) ∧
        ∀ sql, result = some sql → ∃ outputs,
          sql = Token.render d
            ([.word "SELECT", .space] ++ Token.commaSeparated (outputs.map Output.tokens)
              ++ Token.after (Source.clause r.source?)
              ++ Token.after (Condition.clause r.conditions)) ∧
          List.Forall₂ r.Projects r.shown outputs ∧
          ((∀ t f, r.aliases.get? t f = none) → (outputs.map (·.name)).Nodup)) := by
  refine ⟨?_, ?_, ?_⟩
  · intro hnone
    rw [Model.fieldNames_eq, Request.shown, hnone]
  · intro σ store st r'
    rw [r.compile_select_shown d]
    exact ⟨rfl, rfl⟩
  · intro hempty
    have hplan := Request.plan_of_empty hempty
    have hlookup : r.plan.lookup? = none := by
      rw [hplan]
      cases r.flat <;> rfl
    have hanswer : r.plan.answer? [] = r.flat := by
      rw [hplan]
      cases r.flat <;> rfl
    refine ⟨_, fun σ store st => (Request.compile_of_no_lookup hlookup).2, ?_, ?_⟩
    · rw [hanswer, Option.map_eq_none_iff, Request.flat_eq_none, Request.flatFields_eq]
    · intro sql hsql
      rw [hanswer] at hsql
      obtain ⟨s, hs, rfl⟩ := Option.map_eq_some_iff.1 hsql
      obtain ⟨-, rfl⟩ := Request.statement?_eq_some.1 hs
      rw [Request.flatFields_eq]
      refine ⟨_, Request.render_flat d _, r.projects_flat, ?_⟩
      intro haliases
      rw [Request.names_of_projects r.projects_flat haliases]
      exact List.pairwise_map.2 (r.nodup_shown.imp fun hne heq => hne (Option.some.inj heq))

/-- A field that two tables list, one that a table lists twice, one chosen twice and one that no
table lists. -/
theorem compile_selection_repeated :
    let r : Request :=
      { model := ⟨[("jobs", ["id", "title", "id"]), ("sources", ["id", "name"])]⟩
        pivot := { rows := ["salary"] }
        selection := some ["name", "id", "salary", "name", "title", "id"] }
    (r.layout.rows = [] ∧ r.layout.columns = [] ∧ r.layout.values = []) ∧
      r.shown = ["name", "id", "title"] ∧
      ∃ outputs, (outputs.map (·.name)).Nodup ∧
        List.Forall₂ r.Projects ["name", "id", "title"] outputs := by
  intro r
  have hempty : r.layout.rows = [] ∧ r.layout.columns = [] ∧ r.layout.values = [] := by decide
  have hshown : r.shown = ["name", "id", "title"] := by decide
  obtain ⟨result, -, hnone, htext⟩ := (compile_selection .sqlite r).2.2 hempty
  cases result with
  | none =>
    rw [hshown] at hnone
    cases hnone.1 rfl
  | some sql =>
    obtain ⟨outputs, -, hprojects, hnames⟩ := htext sql rfl
    rw [hshown] at hprojects
    exact ⟨hempty, hshown, outputs, hnames fun _ _ => rfl, hprojects⟩

end QueryLoom
