import QueryLoom.Proofs.Query.Naming
import QueryLoom.Query.Preview

/-!
# Rows of a preview

A preview shows every field of every table, names shared by tables included. A row of its result is
read under the names that its columns are reported with, so a cell takes the place of an earlier one
with the same name.

1. **Reading**: `Output.heading?` is the name of a column of the result, `Statement.readRow?` the
   row that is read under these names.
2. **Names**: without aliases the names of a preview are the bare names of the fields
   (`Request.headings_preview`). They are distinct exactly if no two tables list the same field
   (`Model.nodup_fields_iff`).
3. **Main statement**: `Request.preview_reads` says which cells such a row has and when it has one
   for each field shown.
-/

namespace QueryLoom

open Sql

/-! ## Reading -/

namespace Sql

/-- The name under which a column of the result is reported: the one it is given or, for a plain
column, the bare name of the field. -/
def Output.heading? (o : Output) : Option String :=
  match o.name, o.expr with
  | some name, _ => some name
  | none, .column c => some c.field
  | none, _ => none

/-- The row that is read from the values of a result, each value set under the name of its
column. -/
def Statement.readRow? (s : Statement) (values : List Value) : Option Row :=
  (s.outputs.mapM Output.heading?).map fun names => Row.ofList (names.zip values)

end Sql

/-! ## Names -/

namespace Model

variable {m : Model}

/-- Whether no two tables list the same field. -/
def FieldsApart (m : Model) : Prop := m.tables.Pairwise fun t u => t.2.Disjoint u.2

theorem nodup_fields_iff (h : ∀ t ∈ m.tables, t.2.Nodup) :
    (m.columns.map (·.2)).Nodup ↔ m.FieldsApart := by
  have hfields : m.columns.map (·.2) = m.tables.flatMap (·.2) := by
    simp [columns, List.map_flatMap, Function.comp_def]
  rw [hfields, List.nodup_flatMap]
  exact and_iff_right h

end Model

namespace Request

variable {r : Request} {s : Statement} {values : List Value}

theorem headings_preview (haliases : ∀ t f, r.aliases.get? t f = none) :
    r.previewOutputs.mapM Output.heading? = some (r.model.columns.map (·.2)) := by
  have hheading (c : String × String) : (r.previewOutput c).heading? = some c.2 := by
    simp [previewOutput, Output.heading?, haliases]
  rw [previewOutputs]
  induction r.model.columns with
  | nil => rfl
  | cons c cs ih => simp [hheading, ih]

/-- A preview that shows a field is read under the names of the fields. -/
theorem readRow?_preview (hs : r.preview? = some s) (haliases : ∀ t f, r.aliases.get? t f = none)
    (hcolumns : r.model.columns ≠ []) :
    s.readRow? values = some (Row.ofList ((r.model.columns.map (·.2)).zip values)) := by
  obtain ⟨source, -, rfl⟩ := Option.map_eq_some_iff.1 hs
  have hsome : r.previewOutputs.isEmpty = false := by simpa [previewOutputs] using hcolumns
  simp only [Statement.readRow?, hsome, if_neg Bool.false_ne_true, headings_preview haliases]
  rfl

/-- All columns of the tables are not read under names that the model knows. -/
theorem readRow?_preview_of_nil (hs : r.preview? = some s) (hcolumns : r.model.columns = []) :
    s.readRow? values = none := by
  obtain ⟨source, -, rfl⟩ := Option.map_eq_some_iff.1 hs
  have hnone : r.previewOutputs.isEmpty = true := by simp [previewOutputs, hcolumns]
  simp [Statement.readRow?, hnone, Output.heading?]

/-! ## Main statement -/

/-- A row of a preview without aliases has one cell for each name of a field, in the order in which
the names are shown first, with the value that is shown last under that name. If no table lists a
field twice, it has as many cells as there are fields shown exactly if no two tables list the same
field, and then the value of every field shown can be read from it. -/
theorem preview_reads (hs : r.preview? = some s) (haliases : ∀ t f, r.aliases.get? t f = none)
    (hfields : ∀ t ∈ r.model.tables, t.2.Nodup) {values : List Value}
    (hvalues : values.length = r.model.columns.length) :
    let shown := r.model.columns
    (shown ≠ [] → ∃ row, s.readRow? values = some row) ∧
    ∀ row, s.readRow? values = some row →
      row.columns = (shown.map (·.2)).eraseDups ∧
      (∀ f, row.get? f = Entries.get? ((shown.map (·.2)).zip values).reverse f) ∧
      (row.cells.length = shown.length ↔ r.model.FieldsApart) ∧
      (r.model.FieldsApart → ∀ p ∈ shown.zip values, row.get? p.1.2 = some p.2) := by
  intro shown
  refine ⟨fun hshown => ⟨_, readRow?_preview hs haliases hshown⟩, ?_⟩
  intro row hrow
  have hshown : shown ≠ [] := by
    intro hnone
    rw [readRow?_preview_of_nil hs hnone] at hrow
    cases hrow
  rw [readRow?_preview hs haliases hshown] at hrow
  obtain rfl := Option.some.inj hrow
  have hlength : values.length = (shown.map (·.2)).length := by rw [hvalues, List.length_map]
  have hkeys : Entries.keys ((shown.map (·.2)).zip values) = shown.map (·.2) := by
    rw [Entries.keys, List.map_fst_zip (Nat.le_of_eq hlength.symm)]
  obtain ⟨-, horder, hlast⟩ := Entries.collects_ofList ((shown.map (·.2)).zip values)
  rw [hkeys] at horder
  refine ⟨horder, hlast, ?count, ?values⟩
  case count =>
    have hpairs : ((shown.map (·.2)).zip values).length = shown.length := by simp [hvalues, shown]
    rw [← Model.nodup_fields_iff hfields, ← hpairs, Row.ofList, Entries.length_ofList_eq_iff, hkeys]
  case values =>
    intro hapart p hp
    have hkeeps := Row.keeps_iff.2 ((Model.nodup_fields_iff hfields).2 hapart)
    have hmem : (p.1.2, p.2) ∈ (shown.map (·.2)).zip values := by
      rw [List.zip_map_left]
      exact List.mem_map.2 ⟨p, hp, rfl⟩
    exact hkeeps [] values hlength _ hmem

/-- Tables without shared names, and tables with one: of two cells under one name the later one is
left, at the place of the earlier one. -/
theorem preview_reads_shared :
    let apart : Request := { model := ⟨[("jobs", ["title", "code"]), ("sources", ["name"])]⟩ }
    let shared : Request :=
      { model := ⟨[("jobs", ["code", "title"]), ("sources", ["name", "code"])]⟩ }
    (∃ s row, apart.preview? = some s ∧
      s.readRow? [.text "Clerk", .integer 7, .text "Board"] = some row ∧
      row.cells.length = 3 ∧ row.get? "code" = some (.integer 7)) ∧
    ∃ s row, shared.preview? = some s ∧
      s.readRow? [.integer 7, .text "Clerk", .text "Board", .null] = some row ∧
      row.columns = ["code", "title", "name"] ∧ row.get? "code" = some .null ∧
      row.cells.length ≠ 4 := by
  intro apart shared
  constructor
  · obtain ⟨s, hs⟩ : ∃ s, apart.preview? = some s := ⟨_, rfl⟩
    let values : List Value := [.text "Clerk", .integer 7, .text "Board"]
    have hvalues : values.length = apart.model.columns.length := rfl
    obtain ⟨hread, hrows⟩ := preview_reads hs (fun _ _ => rfl) (by decide) hvalues
    obtain ⟨row, hrow⟩ := hread (by decide)
    obtain ⟨-, -, hcount, hcells⟩ := hrows row hrow
    have hapart : apart.model.FieldsApart := by simp [Model.FieldsApart, apart]
    exact ⟨s, row, hs, hrow, hcount.2 hapart,
      hcells hapart (("jobs", "code"), .integer 7) (by simp [apart, values, Model.columns])⟩
  · obtain ⟨s, hs⟩ : ∃ s, shared.preview? = some s := ⟨_, rfl⟩
    let values : List Value := [.integer 7, .text "Clerk", .text "Board", .null]
    have hvalues : values.length = shared.model.columns.length := rfl
    obtain ⟨hread, hrows⟩ := preview_reads hs (fun _ _ => rfl) (by decide) hvalues
    obtain ⟨row, hrow⟩ := hread (by decide)
    obtain ⟨hcolumns, hlast, hcount, -⟩ := hrows row hrow
    have hshared : ¬ shared.model.FieldsApart := by simp [Model.FieldsApart, shared]
    exact ⟨s, row, hs, hrow, hcolumns, hlast "code", mt hcount.1 hshared⟩

/-- Without aliases and without a table that lists a field twice, a preview can show more fields
than a row of its result has cells. -/
theorem not_preview_reads_all :
    ¬ ∀ (r : Request) (s : Statement) (values : List Value) (row : Row), r.preview? = some s →
      (∀ t f, r.aliases.get? t f = none) → (∀ t ∈ r.model.tables, t.2.Nodup) →
        values.length = r.model.columns.length → s.readRow? values = some row →
          row.cells.length = r.model.columns.length ∧
            ∀ p ∈ r.model.columns.zip values, row.get? p.1.2 = some p.2 := by
  intro hall
  let r : Request := { model := ⟨[("t", ["id"]), ("T", ["id"])]⟩ }
  have hcells := hall r _ [.integer 1, .integer 1] _ rfl (fun _ _ => rfl) (by decide) rfl rfl
  exact absurd hcells.1 (by decide)

end Request

end QueryLoom
