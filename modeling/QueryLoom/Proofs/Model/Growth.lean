import QueryLoom.Assistant.Suggestion
import QueryLoom.Proofs.Json.Decoding
import QueryLoom.Proofs.Model.Distinct

/-!
# Models only grow at their end

1. **Edits**: `Workspace.Edit` is one change of a workspace: a table is selected anew, a table is
   extended, or suggestions are accepted.
2. **One edit**: `Model.GrowsInto` says that the selected tables stay where they are, that missing
   ones come after them, and that only the tables named get other fields. Every edit does that
   (`Workspace.growsInto_edit`).
3. **Fields**: extending a table puts the fields it lacks after those it lists, each once
   (`Model.fields?_extendAll`).
4. **Runs**: `Workspace.run_keeps_tables` goes through any number of edits.
-/

namespace QueryLoom

/-! ## Edits -/

namespace Workspace

/-- One change of a workspace. -/
inductive Edit where
  | insert (table : String) (fields : List String)
  | extend (table : String) (fields : List String)
  | accept (suggestions : List FieldSuggestion) (joins : List Join)
deriving DecidableEq, Repr

/-- Makes a change. -/
def edit (w : Workspace) : Edit → Workspace
  | .insert table fields => { w with model := w.model.insert table fields }
  | .extend table fields => { w with model := w.model.extend table fields }
  | .accept suggestions joins => w.accept suggestions joins

/-- Makes changes one after the other. -/
def run (w : Workspace) (edits : List Edit) : Workspace := edits.foldl edit w

end Workspace

/-- The fields that suggestions offer a table. -/
def FieldSuggestion.offered (suggestions : List FieldSuggestion) (table : String) : List String :=
  (suggestions.filter (·.table = table)).flatMap (·.fields)

namespace Workspace.Edit

/-- The tables that a change names. -/
def tables : Edit → List String
  | .insert table _ | .extend table _ => [table]
  | .accept suggestions _ => suggestions.map (·.table)

/-- The fields that a change offers a table that it extends. A table selected anew is not
extended: its fields are replaced. -/
def offers? : Edit → String → Option (List String)
  | .insert _ _, _ => none
  | .extend table fields, t => if t = table then some fields else none
  | .accept suggestions _, t =>
    if t ∈ suggestions.map (·.table) then some (FieldSuggestion.offered suggestions t) else none

end Workspace.Edit

/-! ## One edit -/

namespace Model

/-- Whether a model becomes another one when the given tables are named: what is selected stays
where it is, the tables that are missing come after it in the order in which they are named, and all
tables that are not named keep their fields. -/
structure GrowsInto (m m' : Model) (named : List String) : Prop where
  tableNames_eq : m'.tableNames = m.tableNames ++ distinctAfter m.tableNames named
  fields?_eq : ∀ t, t ∉ named → m'.fields? t = m.fields? t

variable {m m' m'' : Model} {named named' : List String}

@[simp] theorem fields?_insert_self (m : Model) (table : String) (fields : List String) :
    (m.insert table fields).fields? table = some fields :=
  Entries.get?_put_self m.tables table fields

theorem fields?_insert_of_ne {t table : String} (h : t ≠ table) (fields : List String) :
    (m.insert table fields).fields? t = m.fields? t :=
  Entries.get?_put_of_ne m.tables fields h

theorem growsInto_insert (m : Model) (table : String) (fields : List String) :
    m.GrowsInto (m.insert table fields) [table] where
  tableNames_eq := by
    have hkeys : (m.insert table fields).tableNames =
        if table ∈ m.tableNames then m.tableNames else m.tableNames ++ [table] :=
      Entries.keys_put m.tables table fields
    rw [hkeys]
    by_cases h : table ∈ m.tableNames <;> simp [distinctAfter, h]
  fields?_eq := by
    intro t ht
    exact fields?_insert_of_ne (fun h => ht (List.mem_singleton.2 h)) fields

theorem growsInto_extend (m : Model) (table : String) (fields : List String) :
    m.GrowsInto (m.extend table fields) [table] :=
  m.growsInto_insert table _

namespace GrowsInto

theorem refl (m : Model) : m.GrowsInto m [] := ⟨by simp [distinctAfter], fun _ _ => rfl⟩

/-- One growth after another. -/
theorem trans (h : m.GrowsInto m' named) (h' : m'.GrowsInto m'' named') :
    m.GrowsInto m'' (named ++ named') where
  tableNames_eq := by
    rw [h'.tableNames_eq, h.tableNames_eq, distinctAfter_append, List.append_assoc]
  fields?_eq := by
    intro t ht
    rw [List.mem_append, not_or] at ht
    rw [h'.fields?_eq t ht.2, h.fields?_eq t ht.1]

theorem nodup (h : m.GrowsInto m' named) (hm : m.tableNames.Nodup) : m'.tableNames.Nodup := by
  rw [h.tableNames_eq]
  exact nodup_append_distinctAfter hm named

/-- The base table of a model that has one stays its base table. -/
theorem base? (h : m.GrowsInto m' named) {base : String} (hbase : m.base? = some base) :
    m'.base? = some base := by
  rw [Model.base?] at hbase ⊢
  rw [h.tableNames_eq, List.head?_append, hbase]
  rfl

theorem isPrefix (h : m.GrowsInto m' named) : m.tableNames <+: m'.tableNames := by
  rw [h.tableNames_eq]
  exact List.prefix_append _ _

end GrowsInto

theorem extendAll_cons (m : Model) (s : FieldSuggestion) (ss : List FieldSuggestion) :
    m.extendAll (s :: ss) = (m.extend s.table s.fields).extendAll ss := rfl

theorem growsInto_extendAll (m : Model) (ss : List FieldSuggestion) :
    m.GrowsInto (m.extendAll ss) (ss.map (·.table)) := by
  induction ss generalizing m with
  | nil => exact .refl m
  | cons s ss ih =>
    rw [extendAll_cons]
    exact (m.growsInto_extend s.table s.fields).trans (ih _)

/-! ## Fields -/

/-- A table that suggestions name lists, after the fields it had, those offered that it lacked. -/
theorem fields?_extendAll (m : Model) {ss : List FieldSuggestion} {t : String}
    (ht : t ∈ ss.map (·.table)) :
    (m.extendAll ss).fields? t =
      some ((m.fields? t).getD [] ++
        distinctAfter ((m.fields? t).getD []) (FieldSuggestion.offered ss t)) := by
  induction ss generalizing m with
  | nil => exact absurd ht List.not_mem_nil
  | cons s ss ih =>
    rw [extendAll_cons]
    by_cases hs : s.table = t
    · -- the first suggestion is for this table, and others may follow
      subst hs
      have hoffered : FieldSuggestion.offered (s :: ss) s.table =
          s.fields ++ FieldSuggestion.offered ss s.table := by
        simp [FieldSuggestion.offered]
      have hfields : (m.extend s.table s.fields).fields? s.table =
          some ((m.fields? s.table).getD [] ++
            distinctAfter ((m.fields? s.table).getD []) s.fields) :=
        fields?_insert_self m _ _
      rw [hoffered, distinctAfter_append]
      by_cases hrest : s.table ∈ ss.map (·.table)
      · rw [ih _ hrest, hfields, Option.getD_some, List.append_assoc]
      · have hnone : FieldSuggestion.offered ss s.table = [] := by
          have hfilter : ss.filter (·.table = s.table) = [] := by
            rw [List.filter_eq_nil_iff]
            intro x hx hxs
            exact hrest (List.mem_map.2 ⟨x, hx, by simpa using hxs⟩)
          rw [FieldSuggestion.offered, hfilter, List.flatMap_nil]
        rw [(growsInto_extendAll _ ss).fields?_eq _ hrest, hfields, hnone]
        simp [distinctAfter]
    · -- the first suggestion is for another table
      have hrest : t ∈ ss.map (·.table) := by
        rcases List.mem_cons.1 ht with h | h
        · exact absurd h.symm hs
        · exact h
      have hoffered : FieldSuggestion.offered (s :: ss) t = FieldSuggestion.offered ss t := by
        simp [FieldSuggestion.offered, hs]
      have hfields : (m.extend s.table s.fields).fields? t = m.fields? t :=
        fields?_insert_of_ne (fun h => hs h.symm) _
      rw [ih _ hrest, hfields, hoffered]

end Model

namespace Workspace

variable {w : Workspace}

/-- What an edit does to the tables. -/
theorem growsInto_edit (w : Workspace) (e : Edit) : w.model.GrowsInto (w.edit e).model e.tables := by
  cases e with
  | insert table fields => exact w.model.growsInto_insert table fields
  | extend table fields => exact w.model.growsInto_extend table fields
  | accept suggestions joins => exact w.model.growsInto_extendAll suggestions

/-- What an edit does to the fields of a table that it extends. -/
theorem fields?_edit {e : Edit} {t : String} {offered : List String} (h : e.offers? t = some offered) :
    (w.edit e).model.fields? t =
      some ((w.model.fields? t).getD [] ++ distinctAfter ((w.model.fields? t).getD []) offered) := by
  cases e with
  | insert table fields => cases h
  | extend table fields =>
    simp only [Edit.offers?] at h
    split at h
    · rename_i ht
      cases h
      subst ht
      exact Model.fields?_insert_self w.model _ _
    · cases h
  | accept suggestions joins =>
    simp only [Edit.offers?] at h
    split at h
    · rename_i ht
      cases h
      exact w.model.fields?_extendAll ht
    · cases h

/-! ## Runs -/

theorem growsInto_run (w : Workspace) (edits : List Edit) :
    w.model.GrowsInto (w.run edits).model (edits.flatMap (·.tables)) := by
  induction edits generalizing w with
  | nil => exact .refl w.model
  | cons e edits ih =>
    rw [List.flatMap_cons]
    exact (w.growsInto_edit e).trans (ih (w.edit e))

/-- From no table, or from a model that was decoded, any number of changes lead to a model in which
no table is selected twice. Whatever is selected by then stays at its place under one more change,
missing tables come after it, tables that are not named keep their fields, and the base table stays
the base table. A table that is extended keeps its fields as they stand; of the fields offered those
that it lacked come after them, each once. -/
theorem run_keeps_tables (h : w.model = {} ∨ ∃ d, Model.decoder d = .ok w.model)
    (edits : List Edit) :
    let now := w.run edits
    (now.model.tableNames.Nodup ∧ w.model.tableNames <+: now.model.tableNames ∧
      ∀ base, w.model.base? = some base → now.model.base? = some base) ∧
    ∀ e : Edit,
      let next := now.edit e
      now.model.GrowsInto next.model e.tables ∧ next.model.tableNames.Nodup ∧
        (∀ base, now.model.base? = some base → next.model.base? = some base) ∧
        ∀ t offered, e.offers? t = some offered →
          let old := (now.model.fields? t).getD []
          ∃ added, next.model.fields? t = some (old ++ added) ∧ added.Nodup ∧
            (∀ f, f ∈ added ↔ f ∈ offered ∧ f ∉ old) ∧ (old.Nodup → (old ++ added).Nodup) := by
  intro now
  have hstart : w.model.tableNames.Nodup := by
    rcases h with hempty | ⟨d, hd⟩
    · rw [hempty]
      exact List.nodup_nil
    · -- a decoded model has taken its tables in one by one
      obtain ⟨tables, htables, hmodel⟩ := Json.ok_of_map hd
      rw [← hmodel]
      exact Json.Ensures.entries d tables htables
  have hrun := w.growsInto_run edits
  have hnow : now.model.tableNames.Nodup := hrun.nodup hstart
  refine ⟨⟨hnow, hrun.isPrefix, fun base hbase => hrun.base? hbase⟩, ?_⟩
  intro e next
  have hstep := now.growsInto_edit e
  refine ⟨hstep, hstep.nodup hnow, fun base hbase => hstep.base? hbase, ?_⟩
  intro t offered hoffered old
  refine ⟨distinctAfter old offered, fields?_edit hoffered, nodup_distinctAfter old offered, ?_, ?_⟩
  · intro f
    exact mem_distinctAfter
  · intro hold
    exact nodup_append_distinctAfter hold offered

/-- A table given twice in JSON, suggestions that name a table twice, and a table that lists a field
twice. -/
theorem run_keeps_tables_repeated :
    let w : Workspace := { model := ⟨[("b", ["z", "z"]), ("a", [])]⟩ }
    let edits : List Edit :=
      [.extend "c" [], .accept [⟨"a", ["f", "f"]⟩, ⟨"d", ["g"]⟩, ⟨"a", ["h", "f"]⟩] []]
    let now := w.run edits
    let next := now.edit (.extend "b" ["k", "z", "k"])
    (Model.decoder (Json.object
        [("b", .texts ["x"]), ("a", .texts []), ("b", .texts ["z", "z"])]).toDraft = .ok w.model ∧
      Edit.offers? (.extend "b" ["k", "z", "k"]) "b" = some ["k", "z", "k"]) ∧
    now.model.tables = [("b", ["z", "z"]), ("a", ["f", "h"]), ("c", []), ("d", ["g"])] ∧
    now.model.tableNames.Nodup ∧ now.model.GrowsInto next.model ["b"] ∧
    ∃ added, next.model.fields? "b" = some (["z", "z"] ++ added) ∧ added.Nodup ∧
      ∀ f, f ∈ added ↔ f ∈ ["k", "z", "k"] ∧ f ∉ ["z", "z"] := by
  intro w edits now next
  have hdecoded : Model.decoder (Json.object
      [("b", .texts ["x"]), ("a", .texts []), ("b", .texts ["z", "z"])]).toDraft = .ok w.model := rfl
  have hoffers : Edit.offers? (.extend "b" ["k", "z", "k"]) "b" = some ["k", "z", "k"] := rfl
  obtain ⟨⟨hnodup, -, -⟩, hstep⟩ := run_keeps_tables (Or.inr ⟨_, hdecoded⟩) edits
  obtain ⟨hgrows, -, -, hfields⟩ := hstep (.extend "b" ["k", "z", "k"])
  obtain ⟨added, hadded, hdistinct, hmem, -⟩ := hfields "b" _ hoffers
  exact ⟨⟨hdecoded, hoffers⟩, by decide, hnodup, hgrows, added, hadded, hdistinct, hmem⟩

end Workspace

end QueryLoom
