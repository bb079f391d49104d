import QueryLoom.Proofs.Entries
import QueryLoom.Proofs.Model.Growth

/-!
# Suggestions are merged

1. **Joins**: `Join.declare` puts the joins that are not declared yet at the end, each once, in the
   order in which they are first named (`Join.declare_eq`).
2. **Nothing new**: suggestions of what a model lists already leave it alone
   (`Model.extendAll_of_lists`), and after suggestions are taken in it lists all they name.
3. **Main statement**: `Workspace.accept_merges` describes the workspace after suggestions are
   accepted, once, twice, or in two parts.
-/

namespace QueryLoom

/-! ## Joins -/

theorem Join.declare_eq (joins js : List Join) :
    Join.declare joins js = joins ++ (js.filter (· ∉ joins)).eraseDups := by
  induction js generalizing joins with
  | nil => simp [Join.declare]
  | cons j js ih =>
    by_cases hj : j ∈ joins
    · rw [Join.declare, if_pos (List.contains_iff_mem.2 hj), ih,
        List.filter_cons_of_neg (by simpa using hj)]
    · have hseen : ∀ k, k ∈ joins ++ [j] ↔ k = j ∨ k ∈ joins := by simp [or_comm]
      rw [Join.declare, if_neg (fun h => hj (List.contains_iff_mem.1 h)), ih,
        eraseDups_filter_cons hj hseen, List.append_assoc, List.singleton_append]

/-- Declaring joins in two parts. -/
theorem Join.declare_append (joins js js' : List Join) :
    Join.declare joins (js ++ js') = Join.declare (Join.declare joins js) js' := by
  induction js generalizing joins with
  | nil => rfl
  | cons j js ih => exact ih _

/-- Joins that are declared are not declared again. -/
theorem Join.declare_of_subset {joins js : List Join} (h : js ⊆ joins) :
    Join.declare joins js = joins := by
  have hnone : js.filter (· ∉ joins) = [] := by
    rw [List.filter_eq_nil_iff]
    intro j hj
    simpa using h hj
  rw [Join.declare_eq, hnone, List.eraseDups_nil, List.append_nil]

theorem Join.subset_declare (joins js : List Join) : js ⊆ Join.declare joins js := by
  intro j hj
  rw [Join.declare_eq, List.mem_append, List.mem_eraseDups, List.mem_filter, decide_eq_true_iff]
  by_cases hold : j ∈ joins
  · exact Or.inl hold
  · exact Or.inr ⟨hj, hold⟩

/-! ## Nothing new -/

namespace Model

variable {m : Model}

/-- Whether a model lists all fields that are suggested. -/
def ListsAll (m : Model) (ss : List FieldSuggestion) : Prop :=
  ∀ s ∈ ss, ∃ fields, m.fields? s.table = some fields ∧ ∀ f ∈ s.fields, f ∈ fields

theorem extend_of_lists {table : String} {fields new : List String}
    (h : m.fields? table = some fields) (hnew : ∀ f ∈ new, f ∈ fields) : m.extend table new = m := by
  rw [extend, h, Option.getD_some, distinctAfter_eq_nil hnew, List.append_nil, insert,
    Entries.put_of_get? h]

theorem extendAll_of_lists {ss : List FieldSuggestion} (h : m.ListsAll ss) : m.extendAll ss = m := by
  induction ss with
  | nil => rfl
  | cons s ss ih =>
    rcases List.forall_mem_cons.1 h with ⟨⟨fields, hfields, hnew⟩, hrest⟩
    rw [extendAll_cons, extend_of_lists hfields hnew, ih hrest]

/-- A model lists the suggested fields once they are taken in. -/
theorem listsAll_extendAll (m : Model) (ss : List FieldSuggestion) :
    (m.extendAll ss).ListsAll ss := by
  intro s hs
  refine ⟨_, m.fields?_extendAll (List.mem_map_of_mem hs), ?_⟩
  intro f hf
  rw [List.mem_append, mem_distinctAfter]
  by_cases hold : f ∈ (m.fields? s.table).getD []
  · exact Or.inl hold
  · refine Or.inr ⟨List.mem_flatMap.2 ⟨s, ?_, hf⟩, hold⟩
    simpa using hs

end Model

/-! ## Main statement -/

/-- Accepting suggestions keeps all tables, fields and joins where they are and puts at the end what
is missing, each once, in the order in which the suggestions first name it: tables after the tables,
fields after the fields of their table, joins after the joins. To accept the same again changes
nothing, and suggestions can be accepted in two parts. -/
theorem Workspace.accept_merges (w : Workspace) (ss : List FieldSuggestion) (js : List Join) :
    let next := w.accept ss js
    next.model.tableNames =
      w.model.tableNames ++ ((ss.map (·.table)).filter (· ∉ w.model.tableNames)).eraseDups ∧
    (∀ t, next.model.fields? t =
      if t ∈ ss.map (·.table) then
        some ((w.model.fields? t).getD [] ++
          ((FieldSuggestion.offered ss t).filter (· ∉ (w.model.fields? t).getD [])).eraseDups)
      else w.model.fields? t) ∧
    next.joins = w.joins ++ (js.filter (· ∉ w.joins)).eraseDups ∧
    next.accept ss js = next ∧
    ∀ ss' js', next.accept ss' js' = w.accept (ss ++ ss') (js ++ js') := by
  have hgrows := w.model.growsInto_extendAll ss
  refine ⟨?_, ?_, Join.declare_eq w.joins js, ?_, ?_⟩
  · rw [← distinctAfter_eq]
    exact hgrows.tableNames_eq
  · intro t
    split
    · rename_i ht
      rw [← distinctAfter_eq]
      exact w.model.fields?_extendAll ht
    · rename_i ht
      exact hgrows.fields?_eq t ht
  · have hmodel := Model.extendAll_of_lists (w.model.listsAll_extendAll ss)
    have hjoins := Join.declare_of_subset (Join.subset_declare w.joins js)
    rw [accept, accept, hmodel, hjoins]
  · intro ss' js'
    rw [accept, accept, accept, Join.declare_append, Model.extendAll, Model.extendAll,
      Model.extendAll, List.foldl_append]

end QueryLoom
