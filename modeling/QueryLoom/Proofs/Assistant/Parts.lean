import QueryLoom.Assistant.Action
import QueryLoom.Proofs.Json.Tagged
import QueryLoom.Proofs.Request.Parts

/-!
# Actions come back from their encodings

1. No object inside the encoding of an action has a key twice (`Action.settled`), and its numbers
   and brackets can be read (`Action.fits`).
2. `Action.IsRead` is what an action has that was decoded (`Action.ensures_isRead`). Such an action
   is decoded again from its encoding (`Action.decodes`) if no filter in it compares with a real
   number.
-/

namespace QueryLoom

open Json

/-! ## Parts shared with requests -/

theorem JoinKey.settled (k : JoinKey) : Settled k.toJson :=
  settled_object (by simp [Entries.keys]) (by simp)

theorem Join.settled (j : Join) : Settled j.toJson :=
  settled_object (by simp [Entries.keys]) (by simp [j.key.settled])

theorem Measure.settled (m : Measure) : Settled m.toJson := by
  rw [toJson]
  cases m.displayName <;>
    exact settled_object (by simp [Entries.keys, optionalMember]) (by simp [optionalMember])

theorem Pivot.settled (p : Pivot) : Settled p.toJson :=
  settled_object (by simp [Entries.keys]) (by simp [settled_list Measure.settled])

theorem Value.settled (v : Value) : Settled v.toJson := by
  cases v <;> rfl

theorem Filter.settled (f : Filter) : Settled f.toJson := by
  rw [toJson]
  cases f.id <;>
    exact settled_object (by simp [Entries.keys, optionalMember])
      (by simp [optionalMember, f.value.settled])

theorem Model.settled {m : Model} (h : m.IsRead) : Settled m.toJson := by
  have hkeys : (Entries.keys (m.tables.map fun t => (t.1, texts t.2))).Nodup := by
    rw [Entries.keys, List.map_map]
    exact h
  exact settled_object hkeys (List.forall_mem_map.2 fun t _ => settled_texts t.2)

/-! ## Pivot patches -/

namespace PivotPatch

/-- A patch that was read. -/
def IsRead (p : PivotPatch) : Prop := ∀ ms ∈ p.values, ∀ m ∈ ms, m.aggregation.IsRead

theorem settled (p : PivotPatch) : Settled p.toJson := by
  rw [toJson]
  cases p.rows <;> cases p.columns <;> cases p.values <;>
    exact settled_object (by simp [Entries.keys, optionalMember])
      (by simp [optionalMember, settled_list Measure.settled])

theorem fits (p : PivotPatch) (n : Nat) : Fits (n + 3) p.toJson := by
  rw [toJson]
  cases p.rows <;> cases p.columns <;> cases p.values <;>
    simp [optionalMember, Measure.fits, -Prod.forall]

theorem decodes {p : PivotPatch} (h : p.IsRead) : Decodes record.decoder p.toJson p := by
  have hfills : Fills record.fields record.blank
      (optionalMember "rows" (p.rows.map .texts) ++ (optionalMember "columns" (p.columns.map .texts)
        ++ optionalMember "values" (p.values.map fun xs => .array (xs.map Measure.toJson)))) p := by
    refine .optional (fun xs _ => (decodes_strings xs).optional nofun) rfl <|
      .optional (fun xs _ => (decodes_strings xs).optional nofun) rfl ?_
    rw [← List.append_nil (optionalMember "values" _)]
    exact .optional
      (fun ms hms => (Decodes.list fun m hm => Measure.decodes (h ms hms m hm)).optional nofun)
      rfl .nil
  rw [toJson, List.append_assoc]
  exact hfills.decodes (by decide)

theorem ensures_isRead : Ensures record.decoder IsRead := by
  refine .record ?_ nofun
  intro f hf
  simp only [record, List.mem_cons, List.not_mem_nil, or_false] at hf
  rcases hf with rfl | rfl | rfl
  · exact Field.keeps_set fun _ _ h => h
  · exact Field.keeps_set fun _ _ h => h
  · exact Field.keeps_of Measure.ensures_isRead.list.optional fun _ _ h _ => h

end PivotPatch

/-! ## Proposals -/

namespace AnalysisProposal

/-- A proposed analysis that was read. -/
structure IsRead (p : AnalysisProposal) : Prop where
  measures : ∀ m ∈ p.pivot.values, m.aggregation.IsRead
  filters : ∀ f ∈ p.filters, f.comparison.IsRead

theorem settled (p : AnalysisProposal) : Settled p.toJson :=
  settled_object (by simp [Entries.keys])
    (by simp [p.pivot.settled, settled_list Filter.settled])

theorem fits {p : AnalysisProposal} (h : ∀ f ∈ p.filters, ∀ x, f.value ≠ .real x) (n : Nat) :
    Fits (n + 4) p.toJson := by
  have hfilters : Fits (n + 3) (.array (p.filters.map Filter.toJson)) :=
    fits_array_iff.2 (List.forall_mem_map.2 fun f hf => Filter.fits (h f hf) (n + 1))
  exact fits_object_iff.2 (by simp [p.pivot.fits n, hfilters, -fits_array_iff])

theorem decodes {p : AnalysisProposal} (h : p.IsRead)
    (hexact : ∀ f ∈ p.filters, ∀ x, f.value ≠ .real x) : Decodes record.decoder p.toJson p := by
  have hfills : Fills record.fields record.blank
      [("pivotConfig", p.pivot.toJson), ("filters", .array (p.filters.map Filter.toJson))] p :=
    .member (Pivot.decodes h.measures) <|
      .member (Decodes.list fun f hf => Filter.decodes (h.filters f hf) (hexact f hf)) .nil
  exact hfills.decodes (by decide)

theorem ensures_isRead : Ensures record.decoder IsRead := by
  refine .record ?_ ⟨nofun, nofun⟩
  intro f hf
  simp only [record, List.mem_cons, List.not_mem_nil, or_false] at hf
  rcases hf with rfl | rfl
  · exact Field.keeps_of Pivot.ensures_isRead fun _ _ hx h => { h with measures := hx }
  · exact Field.keeps_of Filter.ensures_isRead.list fun _ _ hx h => { h with filters := hx }

end AnalysisProposal

namespace ModelProposal

theorem settled {p : ModelProposal} (h : p.model.IsRead) : Settled p.toJson :=
  settled_object (by simp [Entries.keys])
    (by simp [Model.settled h, settled_list Join.settled])

theorem fits (p : ModelProposal) (n : Nat) : Fits (n + 4) p.toJson :=
  fits_object_iff.2 (by simp [p.model.fits (n + 1), Join.fits])

theorem decodes {p : ModelProposal} (h : p.model.IsRead) : Decodes record.decoder p.toJson p := by
  have hfills : Fills record.fields record.blank
      [("modelConfiguration", p.model.toJson), ("joins", .array (p.joins.map Join.toJson))] p :=
    .member (Model.decodes h) <| .member (Decodes.list fun j _ => j.decodes) .nil
  exact hfills.decodes (by decide)

theorem ensures_isRead : Ensures record.decoder fun p => p.model.IsRead := by
  refine .record ?_ List.nodup_nil
  intro f hf
  simp only [record, List.mem_cons, List.not_mem_nil, or_false] at hf
  rcases hf with rfl | rfl
  · exact Field.keeps_of Model.ensures_isRead fun _ _ h _ => h
  · exact Field.keeps_set fun _ _ h => h

end ModelProposal

namespace FieldSuggestion

theorem settled (s : FieldSuggestion) : Settled s.toJson :=
  settled_object (by simp [Entries.keys]) (by simp)

theorem fits (s : FieldSuggestion) (n : Nat) : Fits (n + 2) s.toJson := by
  simp [toJson]

theorem decodes (s : FieldSuggestion) : Decodes record.decoder s.toJson s := by
  have hfills : Fills record.fields record.blank
      [("table", .text s.table), ("fields", .texts s.fields)] s :=
    .member (decodes_string _) (.member (decodes_strings _) .nil)
  exact hfills.decodes (by decide)

end FieldSuggestion

/-! ## Actions -/

namespace Action

/-- The filters that an action brings in. -/
def filters : Action → List Filter
  | .filter f => [f]
  | .proposeAnalysis p => p.filters
  | _ => []

/-- Whether all filters compare with other values than real numbers. -/
def IsExact (a : Action) : Prop := ∀ f ∈ a.filters, ∀ x, f.value ≠ .real x

/-- An action that was read. -/
def IsRead : Action → Prop
  | .pivot patch => patch.IsRead
  | .filter f => f.comparison.IsRead
  | .proposeAnalysis p => p.IsRead
  | .proposeModel p => p.model.IsRead
  | _ => True

theorem nodup_keys (a : Action) : (Entries.keys (("action", .text a.tag) :: a.members)).Nodup := by
  cases a with
  | suggest s => cases hreason : s.reason <;> simp [Entries.keys, members, hreason, optionalMember]
  | _ => simp [Entries.keys, members]

theorem settled {a : Action} (h : a.IsRead) : Settled a.toJson := by
  refine settled_object a.nodup_keys (List.forall_mem_cons.2 ⟨settled_text _, ?_⟩)
  cases a with
  | pivot patch => simp [members, patch.settled]
  | filter f => simp [members, f.settled]
  | query sql => simp [members]
  | proposeAnalysis p => simp [members, p.settled]
  | proposeModel p => simp [members, ModelProposal.settled h]
  | suggest s =>
    cases hreason : s.reason <;>
      simp [members, hreason, optionalMember, settled_list FieldSuggestion.settled,
        settled_list Join.settled]

theorem fits {a : Action} (h : a.IsExact) : Fits 5 a.toJson := by
  refine fits_object_iff.2 (List.forall_mem_cons.2 ⟨.text, ?_⟩)
  cases a with
  | pivot patch => simp [members, patch.fits 1]
  | filter f => simp [members, Filter.fits (h f List.mem_cons_self) 3]
  | query sql => simp [members]
  | proposeAnalysis p => simp [members, p.fits h 0]
  | proposeModel p => simp [members, p.fits 0]
  | suggest s =>
    cases hreason : s.reason <;>
      simp [members, hreason, optionalMember, FieldSuggestion.fits, Join.fits, -Prod.forall]

theorem decodes {a : Action} (hread : a.IsRead) (hexact : a.IsExact) :
    Decodes decoder a.toJson a := by
  have htag : tagged.tag ∉ Entries.keys a.members := (List.nodup_cons.1 a.nodup_keys).1
  cases a with
  | pivot patch =>
    exact Tagged.decodes rfl htag (by decide) (.member (PivotPatch.decodes hread) .nil)
  | filter f =>
    have hvalue := hexact f List.mem_cons_self
    exact Tagged.decodes rfl htag (by decide) (.member (Filter.decodes hread hvalue) .nil)
  | query sql => exact Tagged.decodes rfl htag (by decide) (.member (decodes_string sql) .nil)
  | proposeAnalysis p =>
    exact Tagged.decodes rfl htag (by decide)
      (.member (AnalysisProposal.decodes hread hexact) .nil)
  | proposeModel p =>
    exact Tagged.decodes rfl htag (by decide) (.member (ModelProposal.decodes hread) .nil)
  | suggest s =>
    refine Tagged.decodes rfl htag (by decide) (.member (Decodes.list fun f _ => f.decodes) <|
      .member (Decodes.list fun j _ => j.decodes) ?_)
    rw [← List.append_nil (optionalMember "reason" _)]
    exact .optional (fun r _ => (decodes_string r).optional nofun) rfl .nil

theorem isRead_mapSuggestions {a : Action} (h : a.IsRead) (f : Suggestions → Suggestions) :
    (a.mapSuggestions f).IsRead := by
  cases a <;> exact h

/-- Every field of every kind of action keeps the action read. -/
theorem keeps_isRead : ∀ c ∈ tagged.choices, ∀ f ∈ c.2.fields, f.Keeps IsRead := by
  have hsuggest {β : Type} (name : String) (presence : Presence) (dec : Decoder β)
      (set : Suggestions → β → Suggestions) :
      (Field.of name presence dec fun a x => a.mapSuggestions fun s => set s x).Keeps IsRead :=
    Field.keeps_set fun _ _ h => isRead_mapSuggestions h _
  simp only [tagged, List.forall_mem_cons]
  refine ⟨?pivot, ?filter, ?query, ?analysis, ?model, ?suggest, nofun⟩
  case pivot =>
    exact List.forall_mem_singleton.2 (Field.keeps_of PivotPatch.ensures_isRead fun _ _ h _ => h)
  case filter =>
    exact List.forall_mem_singleton.2 (Field.keeps_of Filter.ensures_isRead fun _ _ h _ => h)
  case query =>
    exact List.forall_mem_singleton.2 (Field.keeps_set fun _ _ _ => trivial)
  case analysis =>
    exact List.forall_mem_singleton.2
      (Field.keeps_of AnalysisProposal.ensures_isRead fun _ _ h _ => h)
  case model =>
    exact List.forall_mem_singleton.2 (Field.keeps_of ModelProposal.ensures_isRead fun _ _ h _ => h)
  case suggest =>
    exact List.forall_mem_cons.2 ⟨hsuggest _ _ _ _, List.forall_mem_cons.2 ⟨hsuggest _ _ _ _,
      List.forall_mem_singleton.2 (hsuggest _ _ _ _)⟩⟩

theorem ensures_isRead : Ensures decoder IsRead := by
  refine .tagged ?_ keeps_isRead
  have hfilter : Comparison.ofName Comparison.equals.name = .equals := by decide
  intro c hc
  simp only [tagged, List.mem_cons, List.not_mem_nil, or_false] at hc
  rcases hc with rfl | rfl | rfl | rfl | rfl | rfl
  · exact (nofun : PivotPatch.IsRead {})
  · exact hfilter
  · trivial
  · exact (⟨nofun, nofun⟩ : AnalysisProposal.IsRead {})
  · exact List.nodup_nil
  · trivial

end Action

end QueryLoom
