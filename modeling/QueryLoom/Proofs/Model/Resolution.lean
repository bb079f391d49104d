import Mathlib.Data.List.Find
import QueryLoom.Proofs.Model.Growth
import QueryLoom.Query.Scope

/-!
# Which table a field belongs to when a model grows

A field belongs to the first table that lists it, so a field that is added to a table in front of
that one moves there.

1. **Places**: `Model.FoundAt` says which tables stand in front of a field and which one it belongs
   to.
2. **One extension**: a table in front that is extended by the field takes it over
   (`FoundAt.extend_of_mem`), every other extension leaves the field at its place
   (`FoundAt.extend_of_not`).
3. **Suggestions**: the first of the tables in front that suggestions extend by the field
   (`Model.firstExtended`) takes it over (`FoundAt.extendAll`).
4. **Main statement**: `Workspace.accept_resolves` says which table a field belongs to after
   suggestions are accepted, and when all that refers to it keeps its column.
-/

namespace QueryLoom

namespace Model

/-! ## Places -/

/-- Whether a field is found behind the tables `before`, in the table `t`. -/
inductive FoundAt (f : String) : Model → List String → String → Prop
  | here {t : String} {fields : List String} {es : Entries (List String)} :
    f ∈ fields → FoundAt f ⟨(t, fields) :: es⟩ [] t
  | later {u t : String} {fields before : List String} {es : Entries (List String)} :
    f ∉ fields → FoundAt f ⟨es⟩ before t → FoundAt f ⟨(u, fields) :: es⟩ (u :: before) t

/-- The tables in front of the first one that lists a field. -/
def tablesBefore (m : Model) (f : String) : List String :=
  Entries.keys (m.tables.takeWhile fun e => !e.2.contains f)

variable {m : Model} {f t table : String} {fields before : List String}

theorem foundAt_of_tableOf? (h : m.tableOf? f = some t) : FoundAt f m (m.tablesBefore f) t := by
  obtain ⟨es⟩ := m
  induction es with
  | nil => cases h
  | cons e es ih =>
    by_cases hlists : f ∈ e.2
    · have ht : e.1 = t := by simpa [tableOf?, hlists] using h
      have hbefore : tablesBefore ⟨e :: es⟩ f = [] := by simp [tablesBefore, hlists, Entries.keys]
      rw [hbefore, ← ht]
      exact .here hlists
    · have hrest : tableOf? ⟨es⟩ f = some t := by simpa [tableOf?, hlists] using h
      have hbefore : tablesBefore ⟨e :: es⟩ f = e.1 :: tablesBefore ⟨es⟩ f := by
        simp [tablesBefore, hlists, Entries.keys]
      rw [hbefore]
      exact .later hlists (ih hrest)

theorem FoundAt.tableOf?_eq (h : FoundAt f m before t) : m.tableOf? f = some t := by
  induction h with
  | here hlists => simp [tableOf?, hlists]
  | later hlists _ ih => simpa [tableOf?, hlists] using ih

/-! ## One extension -/

theorem extend_cons_self (e : String × List String) (es : Entries (List String))
    (fields : List String) :
    extend ⟨e :: es⟩ e.1 fields = ⟨(e.1, e.2 ++ distinctAfter e.2 fields) :: es⟩ := by
  simp [extend, insert, fields?, Entries.get?_cons, Entries.put]

theorem extend_cons_of_ne {e : String × List String} (h : e.1 ≠ table)
    (es : Entries (List String)) (fields : List String) :
    extend ⟨e :: es⟩ table fields = ⟨e :: (extend ⟨es⟩ table fields).tables⟩ := by
  simp [extend, insert, fields?, Entries.get?_cons, Entries.put, h]

namespace FoundAt

/-- A table in front that is extended by the field is the first one to list it from then on. -/
theorem extend_of_mem (h : FoundAt f m before t) (hbefore : table ∈ before) (hnew : f ∈ fields) :
    FoundAt f (m.extend table fields) (before.takeWhile (· ≠ table)) table := by
  induction h with
  | here => cases hbefore
  | @later u t old before es hlists _ ih =>
    by_cases htable : u = table
    · subst htable
      have hmem : f ∈ old ++ distinctAfter old fields :=
        List.mem_append_right _ (mem_distinctAfter.2 ⟨hnew, hlists⟩)
      rw [extend_cons_self (u, old), List.takeWhile_cons_of_neg (by simp)]
      exact .here hmem
    · have hrest : table ∈ before := (List.mem_cons.1 hbefore).resolve_left (Ne.symm htable)
      rw [extend_cons_of_ne htable, List.takeWhile_cons_of_pos (by simpa using htable)]
      exact .later hlists (ih hrest)

/-- A field stays at its place if the table that is extended does not stand in front, or if the
field is not among those added. -/
theorem extend_of_not (h : FoundAt f m before t) (hnot : ¬ (table ∈ before ∧ f ∈ fields)) :
    FoundAt f (m.extend table fields) before t := by
  induction h with
  | @here t old es hlists =>
    by_cases htable : t = table
    · subst htable
      rw [extend_cons_self (t, old)]
      exact .here (List.mem_append_left _ hlists)
    · rw [extend_cons_of_ne htable]
      exact .here hlists
  | @later u t old before es hlists hfound ih =>
    by_cases htable : u = table
    · -- a table in front, which does not get the field
      subst htable
      have hnew : f ∉ old ++ distinctAfter old fields := by
        rw [List.mem_append, mem_distinctAfter, not_or]
        exact ⟨hlists, fun h => hnot ⟨List.mem_cons_self, h.1⟩⟩
      rw [extend_cons_self (u, old)]
      exact .later hnew hfound
    · rw [extend_cons_of_ne htable]
      exact .later hlists (ih fun h => hnot ⟨List.mem_cons_of_mem _ h.1, h.2⟩)

end FoundAt

/-! ## Suggestions -/

/-- Of tables of which one is known to pass, the first to pass stands in front of it or is it. -/
theorem find?_getD_takeWhile {p q : String → Bool} {us : List String} {u d : String} (hu : u ∈ us)
    (hpass : p u = true) (hother : ∀ v, v ≠ u → p v = q v) :
    (us.find? p).getD d = ((us.takeWhile (· ≠ u)).find? q).getD u := by
  induction us with
  | nil => cases hu
  | cons v us ih =>
    by_cases hv : v = u
    · subst hv
      simp [hpass]
    · have hrest : u ∈ us := (List.mem_cons.1 hu).resolve_left (Ne.symm hv)
      rw [List.takeWhile_cons_of_pos (by simpa using hv), List.find?_cons, List.find?_cons,
        hother v hv]
      cases q v with
      | true => rfl
      | false => exact ih hrest

/-- The first of some tables that suggestions extend by a field. -/
def firstExtended (ss : List FieldSuggestion) (f : String) (us : List String) : Option String :=
  us.find? fun u => ∃ s ∈ ss, s.table = u ∧ f ∈ s.fields

variable {s : FieldSuggestion} {ss : List FieldSuggestion}

theorem firstExtended_eq_none (h : ∀ s ∈ ss, s.table ∉ before) :
    firstExtended ss f before = none := by
  rw [firstExtended, List.find?_eq_none]
  intro u hu hextends
  obtain ⟨s, hs, rfl, -⟩ := of_decide_eq_true hextends
  exact h s hs hu

/-- After a suggestion for one of the tables, only that one and those in front of it are left. -/
theorem firstExtended_cons_of_mem (hbefore : s.table ∈ before) (hnew : f ∈ s.fields) (d : String) :
    (firstExtended (s :: ss) f before).getD d =
      (firstExtended ss f (before.takeWhile (· ≠ s.table))).getD s.table := by
  refine find?_getD_takeWhile hbefore ?_ ?_
  · exact decide_eq_true ⟨s, List.mem_cons_self, rfl, hnew⟩
  · intro u hu
    simp [Ne.symm hu]

theorem firstExtended_cons_of_not (hnot : ¬ (s.table ∈ before ∧ f ∈ s.fields)) :
    firstExtended (s :: ss) f before = firstExtended ss f before := by
  apply List.find?_congr
  intro u hu
  have hmiss : ¬ (s.table = u ∧ f ∈ s.fields) := fun h => hnot ⟨h.1 ▸ hu, h.2⟩
  simp [hmiss]

/-- The first of the tables in front that suggestions extend by the field takes it over. -/
theorem FoundAt.extendAll (h : FoundAt f m before t) (ss : List FieldSuggestion) :
    ∃ before', FoundAt f (m.extendAll ss) before' ((firstExtended ss f before).getD t) := by
  induction ss generalizing m before t with
  | nil =>
    have hnone : firstExtended [] f before = none := firstExtended_eq_none nofun
    rw [hnone]
    exact ⟨before, h⟩
  | cons s ss ih =>
    rw [extendAll_cons]
    by_cases hs : s.table ∈ before ∧ f ∈ s.fields
    · -- from here on the field belongs to this table, or to one in front of it
      rw [firstExtended_cons_of_mem hs.1 hs.2]
      exact ih (h.extend_of_mem hs.1 hs.2)
    · rw [firstExtended_cons_of_not hs]
      exact ih (h.extend_of_not hs)

end Model

/-! ## Main statement -/

/-- Whether all that refers to a field by its name is about the same column in two scopes: rows and
selected fields, measures, measures of a pivot, and filters. -/
structure Scope.SameColumn (s s' : Scope) (f : String) : Prop where
  column? : s'.column? f = s.column? f
  output? : s'.output? f = s.output? f
  aggregate? : ∀ m : Measure, m.field = f → s'.aggregate? m = s.aggregate? m
  aggregateWhere? : ∀ (pivot : Sql.Column) (v : Value) (m : Measure), m.field = f →
    s'.aggregateWhere? pivot v m = s.aggregateWhere? pivot v m
  condition? : ∀ filter : Filter, filter.field = f → s'.condition? filter = s.condition? filter

theorem Scope.sameColumn_of_tableOf? {m m' : Model} {f t : String} (h : m.tableOf? f = some t)
    (h' : m'.tableOf? f = some t) (catalog : List Listing) (aliases : Aliases) :
    SameColumn ⟨m, catalog, aliases⟩ ⟨m', catalog, aliases⟩ f := by
  have hcolumn : column? ⟨m', catalog, aliases⟩ f = column? ⟨m, catalog, aliases⟩ f := by
    simp only [column?, tableOf?, h, h']
  refine ⟨hcolumn, ?_, ?_, ?_, ?_⟩
  · rw [output?, output?, hcolumn]
    rfl
  · rintro measure rfl
    rw [aggregate?, aggregate?, hcolumn]
  · rintro pivot v measure rfl
    rw [aggregateWhere?, aggregateWhere?, hcolumn]
  · rintro filter rfl
    rw [condition?, condition?, hcolumn]

/-- After suggestions are accepted, a field that was listed belongs to the first of the tables in
front of its own that some suggestion extends by the field, and if there is none it belongs to the
table that it belonged to before. So suggestions that name no table in front, but only tables that
are not selected yet, the field's own one and those after it, leave all that refers to the field
with the same column. -/
theorem Workspace.accept_resolves {w : Workspace} {f t : String} (h : w.model.tableOf? f = some t)
    (ss : List FieldSuggestion) (js : List Join) :
    let next := w.accept ss js
    let before := w.model.tablesBefore f
    next.model.tableOf? f = some ((Model.firstExtended ss f before).getD t) ∧
    ((∀ s ∈ ss, s.table ∉ before) → next.model.tableOf? f = some t ∧
      ∀ catalog aliases,
        Scope.SameColumn ⟨w.model, catalog, aliases⟩ ⟨next.model, catalog, aliases⟩ f) := by
  intro next before
  have hnext : next.model.tableOf? f = some ((Model.firstExtended ss f before).getD t) := by
    obtain ⟨_, hfound⟩ := (Model.foundAt_of_tableOf? h).extendAll ss
    exact hfound.tableOf?_eq
  refine ⟨hnext, ?_⟩
  intro hnamed
  rw [Model.firstExtended_eq_none hnamed, Option.getD_none] at hnext
  exact ⟨hnext, Scope.sameColumn_of_tableOf? h hnext⟩

/-- Suggestions that go back and forth between tables, two of them in front of the table of the
field: the one that is extended by the field takes it over. Suggestions for tables behind it and for
a new one, all with the field, do not. -/
theorem Workspace.accept_resolves_interleaved :
    let w : Workspace := { model := ⟨[("a", ["x"]), ("b", []), ("c", ["f"]), ("d", ["f", "y"])]⟩ }
    let moving : List FieldSuggestion :=
      [⟨"new", ["f"]⟩, ⟨"a", ["y"]⟩, ⟨"b", ["y"]⟩, ⟨"d", ["f"]⟩, ⟨"b", ["x", "f", "f"]⟩]
    let staying : List FieldSuggestion := [⟨"new", ["f"]⟩, ⟨"d", ["f"]⟩, ⟨"c", ["z", "f"]⟩]
    w.model.tableOf? "f" = some "c" ∧ (w.accept moving []).model.tableOf? "f" = some "b" ∧
      (∀ s ∈ staying, s.table ∉ w.model.tablesBefore "f") ∧
      Scope.SameColumn ⟨w.model, [], {}⟩ ⟨(w.accept staying []).model, [], {}⟩ "f" := by
  intro w moving staying
  have h : w.model.tableOf? "f" = some "c" := by decide
  have hnamed : ∀ s ∈ staying, s.table ∉ w.model.tablesBefore "f" := by decide
  refine ⟨h, ?_, hnamed, ((accept_resolves h staying []).2 hnamed).2 [] {}⟩
  rw [(accept_resolves h moving []).1]
  decide

end QueryLoom
