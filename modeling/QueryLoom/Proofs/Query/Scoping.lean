import QueryLoom.Proofs.Query.Planning
import QueryLoom.Proofs.Query.Walk
import QueryLoom.Proofs.Sql.Parts

/-!
# Columns are in scope

1. **Columns of a text**: `Statement.references` are the columns that stand in the `SELECT`, `WHERE`
   and `GROUP BY` clauses of a statement's text. Whatever a request poses refers to columns of the
   model only (`Request.owns_of_mem_references`).
2. **Tables of a text**: every table of a source stands behind `FROM` or `JOIN` in its clause
   (`Source.introduces`), and a model whose tables are all connected has all of them in its source.
3. **Main statement**: `compile_wellScoped` puts the two together for every text that compiling
   gives or sends.
-/

namespace QueryLoom

open Sql

/-! ## Columns of a text -/

/-- The columns in the text of a statement, those of its `FROM` clause left out. -/
def Sql.Statement.references (s : Statement) : List Column :=
  qualified s.selectTokens ++ qualified (Condition.clause s.conditions) ++ qualified s.groupTokens

/-- All columns in the text of a statement are its references or stand in its `FROM` clause. -/
theorem Sql.Statement.mem_qualified_tokens {s : Statement} {c : Column} :
    c ∈ qualified s.tokens ↔ c ∈ s.references ∨ c ∈ qualified (Source.clause s.source) := by
  rw [partwise_qualified.clauses]
  simp only [Statement.references, List.mem_append]
  constructor
  · rintro (((h | h) | h) | h)
    · exact Or.inl (Or.inl (Or.inl h))
    · exact Or.inr h
    · exact Or.inl (Or.inl (Or.inr h))
    · exact Or.inl (Or.inr h)
  · rintro (((h | h) | h) | h)
    · exact Or.inl (Or.inl (Or.inl h))
    · exact Or.inl (Or.inr h)
    · exact Or.inr h
    · exact Or.inl (Or.inl (Or.inr h))

theorem Sql.qualified_condition (t : Condition) : t.parts.flatMap qualified = [t.column] := by
  cases t <;> simp [Condition.parts, Condition.column]

namespace Request

variable {r : Request} {s : Statement}

theorem owns_of_shows {e : Expr} (he : r.Shows e) {c : Column}
    (hc : c ∈ e.parts.flatMap qualified) : r.model.Owns c := by
  cases he with
  | field howns =>
    obtain rfl : c = _ := by simpa [Expr.parts] using hc
    exact howns
  | measure _ howns =>
    obtain rfl : c = _ := by simpa [Expr.parts] using hc
    exact howns
  | @pivoted m pivot measure v _ hpivot howns =>
    have hc : c = pivot ∨ c = measure := by simpa [Expr.parts] using hc
    rcases hc with rfl | rfl
    · exact hpivot
    · exact howns
  | one => cases hc

/-- A statement that a request poses refers to columns of the model only. -/
theorem owns_of_mem_references (hs : r.Poses s) {c : Column} (hc : c ∈ s.references) :
    r.model.Owns c := by
  simp only [Statement.references, partwise_qualified.outputs, partwise_qualified.conditions,
    partwise_qualified.groups, List.mem_append, List.flatMap_assoc] at hc
  rcases hc with (hc | hc) | hc
  · obtain ⟨o, ho, hc⟩ := List.mem_flatMap.1 hc
    have hc : c ∈ o.expr.parts.flatMap qualified := by
      -- the name of a column of the result is no column
      rcases o with ⟨e, _ | n⟩
      · simpa [Output.parts] using hc
      · simpa [Output.parts] using hc
    exact owns_of_shows (hs.outputs o ho) hc
  · obtain ⟨t, ht, hc⟩ := List.mem_flatMap.1 hc
    rw [qualified_condition, List.mem_singleton] at hc
    exact hc ▸ hs.conditions t ht
  · have hc : c ∈ s.groups := by simpa [List.flatMap_map] using hc
    exact hs.groups c hc

end Request

/-! ## Tables of a text -/

/-- Whether a table stands behind `FROM` or `JOIN` in a list of tokens. -/
def Sql.Introduces (ts : List Token) (table : String) : Prop :=
  ∃ w, (w = "FROM" ∨ w = "JOIN") ∧ [.word w, .space, .name table] <:+: ts

/-- The clause of a source brings in each of its tables. -/
theorem Sql.Source.introduces {s : Source} {table : String} (h : table ∈ s.tables) :
    Introduces (Source.clause (some s)) table := by
  have hpart : ∀ p ∈ [.word "FROM", .space, .name s.base] :: s.links.map Link.tokens,
      p <:+: Source.clause (some s) := by
    intro p hp
    exact infix_spaced hp
  rcases List.mem_cons.1 h with rfl | h
  · exact ⟨"FROM", Or.inl rfl, hpart _ List.mem_cons_self⟩
  · obtain ⟨l, hl, rfl⟩ := List.mem_map.1 h
    have hlink := hpart l.tokens (List.mem_cons_of_mem _ (List.mem_map_of_mem hl))
    refine ⟨"JOIN", Or.inr rfl, List.IsInfix.trans ?_ hlink⟩
    refine ⟨[.word l.kind.keyword, .space], [.space, .word "ON", .space] ++ l.left.tokens
      ++ [.space, .symbol '=', .space] ++ l.right.tokens, ?_⟩
    simp [Link.tokens]

theorem Model.mem_tableNames_of_owns {m : Model} {c : Column} (h : m.Owns c) :
    c.table ∈ m.tableNames := by
  obtain ⟨pre, fields, post, htables, _, _⟩ := h
  simp [Model.tableNames, Entries.keys, htables]

/-- Whether declared joins between selected tables lead from the base table to all of them. -/
def Model.AllConnected (m : Model) (js : List Join) : Prop :=
  ∀ base, m.base? = some base → ∀ t ∈ m.tableNames, m.Connected js base t

/-- The source of a model whose tables are all connected brings in all of them. -/
theorem Model.introduces_of_allConnected {m : Model} {js : List Join} (h : m.AllConnected js)
    {t : String} (ht : t ∈ m.tableNames) : Introduces (Source.clause (Source.of? m js)) t := by
  cases hbase : m.base? with
  | none =>
    -- without a base table there is no table at all
    have hnil : m.tableNames = [] := List.head?_eq_none_iff.1 hbase
    rw [hnil] at ht
    cases ht
  | some base =>
    have hreached : t ∈ m.reached js := (Model.mem_reached_iff hbase).2 (h base hbase t ht)
    have hsource := Source.of?_eq js hbase
    rw [hsource]
    apply Source.introduces
    rwa [Source.tables_of? hsource]

/-! ## Main statement -/

/-- Whether the columns in the text of a statement, outside of its `FROM` clause, are columns of the
model, and those tables are in its `FROM` clause if all selected tables are connected. -/
structure Request.WellScoped (r : Request) (s : Statement) : Prop where
  owns : ∀ c ∈ s.references, r.model.Owns c
  introduces : r.model.AllConnected r.joins →
    ∀ c ∈ s.references, Introduces (Source.clause s.source) c.table

theorem Request.wellScoped_of_poses {r : Request} {s : Statement} (hs : r.Poses s) :
    r.WellScoped s where
  owns := fun _ hc => owns_of_mem_references hs hc
  introduces := by
    intro hconnected c hc
    rw [hs.source]
    exact Model.introduces_of_allConnected hconnected
      (Model.mem_tableNames_of_owns (owns_of_mem_references hs hc))

/-- The SQL that compiling gives and the query it sends are texts of well-scoped statements: their
columns name the first table that lists the field, and where all selected tables are connected to
the base table, the same text brings these tables in. -/
theorem compile_wellScoped (d : Dialect) (r : Request) {σ : Type} (store : Answering σ) (st : σ) :
    (∀ sql, ((r.compile d).run store st).1 = .ok (some sql) →
      ∃ rows s, r.plan.answer? rows = some s ∧ s.render d = sql ∧
        (∀ query, r.plan.lookup? = some query → (store st (query.render d)).1 = .ok rows) ∧
        r.WellScoped s) ∧
    ∀ query ∈ (r.compile d).sent store st,
      ∃ s, r.plan.lookup? = some s ∧ s.render d = query ∧ r.WellScoped s := by
  constructor
  · intro sql h
    obtain ⟨rows, s, hs, hsql, hrows⟩ := Plan.answer?_of_run h
    exact ⟨rows, s, hs, hsql, hrows, Request.wellScoped_of_poses (Request.poses_of_answer? hs)⟩
  · intro query h
    rw [Request.compile, Plan.sent_compile] at h
    obtain ⟨s, hs, hquery⟩ := List.mem_map.1 h
    have hs : r.plan.lookup? = some s := by simpa using hs
    exact ⟨s, hs, hquery, Request.wellScoped_of_poses (Request.poses_of_lookup? hs)⟩

/-- Two tables that a join connects, both listing one of the fields. -/
theorem compile_wellScoped_joined :
    let r : Request :=
      { model := ⟨[("jobs", ["title", "code"]), ("countries", ["code", "name"])]⟩
        joins := [⟨"countries", "jobs", .left, ⟨"code", "code"⟩⟩]
        pivot := { rows := ["code", "name"] } }
    let store : Answering Unit := fun s _ => (.ok [], s)
    ∃ s : Statement, ((r.compile .sqlite).run store ()).1 = .ok (some (s.render .sqlite)) ∧
      r.model.AllConnected r.joins ∧
      s.references =
        [⟨"jobs", "code"⟩, ⟨"countries", "name"⟩, ⟨"jobs", "code"⟩, ⟨"countries", "name"⟩] ∧
      ∀ c ∈ s.references, Introduces (Source.clause s.source) c.table := by
  intro r store
  have hrun : ((r.compile .sqlite).run store ()).1 = .ok (some (r.grouped.render .sqlite)) := rfl
  have hconnected : r.model.AllConnected r.joins := by
    intro base hbase t ht
    obtain rfl : "jobs" = base := Option.some.inj hbase
    have ht : t = "jobs" ∨ t = "countries" := by simpa [r, Model.tableNames, Entries.keys] using ht
    rcases ht with rfl | rfl
    · exact Relation.ReflTransGen.refl
    · refine Relation.ReflTransGen.single ⟨by decide, by decide, _, List.mem_singleton_self _, ?_⟩
      exact Join.links_iff.2 (by decide)
  obtain ⟨rows, s, hs, hsql, _, hscoped⟩ := (compile_wellScoped .sqlite r store ()).1 _ hrun
  obtain rfl : r.grouped = s := Option.some.inj hs
  exact ⟨r.grouped, hrun, hconnected, rfl, hscoped.introduces hconnected⟩

end QueryLoom
