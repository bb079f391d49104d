import QueryLoom.Proofs.Query.Grouping
import QueryLoom.Query.Clauses

/-!
# Statements and their clauses

1. **Texts**: what is written between separators is the text of the parts between separators
   (`Token.render_intersperse`), so a statement is written as its clauses are
   (`Statement.render_eq`).
2. **Filters**: a filter on a listed field sets a condition by itself, whatever the catalogue and
   the other filters (`Model.conditionText?`, `whereConditions_restrict`).
3. **Other filters**: in the answer of a plan they change the conditions only
   (`Request.answer?_filters`).
4. **Main statement**: `compile_clauses` says that the text of a request is made of its clauses, and
   what its filters have to do with them.
-/

namespace QueryLoom

open Sql

/-! ## Texts -/

namespace Sql

theorem Token.render_append (d : Dialect) (ts us : List Token) :
    render d (ts ++ us) = render d ts ++ render d us := by
  apply String.toList_injective
  simp [render, writeAll]

theorem Token.render_intersperse (d : Dialect) (sep : List Token) (ps : List (List Token)) :
    render d (ps.intersperse sep).flatten = (render d sep).intercalate (ps.map (render d)) := by
  induction ps with
  | nil => rfl
  | cons p ps ih =>
    cases ps with
    | nil => simp
    | cons q ps =>
      rw [List.intersperse_cons_cons, List.flatten_cons, List.flatten_cons, render_append,
        render_append, ih]
      simp [String.append_assoc]

theorem Token.commaSeparated_eq (ps : List (List Token)) :
    commaSeparated ps = (ps.intersperse [.symbol ',', .space]).flatten := by
  induction ps with
  | nil => rfl
  | cons p ps ih =>
    cases ps with
    | nil => simp [commaSeparated]
    | cons q ps => simp [commaSeparated, ih]

theorem Token.render_commaSeparated (d : Dialect) (ps : List (List Token)) :
    render d (commaSeparated ps) = ", ".intercalate (ps.map (render d)) := by
  rw [commaSeparated_eq, render_intersperse]
  rfl

/-- Whether tokens are none at all or begin with a word, so that only none are an empty text. -/
def Token.IsClause (p : List Token) : Prop := p = [] ∨ ∃ w ts, w ≠ "" ∧ p = .word w :: ts

theorem Token.isClause_word {w : String} (hw : w ≠ "") (ts : List Token) :
    IsClause (.word w :: ts) :=
  Or.inr ⟨w, ts, hw, rfl⟩

theorem Token.IsClause.render_eq_empty {d : Dialect} {p : List Token} (h : IsClause p) :
    render d p = "" ↔ p = [] := by
  rcases h with rfl | ⟨w, ts, hw, rfl⟩
  · exact iff_of_true rfl rfl
  · refine iff_of_false ?_ (List.cons_ne_nil _ _)
    intro hempty
    have hlist : w.toList ++ writeAll d ts = [] := by
      simpa [render, writeAll, write] using congrArg String.toList hempty
    exact hw (String.toList_injective (List.append_eq_nil_iff.1 hlist).1)

/-- Clauses are assembled as tokens or as texts. -/
theorem Token.render_spaced {d : Dialect} {ps : List (List Token)} (h : ∀ p ∈ ps, IsClause p) :
    render d (spaced ps) = assembled (ps.map (render d)) := by
  have hfilter : (ps.filter (!·.isEmpty)).map (render d) =
      (ps.map (render d)).filter (· ≠ "") := by
    rw [List.filter_map]
    congr 1
    apply List.filter_congr
    intro p hp
    rw [Bool.eq_iff_iff]
    simp [(h p hp).render_eq_empty]
  rw [spaced, render_intersperse, hfilter]
  rfl

theorem Source.isClause_clause (source : Option Source) : Token.IsClause (clause source) := by
  cases source with
  | none => exact Or.inl rfl
  | some source =>
    rw [clause, Option.map_some, Option.getD_some, tokens, spaced_cons (List.cons_ne_nil _ _)]
    exact Token.isClause_word (w := "FROM") (by decide) _

theorem Condition.isClause_clause (cs : List Condition) : Token.IsClause (clause cs) := by
  rw [clause]
  split
  · exact Or.inl rfl
  · exact Token.isClause_word (w := "WHERE") (by decide) _

namespace Statement

variable {s : Statement} (d : Dialect)

theorem isClause_selectTokens (s : Statement) : Token.IsClause s.selectTokens :=
  Token.isClause_word (w := "SELECT") (by decide) _

theorem isClause_groupTokens (s : Statement) : Token.IsClause s.groupTokens := by
  rw [groupTokens]
  split
  · exact Or.inl rfl
  · exact Token.isClause_word (w := "GROUP") (by decide) _

theorem render_selectTokens (h : s.distinct = false) :
    Token.render d s.selectTokens = s.selectClause d := by
  have hselect : Token.render d [.word "SELECT", .space] = "SELECT " := rfl
  rw [selectTokens, h, if_neg Bool.false_ne_true, List.append_nil, Token.render_append, hselect,
    Token.render_commaSeparated, List.map_map]
  rfl

theorem render_groupTokens : Token.render d s.groupTokens = s.groupClause d := by
  have hgroup : Token.render d [.word "GROUP", .space, .word "BY", .space] = "GROUP BY " := rfl
  rw [groupTokens, groupClause]
  split
  · rfl
  · rw [Token.render_append, hgroup, Token.render_commaSeparated, List.map_map]
    rfl

/-- The text of a statement without order and limit is made of its clauses. -/
theorem render_eq (hdistinct : s.distinct = false) (hordered : s.ordered = false)
    (hlimit : s.limit = none) :
    s.render d =
      assembled [s.selectClause d, Token.render d (Source.clause s.source),
        Token.render d (Condition.clause s.conditions), s.groupClause d] := by
  let clauses : List (List Token) :=
    [s.selectTokens, Source.clause s.source, Condition.clause s.conditions, s.groupTokens]
  have htokens : s.tokens = Token.spaced clauses := by
    have horder : s.orderTokens = [] := by simp [orderTokens, hordered]
    have hlimit : s.limitTokens = [] := by simp [limitTokens, hlimit]
    rw [tokens, horder, hlimit]
    simp [clauses, Token.spaced, List.filter_cons]
  have hclauses : ∀ p ∈ clauses, Token.IsClause p := by
    simp only [clauses, List.forall_mem_cons]
    exact ⟨s.isClause_selectTokens, Source.isClause_clause _, Condition.isClause_clause _,
      s.isClause_groupTokens, List.forall_mem_nil _⟩
  rw [render, htokens, Token.render_spaced hclauses]
  simp only [clauses, List.map_cons, List.map_nil, render_selectTokens d hdistinct,
    render_groupTokens]

end Statement

end Sql

/-! ## Filters -/

/-- The `WHERE` clause of a statement is the one built on its own. -/
theorem whereClause_eq (d : Dialect) (fs : List Filter) (m : Model) (catalog : List Listing) :
    whereClause d fs m catalog = Token.render d
      (Condition.clause (Scope.conditions { model := m, catalog := catalog } fs)) := by
  have hwhere : Token.render d [.word "WHERE", .space] = "WHERE " := rfl
  rw [whereClause, whereConditions, Condition.clause, List.isEmpty_map]
  split
  · rfl
  · rw [Token.render_append, hwhere, Condition.allTokens, Token.render_intersperse, List.map_map]
    rfl

theorem whereClause_eq_empty {d : Dialect} {fs : List Filter} {m : Model}
    {catalog : List Listing} :
    whereClause d fs m catalog = "" ↔ whereConditions d fs m catalog = [] := by
  rw [whereClause]
  split
  · rename_i hempty
    exact iff_of_true rfl (List.isEmpty_iff.1 hempty)
  · rename_i hsome
    refine iff_of_false ?_ fun hempty => hsome (List.isEmpty_iff.2 hempty)
    intro hempty
    have hlist := congrArg String.toList hempty
    rw [String.toList_append] at hlist
    exact absurd (List.append_eq_nil_iff.1 hlist).1 (by decide)

/-- The text of the condition that a filter sets on a model by itself, if it sets one. -/
def Model.conditionText? (d : Dialect) (m : Model) (f : Filter) : Option String :=
  if m.hasField f.field then
    (Scope.condition? { model := m } f).map fun c => Token.render d c.tokens
  else none

/-- A filter on a listed field sets its condition whatever the catalogue and the aliases. -/
theorem Scope.condition?_of_hasField {s : Scope} {f : Filter}
    (h : s.model.hasField f.field = true) :
    s.condition? f = Scope.condition? { model := s.model } f := by
  obtain ⟨t, ht⟩ := Option.isSome_iff_exists.1 h
  simp only [condition?, column?, tableOf?, ht]

theorem whereConditions_restrict (d : Dialect) (fs : List Filter) (m : Model)
    (catalog : List Listing) :
    whereConditions d (Filter.restrict fs m) m catalog = fs.filterMap (m.conditionText? d) := by
  rw [whereConditions, Scope.conditions, Filter.restrict, List.map_filterMap, List.filterMap_filter]
  apply List.filterMap_congr
  intro f _
  rw [Model.conditionText?]
  split
  · rename_i hf
    rw [Scope.condition?_of_hasField (s := { model := m, catalog := catalog }) hf]
  · rfl

/-- A filter sets a condition exactly if its field is listed and its operator known. -/
theorem Model.isSome_conditionText? {d : Dialect} {m : Model} {f : Filter} :
    (m.conditionText? d f).isSome = true ↔
      m.hasField f.field = true ∧ f.comparison.isKnown = true := by
  rw [conditionText?]
  split
  · rename_i hf
    obtain ⟨c, hc, -, -⟩ := Scope.column?_of_hasField (s := { model := m }) hf
    rw [Option.isSome_map, Scope.condition?, hc, Option.bind_some]
    cases f.comparison <;> simp [Comparison.isKnown, hf]
  · rename_i hf
    simp [hf]

theorem whereClause_restrict_ne {d : Dialect} {fs : List Filter} {m : Model}
    {catalog : List Listing} :
    whereClause d (Filter.restrict fs m) m catalog ≠ "" ↔
      ∃ f ∈ fs, m.hasField f.field = true ∧ f.comparison.isKnown = true := by
  rw [ne_eq, whereClause_eq_empty, whereConditions_restrict, List.filterMap_eq_nil_iff]
  simp only [not_forall, ← Option.isSome_iff_ne_none, Model.isSome_conditionText?, exists_prop]

namespace Request

variable {r : Request} {d : Dialect}

theorem whereClause_conditions (r : Request) (d : Dialect) (catalog : List Listing) :
    Token.render d (Condition.clause r.conditions) =
      whereClause d (Filter.restrict r.filters r.model) r.model catalog := by
  let scope : Scope := { model := r.model, catalog := catalog }
  have hconditions : r.conditions = scope.conditions (Filter.restrict r.filters r.model) := by
    apply List.filterMap_congr
    intro f hf
    have hfield : r.model.hasField f.field = true := (List.mem_filter.1 hf).2
    rw [Scope.condition?_of_hasField (s := r.scope) hfield,
      Scope.condition?_of_hasField (s := scope) hfield]
    rfl
  rw [whereClause_eq, hconditions]

/-! ## Other filters -/

/-- With other filters the answer of a plan is the same statement under other conditions. -/
theorem answer?_filters (r : Request) (fs : List Filter) (rows : List Row) :
    let r' : Request := { r with filters := fs }
    r'.plan.answer? rows =
      (r.plan.answer? rows).map fun s => { s with conditions := r'.conditions } := by
  intro r'
  have hstatement (outputs : List Output) (groups : List Column) :
      r'.statement? outputs groups = (r.statement? outputs groups).map fun s =>
        { s with conditions := r'.conditions } := by
    unfold statement?
    split
    · rfl
    · rfl
  have hflat : r'.flat = r.flat.map fun s => { s with conditions := r'.conditions } :=
    hstatement _ _
  -- the filters have no say in which plan it is
  have hmodel : r'.model = r.model := rfl
  have hlayout : r'.layout = r.layout := rfl
  have hscope : r'.scope = r.scope := rfl
  rw [plan, plan, hmodel, hlayout, hscope]
  split
  · rfl
  · split
    · cases r.layout.columns.head?.bind r.scope.column? with
      | none => rfl
      | some c => exact hstatement _ _
    · split
      · rw [hflat]
        cases r.flat <;> rfl
      · rfl

/-- Whether a store answers the query of a request, if it has one, with rows. -/
def AnsweredBy {σ : Type} (r : Request) (d : Dialect) (store : Answering σ) (st : σ)
    (rows : List Row) : Prop :=
  ∀ query, r.plan.lookup? = some query → (store st (query.render d)).1 = .ok rows

theorem run_of_answeredBy {σ : Type} {store : Answering σ} {st : σ} {rows : List Row}
    (h : r.AnsweredBy d store st rows) :
    ((r.compile d).run store st).1 = .ok ((r.plan.answer? rows).map (·.render d)) := by
  cases hlookup : r.plan.lookup? with
  | none => rw [compile, Plan.run_compile_of_no_lookup hlookup rows]
  | some query =>
    rcases hstore : store st (query.render d) with ⟨answer, st'⟩
    have hanswer := h query hlookup
    rw [hstore] at hanswer
    obtain rfl : answer = .ok rows := hanswer
    rw [compile, Plan.run_compile_of_rows hlookup hstore]

/-- The text of a statement that a plan ends in. -/
theorem render_of_answer? {rows : List Row} {s : Statement} (h : r.plan.answer? rows = some s)
    (catalog : List Listing) :
    s.render d =
      assembled [s.selectClause d, fromClause d r.model r.joins,
        whereClause d (Filter.restrict r.filters r.model) r.model catalog, s.groupClause d] := by
  obtain ⟨⟨outputs, groups, rfl⟩, -, -⟩ := summarizes_of_answer? h
  rw [Statement.render_eq d rfl rfl rfl, ← whereClause_conditions]
  rfl

end Request

/-! ## Main statement -/

/-- The SQL of a request is made of its clauses, with single spaces between them and empty ones left
out: the `SELECT` list and the `GROUP BY` columns of the statement that its plan ends in, and the
`FROM` and `WHERE` clauses that are built on their own from the model, the joins and the filters on
listed fields, whatever the catalogue. Each filter on a listed field with a known operator sets a
condition, which no other filter has a say in; there is a `WHERE` clause exactly if there is such a
filter, and it holds their conditions in the order of the filters. With the filters in another order
and the same rows from the store, the conditions stand in that order and all else is as it was. -/
theorem compile_clauses (d : Dialect) (r : Request) {σ : Type} (store : Answering σ) (st : σ)
    (sql : String) (h : ((r.compile d).run store st).1 = .ok (some sql)) :
    ∃ rows s, r.AnsweredBy d store st rows ∧ r.plan.answer? rows = some s ∧
      let sanitized := Filter.restrict r.filters r.model
      let text (conditions : String) := assembled
        [s.selectClause d, fromClause d r.model r.joins, conditions, s.groupClause d]
      (∀ catalog, sql = text (whereClause d sanitized r.model catalog)) ∧
      (∀ catalog, whereClause d sanitized r.model catalog ≠ "" ↔
        ∃ f ∈ r.filters, r.model.hasField f.field = true ∧ f.comparison.isKnown = true) ∧
      (∀ catalog, whereConditions d sanitized r.model catalog =
        r.filters.filterMap (r.model.conditionText? d)) ∧
      (∀ f, (r.model.conditionText? d f).isSome = true ↔
        r.model.hasField f.field = true ∧ f.comparison.isKnown = true) ∧
      ∀ fs : List Filter, fs.Perm r.filters →
        let r' : Request := { r with filters := fs }
        let sanitized' := Filter.restrict fs r.model
        (∀ catalog,
          whereConditions d sanitized' r.model catalog =
            fs.filterMap (r.model.conditionText? d) ∧
          (whereConditions d sanitized' r.model catalog).Perm
            (whereConditions d sanitized r.model catalog)) ∧
        ∀ {τ : Type} (store' : Answering τ) (st' : τ), r'.AnsweredBy d store' st' rows →
          ∀ catalog, ((r'.compile d).run store' st').1 =
            .ok (some (text (whereClause d sanitized' r.model catalog))) := by
  obtain ⟨rows, s, hs, rfl, hrows⟩ := Plan.answer?_of_run h
  refine ⟨rows, s, hrows, hs, ?_, ?_, ?_, ?_, ?_⟩
  · exact fun catalog => Request.render_of_answer? hs catalog
  · exact fun _ => whereClause_restrict_ne
  · exact whereConditions_restrict d r.filters r.model
  · exact fun _ => Model.isSome_conditionText?
  · intro fs hperm r' sanitized'
    constructor
    · intro catalog
      have hconditions := whereConditions_restrict d fs r.model catalog
      refine ⟨hconditions, ?_⟩
      rw [hconditions, whereConditions_restrict]
      exact hperm.filterMap _
    · intro τ store' st' hrows' catalog
      -- the statement is the same but for its conditions
      have hs' : r'.plan.answer? rows = some { s with conditions := r'.conditions } := by
        rw [r.answer?_filters fs rows, hs]
        rfl
      rw [Request.run_of_answeredBy hrows', hs', Option.map_some,
        Request.render_of_answer? hs' catalog]
      rfl

/-- A pivoted request with a filter on a field that is not listed and one with an unknown operator:
as it is, and with its filters in reverse order. -/
theorem compile_clauses_pivoted :
    let r : Request :=
      { model := ⟨[("jobs", ["title", "total", "language"])]⟩
        pivot :=
          { rows := ["title"], columns := ["language"], values := [⟨"total", .sum, none⟩] }
        filters :=
          [⟨none, "total", .greaterThan, .integer 1⟩, ⟨none, "salary", .equals, .null⟩,
            ⟨none, "title", .other "between", .null⟩, ⟨none, "language", .equals, .text "en"⟩] }
    let r' : Request := { r with filters := r.filters.reverse }
    let store : Answering Unit := fun s _ => (.ok [⟨[("language", .text "en")]⟩], s)
    let text (conditions : String) : String :=
      "SELECT \"jobs\".\"title\" AS \"title\", " ++
        "SUM(CASE WHEN \"jobs\".\"language\" = 'en' THEN \"jobs\".\"total\" END) " ++
        "AS \"en - SUM of total\" FROM \"jobs\" " ++ conditions ++ " GROUP BY \"jobs\".\"title\""
    ((r.compile .sqlite).run store ()).1 =
        .ok (some (text "WHERE \"jobs\".\"total\" > 1 AND \"jobs\".\"language\" = 'en'")) ∧
      ((r'.compile .sqlite).run store ()).1 =
        .ok (some (text "WHERE \"jobs\".\"language\" = 'en' AND \"jobs\".\"total\" > 1")) := by
  intro r r' store text
  obtain ⟨sql, hrun⟩ : ∃ sql, ((r.compile .sqlite).run store ()).1 = .ok (some sql) := ⟨_, rfl⟩
  obtain ⟨rows, s, hrows, hs, htext, -, -, -, hother⟩ :=
    compile_clauses .sqlite r store () sql hrun
  have hrun' := (hother _ (List.reverse_perm r.filters)).2 store () (fun _ _ => hrows _ rfl) []
  -- the rows of the store give the statement
  obtain rfl : [⟨[("language", .text "en")]⟩] = rows := Except.ok.inj (hrows _ rfl)
  obtain rfl := Option.some.inj hs
  constructor
  · rw [hrun, htext []]
    exact congrArg (Except.ok ∘ some) (by decide +kernel)
  · exact hrun'.trans (congrArg (Except.ok ∘ some) (by decide +kernel))

end QueryLoom
