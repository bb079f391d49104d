import QueryLoom.Proofs.Aggregation
import QueryLoom.Proofs.Query.Planning
import QueryLoom.Proofs.Sql.Parts
import QueryLoom.Proofs.Sql.Statement
import QueryLoom.Query.Preview

/-!
# Compiled SQL reads back

1. **Values**: `Token.StandsFor` says which token a compared value has to be: a text is one quoted
   text, a finite number one plain decimal, everything else the word `NULL`.
2. **Statements**: `Statement.ReadsBack` is what reading the text of a statement gives: its tokens
   and nothing else, each compared value and each pattern as one token in its place, and no quoted
   token but those of the statement's parts.
3. **Requests**: a statement that a request poses reads back if the aggregate functions of the
   request were read (`Request.readsBack_of_poses`); `Filter.SetIn` says how a filter stands in it.
4. **Main statement**: `compile_readsBack` is about every text that compiling gives or sends, and
   about the preview.
-/

namespace QueryLoom

open Sql

/-! ## Values -/

/-- Whether a token is the one that a compared value should be read as. -/
inductive Sql.Token.StandsFor : Token → Value → Prop where
  | text (s : String) : StandsFor (.text s) (.text s)
  | integer {n : Int64} {cs : List Char} : Decimal.IsNumeral cs →
    String.ofList cs = (Value.integer n).display → StandsFor (.number cs) (.integer n)
  | real {x : Float} {cs : List Char} : x.isFinite = true → Decimal.IsNumeral cs →
    String.ofList cs = (Value.real x).display → StandsFor (.number cs) (.real x)
  | null : StandsFor (.word "NULL") .null
  | notFinite {x : Float} : x.isFinite = false → StandsFor (.word "NULL") (.real x)

theorem Sql.standsFor_literal (v : Value) : (literal v).StandsFor v := by
  have hwhole := isWhole_literal v
  cases v with
  | null => exact .null
  | integer n => exact .integer hwhole rfl
  | real x =>
    cases hx : x.isFinite with
    | true =>
      have hliteral : literal (.real x) = .number (Value.plainLayout.write x) := by
        simp [literal, hx]
      rw [hliteral] at hwhole ⊢
      exact .real hx hwhole rfl
    | false =>
      have hliteral : literal (.real x) = .word "NULL" := by simp [literal, hx]
      rw [hliteral]
      exact .notFinite hx
  | text s => exact .text s

/-! ## Statements -/

namespace Sql.Statement

/-- The comparisons of a statement: column, operator and value. -/
inductive Compares (s : Statement) : Column → Char → Value → Prop where
  | case {f : Aggregation} {c measure : Column} {v : Value} {name : Option String} :
    ⟨.aggregateWhere f c v measure, name⟩ ∈ s.outputs → s.Compares c '=' v
  | equals {c : Column} {v : Value} : .equals c v ∈ s.conditions → s.Compares c '=' v
  | greater {c : Column} {v : Value} : .greater c v ∈ s.conditions → s.Compares c '>' v
  | less {c : Column} {v : Value} : .less c v ∈ s.conditions → s.Compares c '<' v

/-- Whether a text is read as a statement. -/
structure ReadsBack (d : Dialect) (s : Statement) (text : String) : Prop where
  /-- The whole text is read, as the tokens of the statement. -/
  scan : Token.scan d.quotes text.toList = .ok s.tokens
  /-- Words, numbers and symbols are each one token. -/
  whole : ∀ t ∈ s.tokens, t.IsWhole
  /-- Names and texts are those of the columns, aliases, values and patterns, in their order. -/
  quoted : quoted s.tokens = quoted s.parts.flatten
  /-- A compared value is one token after the operator. -/
  compared : ∀ c op v, s.Compares c op v →
    ∃ t : Token, t.StandsFor v ∧ c.tokens ++ [.space, .symbol op, .space, t] <:+: s.tokens
  /-- A pattern is one text after `LIKE`. -/
  patterns : ∀ c pattern, .like c pattern ∈ s.conditions →
    c.tokens ++ [.space, .word "LIKE", .space, .text pattern] <:+: s.tokens
  /-- An aggregate function is one word before a bracket. -/
  aggregated : ∀ o ∈ s.outputs, ∀ f ∈ o.expr.function?,
    isWord f.keyword.toList = true ∧ [.word f.keyword, .symbol '('] <:+: s.tokens

theorem readsBack {s : Statement} (h : s.HasWords) (d : Dialect) : s.ReadsBack d (s.render d) where
  scan := scan_render h d
  whole := (readable_tokens h).whole
  quoted := s.quoted_tokens
  compared := by
    intro c op v hcompares
    refine ⟨literal v, standsFor_literal v, ?_⟩
    cases hcompares with
    | @case f _ measure _ name ho =>
      -- the comparison stands between `WHEN` and `THEN`
      refine List.IsInfix.trans ?_ (infix_output ho)
      refine ⟨[.word f.keyword, .symbol '(', .word "CASE", .space, .word "WHEN", .space],
        [.space, .word "THEN", .space] ++ measure.tokens ++ [.space, .word "END", .symbol ')']
          ++ (Output.mk .one name).tokens.drop 1, ?_⟩
      simp [Output.tokens, Expr.tokens]
    | equals ht => exact infix_condition ht
    | greater ht => exact infix_condition ht
    | less ht => exact infix_condition ht
  patterns := fun c pattern ht => infix_condition ht
  aggregated := by
    intro o ho f hf
    refine ⟨h o ho f hf, List.IsInfix.trans ?_ (infix_output ho)⟩
    rcases o with ⟨e, name⟩
    cases e with
    | aggregate g c =>
      obtain rfl : g = f := Option.some.inj hf
      exact (List.prefix_append _ _).isInfix
    | aggregateWhere g c v measure =>
      obtain rfl : g = f := Option.some.inj hf
      exact (List.prefix_append _ _).isInfix
    | column c => cases hf
    | one => cases hf
    | all => cases hf

end Sql.Statement

/-! ## Requests -/

/-- How a filter stands in a statement: on a column of the model with the filter's field, compared
with its value or matched with a pattern around the value's plain text. -/
def Filter.SetIn (f : Filter) (m : Model) (s : Statement) : Prop :=
  ∃ c : Column, m.Owns c ∧ c.field = f.field ∧
    match f.comparison with
    | .equals => s.Compares c '=' f.value
    | .greaterThan => s.Compares c '>' f.value
    | .lessThan => s.Compares c '<' f.value
    | .contains => .like c ("%" ++ f.value.display ++ "%") ∈ s.conditions
    | .other _ => True

namespace Request

variable {r : Request} {s : Statement} {d : Dialect}

/-- Every filter on a listed field stands in what a request poses. -/
theorem setIn_of_poses (hs : r.Poses s) {f : Filter} (hf : f ∈ r.filters)
    (hfield : r.model.hasField f.field = true) : f.SetIn r.model s := by
  obtain ⟨c, hc, hcf, howns⟩ := exists_column hfield
  refine ⟨c, howns, hcf, ?_⟩
  have hmem : ∀ t, r.scope.condition? f = some t → t ∈ s.conditions := by
    intro t ht
    -- the filter is on a listed field, so it is not dropped
    have hkept : f ∈ Filter.restrict r.filters r.model := List.mem_filter.2 ⟨hf, hfield⟩
    exact hs.filters.subset (List.mem_filterMap.2 ⟨f, hkept, ht⟩)
  simp only [Scope.condition?, hc, Option.bind_some] at hmem
  cases hcomparison : f.comparison with
  | equals => exact .equals (hmem _ (by simp [hcomparison]))
  | contains => exact hmem _ (by simp [hcomparison])
  | greaterThan => exact .greater (hmem _ (by simp [hcomparison]))
  | lessThan => exact .less (hmem _ (by simp [hcomparison]))
  | other name => trivial

theorem hasWord_of_shows (hread : ∀ m ∈ r.pivot.values, m.aggregation.IsRead) {e : Expr}
    (he : r.Shows e) : e.HasWord := by
  intro f hf
  cases he with
  | field _ => cases hf
  | measure hm _ =>
    obtain rfl := Option.some.inj hf
    exact Aggregation.isWord_keyword (hread _ hm)
  | pivoted hm _ _ =>
    obtain rfl := Option.some.inj hf
    exact Aggregation.isWord_keyword (hread _ hm)
  | one => cases hf

/-- What a request poses reads back, if its aggregate functions were read. -/
theorem readsBack_of_poses (hread : ∀ m ∈ r.pivot.values, m.aggregation.IsRead)
    (hs : r.Poses s) : s.ReadsBack d (s.render d) :=
  Statement.readsBack (fun o ho => hasWord_of_shows hread (hs.outputs o ho)) d

/-- A preview has no aggregate functions. -/
theorem hasWords_of_preview? (hs : r.preview? = some s) : s.HasWords := by
  obtain ⟨source, _, rfl⟩ := Option.map_eq_some_iff.1 hs
  intro o ho f hf
  simp only at ho
  split at ho
  · obtain rfl := List.mem_singleton.1 ho
    cases hf
  · obtain ⟨c, _, rfl⟩ := List.mem_map.1 ho
    cases hf

end Request

/-! ## Main statement -/

/-- If the aggregate functions of a request were read, then every text that compiling it gives or
sends to the store, and its preview, is read back, in the quotes of the dialect, as the statement
it was written from. Filters stand in it as they were given. -/
theorem compile_readsBack (d : Dialect) (r : Request)
    (hread : ∀ m ∈ r.pivot.values, m.aggregation.IsRead)
    {σ : Type} (store : Answering σ) (st : σ) :
    (∀ sql, ((r.compile d).run store st).1 = .ok (some sql) →
      ∃ rows s, r.plan.answer? rows = some s ∧
        (∀ query, r.plan.lookup? = some query → (store st (query.render d)).1 = .ok rows) ∧
        s.ReadsBack d sql ∧
        ∀ f ∈ r.filters, r.model.hasField f.field = true → f.SetIn r.model s) ∧
    (∀ query ∈ (r.compile d).sent store st,
      ∃ s, r.plan.lookup? = some s ∧ s.ReadsBack d query ∧
        ∀ f ∈ r.filters, r.model.hasField f.field = true → f.SetIn r.model s) ∧
    (r.model.tables ≠ [] → ∃ s, r.preview? = some s ∧ s.ReadsBack d (r.previewText d)) := by
  refine ⟨?_, ?_, ?_⟩
  · intro sql h
    obtain ⟨rows, s, hs, rfl, hrows⟩ := Plan.answer?_of_run h
    have hposes := Request.poses_of_answer? hs
    exact ⟨rows, s, hs, hrows, Request.readsBack_of_poses hread hposes,
      fun f hf => Request.setIn_of_poses hposes hf⟩
  · intro query h
    rw [Request.compile, Plan.sent_compile] at h
    obtain ⟨s, hs, rfl⟩ := List.mem_map.1 h
    have hs : r.plan.lookup? = some s := by simpa using hs
    have hposes := Request.poses_of_lookup? hs
    exact ⟨s, hs, Request.readsBack_of_poses hread hposes,
      fun f hf => Request.setIn_of_poses hposes hf⟩
  · intro htables
    cases hs : r.preview? with
    | none =>
      -- only a model without tables has no preview
      have hbase : r.model.tables = [] := by
        simpa [Request.preview?, Source.of?, Model.base?, Model.tableNames, Entries.keys] using hs
      exact absurd hbase htables
    | some s =>
      refine ⟨s, rfl, ?_⟩
      rw [Request.previewText, hs]
      exact Statement.readsBack (Request.hasWords_of_preview? hs) d

/-- Names and values that hold the quotes of the dialect. -/
theorem compile_readsBack_quotes :
    let r : Request :=
      { model := ⟨[("it's", ["a`b", "n"])]⟩
        pivot := { rows := ["a`b"], values := [⟨"n", .sum, none⟩] }
        filters := [⟨none, "a`b", .contains, .text "'; --"⟩] }
    let store : Answering Unit := fun s _ => (.ok [], s)
    (∀ m ∈ r.pivot.values, m.aggregation.IsRead) ∧
      ∃ s : Statement, ((r.compile .mysql).run store ()).1 = .ok (some (s.render .mysql)) ∧
        Token.scan Dialect.mysql.quotes (s.render .mysql).toList = .ok s.tokens ∧
        quoted s.tokens =
          [.name "it's", .name "a`b", .name "a`b", .name "it's", .name "n", .name "SUM_of_n",
            .name "it's", .name "it's", .name "a`b", .text "%'; --%", .name "it's",
            .name "a`b"] := by
  intro r store
  have hread : ∀ m ∈ r.pivot.values, m.aggregation.IsRead := by
    intro m hm
    obtain rfl := List.mem_singleton.1 hm
    exact Or.inl ⟨"SUM", by decide +kernel⟩
  have hrun : ((r.compile .mysql).run store ()).1 = .ok (some (r.grouped.render .mysql)) := rfl
  obtain ⟨rows, s, hs, _, hback, _⟩ := (compile_readsBack .mysql r hread store ()).1 _ hrun
  obtain rfl : r.grouped = s := Option.some.inj hs
  refine ⟨hread, r.grouped, hrun, hback.scan, ?_⟩
  rw [hback.quoted]
  decide +kernel

end QueryLoom
