import Mathlib.Data.List.Basic
import QueryLoom.Sql.Statement

/-!
# What stands in the text of a statement

A statement's text is a row of parts (columns, names, compared values) with words, spaces and
symbols between them.

1. **Parts**: `Statement.parts` lists the parts of a statement in the order of its text.
2. **Partwise functions**: what a `Partwise` function finds in a list of tokens, it finds in the
   parts; words, spaces, numbers and symbols other than the point hold nothing and connect nothing
   (`Partwise.statement`).
3. **Instances**: `quoted` gives the quoted tokens, `qualified` the columns written with their
   table.
4. **Clauses in the text**: the parts of a clause stand in the text one after the other
   (`Statement.infix_output`, `Statement.infix_condition`).
-/

namespace QueryLoom.Sql

open Token

/-! ## Parts -/

/-- The parts of an expression. -/
def Expr.parts : Expr → List (List Token)
  | .column c | .aggregate _ c => [c.tokens]
  | .aggregateWhere _ c v measure => [c.tokens, [literal v], measure.tokens]
  | .one | .all => []

/-- The parts of a column of the result: those of its expression, and its name. -/
def Output.parts (o : Output) : List (List Token) :=
  o.expr.parts ++ o.name.toList.map fun n => [.name n]

/-- The parts of a condition. -/
def Condition.parts : Condition → List (List Token)
  | .equals c v | .greater c v | .less c v => [c.tokens, [literal v]]
  | .like c pattern => [c.tokens, [.text pattern]]
  | .present c => [c.tokens]

/-- The parts of a join. -/
def Link.parts (l : Link) : List (List Token) := [[.name l.table], l.left.tokens, l.right.tokens]

/-- The parts of a source. -/
def Source.parts (s : Source) : List (List Token) := [.name s.base] :: s.links.flatMap Link.parts

/-- The parts of a statement, in the order of its text. -/
def Statement.parts (s : Statement) : List (List Token) :=
  s.outputs.flatMap Output.parts ++ s.source.toList.flatMap Source.parts
    ++ s.conditions.flatMap Condition.parts ++ s.groups.map Column.tokens

/-! ## Partwise functions -/

/-- Whether a token only stands between parts. -/
def Token.isBreak : Token → Bool
  | .word _ | .number _ | .space => true
  | .symbol c => c ≠ '.'
  | .name _ | .text _ => false

/-- A function that finds in a list of tokens what it finds on either side of a break. -/
structure Partwise {β : Type} (φ : List Token → List β) : Prop where
  nil : φ [] = []
  split : ∀ xs b ys, b.isBreak = true → φ (xs ++ b :: ys) = φ xs ++ φ ys

namespace Partwise

variable {β : Type} {φ : List Token → List β}

theorem cons (h : Partwise φ) {b : Token} (hb : b.isBreak = true) (ys : List Token) :
    φ (b :: ys) = φ ys := by
  rw [← List.nil_append (b :: ys), h.split [] b ys hb, h.nil, List.nil_append]

theorem breaks (h : Partwise φ) (sep : List Token) (hsep : sep.all Token.isBreak = true)
    (ys : List Token) : φ (sep ++ ys) = φ ys := by
  induction sep with
  | nil => rfl
  | cons b sep ih =>
    simp only [List.all_cons, Bool.and_eq_true] at hsep
    rw [List.cons_append, h.cons hsep.1, ih hsep.2]

/-- Breaks between two lists. -/
theorem append (h : Partwise φ) (b : Token) (sep : List Token)
    (hsep : (b :: sep).all Token.isBreak = true) (xs ys : List Token) :
    φ (xs ++ b :: (sep ++ ys)) = φ xs ++ φ ys := by
  simp only [List.all_cons, Bool.and_eq_true] at hsep
  rw [h.split _ _ _ hsep.1, h.breaks sep hsep.2]

/-- Breaks after a list. -/
theorem append_breaks (h : Partwise φ) (b : Token) (sep : List Token)
    (hsep : (b :: sep).all Token.isBreak = true) (xs : List Token) :
    φ (xs ++ b :: sep) = φ xs := by
  have := h.append b sep hsep xs []
  rwa [List.append_nil, h.nil, List.append_nil] at this

theorem intersperse (h : Partwise φ) (b : Token) (sep : List Token)
    (hsep : (b :: sep).all Token.isBreak = true) (ps : List (List Token)) :
    φ (ps.intersperse (b :: sep)).flatten = ps.flatMap φ := by
  induction ps with
  | nil => exact h.nil
  | cons p ps ih =>
    cases ps with
    | nil => simp
    | cons q qs =>
      rw [List.intersperse_cons_cons, List.flatten_cons, List.flatten_cons, List.cons_append,
        h.append b sep hsep, ih]
      rfl

theorem spaced (h : Partwise φ) (ps : List (List Token)) : φ (spaced ps) = ps.flatMap φ := by
  rw [Token.spaced, h.intersperse .space [] rfl]
  -- an empty part holds nothing
  induction ps with
  | nil => rfl
  | cons p ps ih =>
    cases p with
    | nil => simpa [h.nil] using ih
    | cons t ts => simpa using ih

theorem commaSeparated (h : Partwise φ) (ps : List (List Token)) :
    φ (commaSeparated ps) = ps.flatMap φ := by
  induction ps with
  | nil => exact h.nil
  | cons p ps ih =>
    cases ps with
    | nil => simp [Token.commaSeparated]
    | cons q qs =>
      have hcomma : Token.commaSeparated (p :: q :: qs) =
          p ++ symbol ',' :: ([space] ++ Token.commaSeparated (q :: qs)) := by
        simp [Token.commaSeparated]
      rw [hcomma, h.append (.symbol ',') [.space] rfl, ih]
      rfl

theorem expr (h : Partwise φ) (e : Expr) : φ e.tokens = e.parts.flatMap φ := by
  cases e with
  | column c => simp [Expr.tokens, Expr.parts]
  | aggregate f c =>
    rw [Expr.tokens, List.append_assoc, h.breaks _ rfl, h.append_breaks _ _ rfl]
    simp [Expr.parts]
  | aggregateWhere f c v measure =>
    have htokens : (Expr.aggregateWhere f c v measure).tokens =
        [word f.keyword, symbol '(', word "CASE", space, word "WHEN", space]
          ++ (c.tokens ++ space :: ([symbol '=', space]
            ++ ([literal v] ++ space :: ([word "THEN", space]
              ++ (measure.tokens ++ space :: [word "END", symbol ')']))))) := by
      simp [Expr.tokens]
    rw [htokens, h.breaks _ rfl, h.append _ _ rfl, h.append _ _ rfl, h.append_breaks _ _ rfl]
    simp [Expr.parts]
  | one => exact (h.cons (b := .number ['1']) rfl []).trans h.nil
  | all => exact (h.cons (b := .symbol '*') rfl []).trans h.nil

theorem output (h : Partwise φ) (o : Output) : φ o.tokens = o.parts.flatMap φ := by
  rcases o with ⟨e, _ | n⟩
  · simp [Output.tokens, Output.parts, h.expr]
  · have hname := h.append .space [.word "AS", .space] rfl e.tokens [.name n]
    rw [h.expr] at hname
    simpa [Output.tokens, Output.parts] using hname

theorem condition (h : Partwise φ) (c : Condition) : φ c.tokens = c.parts.flatMap φ := by
  have hcompare : ∀ (c : Column) (op t : Token), [op].all Token.isBreak = true →
      φ (c.tokens ++ [.space, op, .space, t]) = [c.tokens, [t]].flatMap φ := by
    intro c op t hop
    have := h.append .space [op, .space] (by simpa [Token.isBreak] using hop) c.tokens [t]
    simpa using this
  cases c with
  | equals c v => exact hcompare c _ _ rfl
  | greater c v => exact hcompare c _ _ rfl
  | less c v => exact hcompare c _ _ rfl
  | like c pattern => exact hcompare c _ _ rfl
  | present c =>
    have := h.append_breaks .space [.word "IS", .space, .word "NOT", .space, .word "NULL"] rfl
      c.tokens
    simpa [Condition.tokens, Condition.parts] using this

theorem link (h : Partwise φ) (l : Link) : φ l.tokens = l.parts.flatMap φ := by
  have htokens : l.tokens = [word l.kind.keyword, space, word "JOIN", space]
      ++ ([name l.table] ++ space :: ([word "ON", space]
        ++ (l.left.tokens ++ space :: ([symbol '=', space] ++ l.right.tokens)))) := by
    simp [Link.tokens]
  rw [htokens, h.breaks _ rfl, h.append _ _ rfl, h.append _ _ rfl]
  simp [Link.parts]

theorem source (h : Partwise φ) (s : Option Source) :
    φ (Source.clause s) = (s.toList.flatMap Source.parts).flatMap φ := by
  cases s with
  | none => exact h.nil
  | some s =>
    have hbase : φ [.word "FROM", .space, .name s.base] = φ [.name s.base] :=
      h.breaks [.word "FROM", .space] rfl _
    have hlinks : (s.links.map Link.tokens).flatMap φ = (s.links.flatMap Link.parts).flatMap φ := by
      rw [List.flatMap_map, List.flatMap_assoc]
      exact List.flatMap_congr fun l _ => h.link l
    show φ s.tokens = _
    rw [Source.tokens, h.spaced, List.flatMap_cons, hbase, hlinks]
    simp [Source.parts]

theorem conditions (h : Partwise φ) (cs : List Condition) :
    φ (Condition.clause cs) = (cs.flatMap Condition.parts).flatMap φ := by
  have hall : φ (Condition.allTokens cs) = (cs.flatMap Condition.parts).flatMap φ := by
    rw [Condition.allTokens, h.intersperse _ _ rfl, List.flatMap_map, List.flatMap_assoc]
    exact List.flatMap_congr fun c _ => h.condition c
  cases cs with
  | nil => exact h.nil
  | cons c cs =>
    rw [← hall]
    exact h.breaks [.word "WHERE", .space] rfl _

theorem outputs (h : Partwise φ) (s : Statement) :
    φ s.selectTokens = (s.outputs.flatMap Output.parts).flatMap φ := by
  have hall : φ (Token.commaSeparated (s.outputs.map Output.tokens)) =
      (s.outputs.flatMap Output.parts).flatMap φ := by
    rw [h.commaSeparated, List.flatMap_map, List.flatMap_assoc]
    exact List.flatMap_congr fun o _ => h.output o
  rw [← hall, Statement.selectTokens]
  cases s.distinct with
  | false => exact h.breaks [.word "SELECT", .space] rfl _
  | true => exact h.breaks [.word "SELECT", .space, .word "DISTINCT", .space] rfl _

theorem groups (h : Partwise φ) (s : Statement) :
    φ s.groupTokens = (s.groups.map Column.tokens).flatMap φ := by
  rw [Statement.groupTokens]
  cases s.groups with
  | nil => exact h.nil
  | cons c cs =>
    rw [← h.commaSeparated]
    exact h.breaks [.word "GROUP", .space, .word "BY", .space] rfl _

/-- What is found in the text of a statement is found in its clauses. -/
theorem clauses (h : Partwise φ) (s : Statement) :
    φ s.tokens = φ s.selectTokens ++ φ (Source.clause s.source)
      ++ φ (Condition.clause s.conditions) ++ φ s.groupTokens := by
  have horder : φ s.orderTokens = [] := by
    rw [Statement.orderTokens]
    cases s.ordered with
    | false => exact h.nil
    | true =>
      exact (h.breaks [.word "ORDER", .space, .word "BY", .space, .number ['1']] rfl []).trans h.nil
  have hlimit : φ s.limitTokens = [] := by
    rw [Statement.limitTokens]
    cases s.limit with
    | none => exact h.nil
    | some n => exact (h.breaks [.word "LIMIT", .space, .number _] rfl []).trans h.nil
  rw [Statement.tokens, h.spaced]
  simp [horder, hlimit]

/-- What is found in the text of a statement is found in its parts. -/
theorem statement (h : Partwise φ) (s : Statement) : φ s.tokens = s.parts.flatMap φ := by
  rw [h.clauses, h.outputs, h.source, h.conditions, h.groups]
  simp [Statement.parts]

end Partwise

/-! ## Quoted tokens -/

def Token.isQuoted : Token → Bool
  | .name _ | .text _ => true
  | .word _ | .number _ | .symbol _ | .space => false

/-- The quoted names and texts of a list of tokens. -/
def quoted (ts : List Token) : List Token := ts.filter Token.isQuoted

theorem partwise_quoted : Partwise quoted where
  nil := rfl
  split := by
    intro xs b ys hb
    have hquoted : b.isQuoted = false := by
      cases b with
      | name s => cases hb
      | text s => cases hb
      | _ => rfl
    simp [quoted, hquoted]

/-- The quoted tokens of a statement are those of its parts. -/
theorem Statement.quoted_tokens (s : Statement) : quoted s.tokens = quoted s.parts.flatten := by
  rw [partwise_quoted.statement, quoted, List.filter_flatten, List.flatMap_def]
  rfl

/-! ## Qualified columns -/

/-- The columns written with their table in a list of tokens. -/
def qualified : List Token → List Column
  | .name table :: .symbol '.' :: .name field :: ts => ⟨table, field⟩ :: qualified ts
  | _ :: ts => qualified ts
  | [] => []

theorem partwise_qualified : Partwise qualified where
  nil := rfl
  split := by
    intro xs b ys hb
    fun_induction qualified xs with
    | case1 table field ts ih => simp [qualified, ih]
    | case2 t ts hother ih =>
      rw [← ih, List.cons_append, qualified]
      -- a break is neither the point nor the field of a column
      intro table field rest ht hrest
      match ts with
      | [] =>
        obtain ⟨rfl, _⟩ := List.cons.inj hrest
        cases hb
      | [u] =>
        obtain ⟨_, htail⟩ := List.cons.inj hrest
        obtain ⟨rfl, _⟩ := List.cons.inj htail
        cases hb
      | u :: v :: us =>
        obtain ⟨hu, htail⟩ := List.cons.inj hrest
        obtain ⟨hv, _⟩ := List.cons.inj htail
        exact hother table field us ht (by rw [hu, hv])
    | case3 =>
      cases b with
      | name s => cases hb
      | _ => simp [qualified]

@[simp] theorem qualified_column (c : Column) : qualified c.tokens = [c] := rfl

@[simp] theorem qualified_singleton (t : Token) : qualified [t] = [] := by
  cases t <;> rfl

/-! ## Clauses in the text -/

theorem infix_intersperse {sep p : List Token} {ps : List (List Token)} (hp : p ∈ ps) :
    p <:+: (ps.intersperse sep).flatten := by
  apply List.infix_of_mem_flatten
  induction ps with
  | nil => cases hp
  | cons q ps ih =>
    cases ps with
    | nil => exact hp
    | cons r rs =>
      rw [List.intersperse_cons_cons]
      rcases List.mem_cons.1 hp with rfl | hp
      · exact List.mem_cons_self
      · exact List.mem_cons_of_mem _ (List.mem_cons_of_mem _ (ih hp))

theorem infix_spaced {p : List Token} {ps : List (List Token)} (hp : p ∈ ps) :
    p <:+: spaced ps := by
  cases p with
  | nil => exact List.nil_infix
  | cons t ts => exact infix_intersperse (List.mem_filter.2 ⟨hp, rfl⟩)

theorem infix_commaSeparated {p : List Token} {ps : List (List Token)} (hp : p ∈ ps) :
    p <:+: commaSeparated ps := by
  induction ps with
  | nil => cases hp
  | cons q ps ih =>
    cases ps with
    | nil =>
      obtain rfl := List.mem_singleton.1 hp
      exact List.infix_refl _
    | cons r rs =>
      rw [commaSeparated]
      · rcases List.mem_cons.1 hp with rfl | hp
        · rw [List.append_assoc]
          exact (List.prefix_append _ _).isInfix
        · exact (ih hp).trans (List.suffix_append _ _).isInfix
      · exact fun h => nomatch h

/-- Every column of the result stands in the text of a statement. -/
theorem Statement.infix_output {s : Statement} {o : Output} (ho : o ∈ s.outputs) :
    o.tokens <:+: s.tokens := by
  have hlist : o.tokens <:+: commaSeparated (s.outputs.map Output.tokens) :=
    infix_commaSeparated (List.mem_map_of_mem ho)
  have hselect : commaSeparated (s.outputs.map Output.tokens) <:+: s.selectTokens :=
    (List.suffix_append _ _).isInfix
  exact (hlist.trans hselect).trans (infix_spaced (by simp))

/-- Every condition stands in the text of a statement. -/
theorem Statement.infix_condition {s : Statement} {t : Condition} (ht : t ∈ s.conditions) :
    t.tokens <:+: s.tokens := by
  have hlist : t.tokens <:+: Condition.allTokens s.conditions :=
    infix_intersperse (List.mem_map_of_mem ht)
  have hwhere : Condition.allTokens s.conditions <:+: Condition.clause s.conditions := by
    cases hconditions : s.conditions with
    | nil => simp [hconditions] at ht
    | cons c cs => exact (List.suffix_append ([.word "WHERE", .space] : List Token) _).isInfix
  exact (hlist.trans hwhere).trans (infix_spaced (by simp))

end QueryLoom.Sql
