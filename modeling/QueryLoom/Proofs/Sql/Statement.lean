import QueryLoom.Proofs.Sql.Lexing
import QueryLoom.Sql.Statement

/-!
# Statements can be read back

Every part of a statement is written as whole tokens that do not touch, so reading the text of a
statement gives back its tokens (`Statement.scan_render`). Only the keywords of aggregate functions
have to be checked: everything else is a quoted name, a quoted text, a number or a fixed word.

1. **Gaps**: readable parts with a space, a comma or `AND` between them are readable.
2. **Parts**: literals, columns, expressions, conditions, joins and clauses are readable.
-/

namespace QueryLoom.Sql

open Token

/-! ## Gaps -/

theorem readable_nil : Readable [] := ⟨by simp, List.IsChain.nil⟩

theorem readable_singleton {t : Token} : Readable [t] ↔ t.IsWhole := by
  constructor
  · intro h
    exact h.whole t List.mem_cons_self
  · intro h
    exact ⟨by simpa using h, List.IsChain.singleton t⟩

theorem readable_cons_cons {t u : Token} {ts : List Token} :
    Readable (t :: u :: ts) ↔ t.IsWhole ∧ t.apart u = true ∧ Readable (u :: ts) := by
  constructor
  · rintro ⟨hwhole, hapart⟩
    rw [List.isChain_cons_cons] at hapart
    exact ⟨hwhole t List.mem_cons_self, hapart.1,
      fun x hx => hwhole x (List.mem_cons_of_mem t hx), hapart.2⟩
  · rintro ⟨ht, htu, hwhole, hapart⟩
    refine ⟨?_, List.isChain_cons_cons.2 ⟨htu, hapart⟩⟩
    intro x hx
    rcases List.mem_cons.1 hx with rfl | hx
    · exact ht
    · exact hwhole x hx

theorem apart_space (t : Token) : t.apart .space = true := by
  cases t <;> rfl

theorem apart_symbol {c : Char} (hc : c ≠ '.') (t : Token) : t.apart (.symbol c) = true := by
  cases t with
  | number digits => simpa [Token.apart] using hc
  | _ => rfl

theorem symbol_apart (c : Char) (t : Token) : (Token.symbol c).apart t = true := by
  cases t <;> rfl

/-- Readable parts stay readable with a token between them that touches nothing. -/
theorem Readable.append_cons {xs ys : List Token} {g : Token} (hx : Readable xs)
    (hg : ∀ t : Token, t.apart g = true) (hy : Readable (g :: ys)) : Readable (xs ++ g :: ys) := by
  refine ⟨?_, ?_⟩
  · intro t ht
    rcases List.mem_append.1 ht with ht | ht
    · exact hx.whole t ht
    · exact hy.whole t ht
  · refine List.isChain_append.2 ⟨hx.apart, hy.apart, ?_⟩
    intro t _ u hu
    obtain rfl : g = u := by simpa using hu
    exact hg t

theorem Readable.cons_gap {ys : List Token} {g : Token} (hwhole : g.IsWhole)
    (hg : ∀ t, g.apart t = true) (hy : Readable ys) : Readable (g :: ys) := by
  cases ys with
  | nil => exact readable_singleton.2 hwhole
  | cons y ys => exact readable_cons_cons.2 ⟨hwhole, hg y, hy⟩

theorem Readable.cons_space {ys : List Token} (hy : Readable ys) : Readable (.space :: ys) :=
  hy.cons_gap trivial fun _ => rfl

theorem Readable.cons_symbol {ys : List Token} {c : Char} (hc : isSymbol c = true)
    (hy : Readable ys) : Readable (.symbol c :: ys) :=
  hy.cons_gap hc (symbol_apart c)

/-- A token with a space after it. -/
theorem Readable.token_space {ys : List Token} {t : Token} (ht : t.IsWhole) (hy : Readable ys) :
    Readable (t :: .space :: ys) :=
  readable_cons_cons.2 ⟨ht, apart_space t, hy.cons_space⟩

/-- A fixed word with a space after it. -/
theorem Readable.word_space {ys : List Token} {s : String} (hy : Readable ys)
    (hs : isWord s.toList = true) : Readable (.word s :: .space :: ys) :=
  hy.token_space hs

/-- Readable parts with a space between them. -/
theorem Readable.append_space {xs ys : List Token} (hx : Readable xs) (hy : Readable ys) :
    Readable (xs ++ .space :: ys) :=
  hx.append_cons apart_space hy.cons_space

/-- A list of tokens that may stand between readable parts. -/
def IsGap (sep : List Token) : Prop :=
  ∀ xs ys, Readable xs → Readable ys → Readable (xs ++ sep ++ ys)

theorem isGap_space : IsGap [.space] := by
  intro xs ys hx hy
  rw [List.append_assoc]
  exact hx.append_space hy

theorem isGap_comma : IsGap [.symbol ',', .space] := by
  intro xs ys hx hy
  rw [List.append_assoc]
  exact hx.append_cons (apart_symbol (by decide)) (hy.cons_space.cons_symbol rfl)

theorem isGap_and : IsGap [.space, .word "AND", .space] := by
  intro xs ys hx hy
  rw [List.append_assoc]
  exact hx.append_space (hy.word_space rfl)

theorem Readable.intersperse {sep : List Token} (hsep : IsGap sep) {ps : List (List Token)}
    (h : ∀ p ∈ ps, Readable p) : Readable (ps.intersperse sep).flatten := by
  induction ps with
  | nil => exact readable_nil
  | cons p ps ih =>
    have hp : Readable p := h p List.mem_cons_self
    have hps := ih fun q hq => h q (List.mem_cons_of_mem p hq)
    cases ps with
    | nil => simpa using hp
    | cons q qs =>
      rw [List.intersperse_cons_cons, List.flatten_cons, List.flatten_cons, ← List.append_assoc]
      exact hsep p _ hp hps

theorem Readable.spaced {parts : List (List Token)} (h : ∀ p ∈ parts, Readable p) :
    Readable (spaced parts) :=
  Readable.intersperse isGap_space fun p hp => h p (List.mem_filter.1 hp).1

theorem Readable.commaSeparated {ps : List (List Token)} (h : ∀ p ∈ ps, Readable p) :
    Readable (commaSeparated ps) := by
  induction ps with
  | nil => exact readable_nil
  | cons p ps ih =>
    have hp : Readable p := h p List.mem_cons_self
    have hps := ih fun q hq => h q (List.mem_cons_of_mem p hq)
    cases ps with
    | nil => exact hp
    | cons q qs => exact isGap_comma p _ hp hps

/-! ## Parts of a statement -/

theorem isWhole_literal (v : Value) : (literal v).IsWhole := by
  cases v with
  | null => rfl
  | integer n => exact Decimal.isNumeral_integer n.toInt
  | real x =>
    simp only [literal]
    split
    · rename_i hx
      exact Decimal.Layout.isNumeral_write ⟨rfl, rfl, rfl⟩ hx
    · rfl
  | text s => trivial

theorem isWhole_natural (n : Nat) : (Token.number (Decimal.natural n)).IsWhole :=
  .plain (.whole (Decimal.isDigits_natural n))

theorem isWhole_keyword (k : JoinKind) : (Token.word k.keyword).IsWhole := by
  cases k <;> rfl

/-- The aggregate function of an expression. -/
def Expr.function? : Expr → Option Aggregation
  | .aggregate f _ | .aggregateWhere f _ _ _ => some f
  | .column _ | .one | .all => none

/-- An expression whose aggregate function, if it has one, has a bare word for a keyword. -/
def Expr.HasWord (e : Expr) : Prop := ∀ f ∈ e.function?, isWord f.keyword.toList = true

theorem Column.readable_tokens (c : Column) : Readable c.tokens := by
  have hfield : Readable [.name c.field] := readable_singleton.2 trivial
  exact readable_cons_cons.2 ⟨trivial, rfl, hfield.cons_symbol rfl⟩

theorem Expr.readable_tokens {e : Expr} (h : e.HasWord) : Readable e.tokens := by
  cases e with
  | column c => exact c.readable_tokens
  | aggregate f c =>
    have harg : Readable (c.tokens ++ [.symbol ')']) :=
      c.readable_tokens.append_cons (apart_symbol (by decide)) (readable_singleton.2 rfl)
    exact readable_cons_cons.2 ⟨h f rfl, rfl, harg.cons_symbol rfl⟩
  | aggregateWhere f c v measure =>
    have hend : Readable [.word "END", .symbol ')'] :=
      readable_cons_cons.2 ⟨rfl, rfl, readable_singleton.2 rfl⟩
    have hthen : Readable (.word "THEN" :: .space :: (measure.tokens ++ .space :: _)) :=
      (measure.readable_tokens.append_space hend).word_space rfl
    have hequals : Readable ([.symbol '=', .space, literal v] ++ .space :: _) :=
      ((hthen.token_space (isWhole_literal v)).cons_space).cons_symbol rfl
    have hwhen : Readable (.word "WHEN" :: .space :: (c.tokens ++ .space :: _)) :=
      (c.readable_tokens.append_space hequals).word_space rfl
    exact readable_cons_cons.2 ⟨h f rfl, rfl, (hwhen.word_space rfl).cons_symbol rfl⟩
  | one => exact readable_singleton.2 (isWhole_natural 1)
  | all => exact readable_singleton.2 rfl

theorem Output.readable_tokens {o : Output} (h : o.expr.HasWord) : Readable o.tokens := by
  rw [Output.tokens]
  cases o.name with
  | none => simpa using Expr.readable_tokens h
  | some n =>
    have hname : Readable [.name n] := readable_singleton.2 trivial
    exact (Expr.readable_tokens h).append_space (hname.word_space rfl)

theorem Condition.readable_tokens (c : Condition) : Readable c.tokens := by
  have hcompare : ∀ (x : Char) (v : Value), isSymbol x = true →
      Readable [.symbol x, .space, literal v] := by
    intro x v hx
    exact ((readable_singleton.2 (isWhole_literal v)).cons_space).cons_symbol hx
  cases c with
  | equals c v => exact c.readable_tokens.append_space (hcompare '=' v rfl)
  | greater c v => exact c.readable_tokens.append_space (hcompare '>' v rfl)
  | less c v => exact c.readable_tokens.append_space (hcompare '<' v rfl)
  | like c pattern =>
    have htext : Readable [.text pattern] := readable_singleton.2 trivial
    exact c.readable_tokens.append_space (htext.word_space rfl)
  | present c =>
    have hnull : Readable [.word "NULL"] := readable_singleton.2 rfl
    exact c.readable_tokens.append_space ((hnull.word_space rfl).word_space rfl)

theorem Condition.readable_clause (cs : List Condition) : Readable (Condition.clause cs) := by
  rw [Condition.clause]
  split
  · exact readable_nil
  · refine Readable.word_space ?_ rfl
    apply Readable.intersperse isGap_and
    intro p hp
    obtain ⟨c, _, rfl⟩ := List.mem_map.1 hp
    exact c.readable_tokens

theorem Link.readable_tokens (l : Link) : Readable l.tokens := by
  have hequals : Readable (l.left.tokens ++ .space :: .symbol '=' :: .space :: l.right.tokens) :=
    l.left.readable_tokens.append_space (l.right.readable_tokens.cons_space.cons_symbol rfl)
  have htable : Readable (.name l.table :: .space :: .word "ON" :: .space :: _) :=
    (hequals.word_space rfl).token_space trivial
  exact (htable.word_space rfl).token_space (isWhole_keyword l.kind)

theorem Source.readable_clause (s : Option Source) : Readable (Source.clause s) := by
  cases s with
  | none => exact readable_nil
  | some s =>
    apply Readable.spaced
    intro p hp
    rcases List.mem_cons.1 hp with rfl | hp
    · have hbase : Readable [.name s.base] := readable_singleton.2 trivial
      exact hbase.word_space rfl
    · obtain ⟨l, _, rfl⟩ := List.mem_map.1 hp
      exact l.readable_tokens

/-! ## Statements -/

namespace Statement

/-- Every aggregate function of a statement has a bare word for a keyword. -/
def HasWords (s : Statement) : Prop := ∀ o ∈ s.outputs, o.expr.HasWord

theorem readable_selectTokens {s : Statement} (h : s.HasWords) : Readable s.selectTokens := by
  have houtputs : Readable (commaSeparated (s.outputs.map Output.tokens)) := by
    apply Readable.commaSeparated
    intro p hp
    obtain ⟨o, ho, rfl⟩ := List.mem_map.1 hp
    exact Output.readable_tokens (h o ho)
  rw [selectTokens]
  cases s.distinct with
  | false => exact houtputs.word_space rfl
  | true => exact (houtputs.word_space rfl).word_space rfl

theorem readable_groupTokens (s : Statement) : Readable s.groupTokens := by
  rw [groupTokens]
  split
  · exact readable_nil
  · have hgroups : Readable (commaSeparated (s.groups.map Column.tokens)) := by
      apply Readable.commaSeparated
      intro p hp
      obtain ⟨c, _, rfl⟩ := List.mem_map.1 hp
      exact c.readable_tokens
    exact (hgroups.word_space rfl).word_space rfl

theorem readable_orderTokens (s : Statement) : Readable s.orderTokens := by
  rw [orderTokens]
  split
  · have hone : Readable [.number ['1']] := readable_singleton.2 (isWhole_natural 1)
    exact (hone.word_space rfl).word_space rfl
  · exact readable_nil

theorem readable_limitTokens (s : Statement) : Readable s.limitTokens := by
  rw [limitTokens]
  cases s.limit with
  | none => exact readable_nil
  | some n =>
    have hnumber : Readable [.number (Decimal.natural n)] :=
      readable_singleton.2 (isWhole_natural n)
    exact hnumber.word_space rfl

theorem readable_tokens {s : Statement} (h : s.HasWords) : Readable s.tokens := by
  apply Readable.spaced
  intro p hp
  simp only [List.mem_cons, List.not_mem_nil, or_false] at hp
  rcases hp with rfl | rfl | rfl | rfl | rfl | rfl
  · exact readable_selectTokens h
  · exact Source.readable_clause s.source
  · exact Condition.readable_clause s.conditions
  · exact s.readable_groupTokens
  · exact s.readable_orderTokens
  · exact s.readable_limitTokens

/-- Reading the text of a statement gives back its tokens. -/
theorem scan_render {s : Statement} (h : s.HasWords) (d : Dialect) :
    Token.scan d.quotes (s.render d).toList = .ok s.tokens := by
  rw [render, Token.render, String.toList_ofList]
  exact scan_writeAll (suits_dialect d) (readable_tokens h)

end Statement

end QueryLoom.Sql
