import QueryLoom.Sql.Token

/-!
# Names and texts in quotes

Quoting is undone by a reader that knows the quote character and nothing else of SQL.

1. **A reader**: `readQuoted` takes an opening quote, undoes doubled quotes and stops at the first
   quote that is not doubled. What follows is left as it is.
2. **What it reads**: exactly the quoted texts with something after them that does not begin with the
   quote character (`readQuoted_iff`). No text can therefore be taken apart in two ways
   (`enclose_append_inj`).
3. **Main statement**: `quoting_reads` says this for the names and texts of all dialects, and that
   columns with the same qualified name are the same, whatever characters their names hold.
-/

namespace QueryLoom.Sql

/-! ## A reader -/

/-- Reads from after an opening quote to the quote that closes it: what is quoted, and what
follows. -/
def readInside (q : Char) : List Char → Option (List Char × List Char)
  | [] => none
  | [c] => if c = q then some ([], []) else none
  | c :: next :: cs =>
    if c = q then
      if next = q then (readInside q cs).map fun (s, rest) => (q :: s, rest)
      else some ([], next :: cs)
    else (readInside q (next :: cs)).map fun (s, rest) => (c :: s, rest)

/-- Reads a text that begins with a quote. -/
def readQuoted (q : Char) : List Char → Option (String × List Char)
  | [] => none
  | c :: cs =>
    if c = q then (readInside q cs).map fun (s, rest) => (String.ofList s, rest) else none

/-! ## What it reads -/

variable {q : Char} {s rest rest' : List Char}

theorem doubled_cons_self : doubled q (q :: s) = q :: q :: doubled q s := if_pos rfl

theorem doubled_cons_of_ne {c : Char} (h : c ≠ q) : doubled q (c :: s) = c :: doubled q s := if_neg h

/-- A quote at the beginning of what is quoted comes from a quote, and then a second one follows; or
nothing is quoted and it is the closing one. -/
theorem cons_eq_doubled_append {cs : List Char} (h : q :: cs = doubled q s ++ q :: rest) :
    s = [] ∧ cs = rest ∨ ∃ t, s = q :: t ∧ cs = q :: (doubled q t ++ q :: rest) := by
  cases s with
  | nil => exact .inl ⟨rfl, List.tail_eq_of_cons_eq h⟩
  | cons c t =>
    by_cases hc : c = q
    · subst hc
      rw [doubled_cons_self] at h
      exact .inr ⟨t, rfl, List.tail_eq_of_cons_eq h⟩
    · rw [doubled_cons_of_ne hc] at h
      exact absurd (List.head_eq_of_cons_eq h).symm hc

/-- Any other character at the beginning of what is quoted stands for itself. -/
theorem cons_eq_doubled_append_of_ne {c : Char} {cs : List Char} (hc : c ≠ q)
    (h : c :: cs = doubled q s ++ q :: rest) :
    ∃ t, s = c :: t ∧ cs = doubled q t ++ q :: rest := by
  cases s with
  | nil => exact absurd (List.head_eq_of_cons_eq h) hc
  | cons b t =>
    by_cases hb : b = q
    · subst hb
      rw [doubled_cons_self] at h
      exact absurd (List.head_eq_of_cons_eq h) hc
    · rw [doubled_cons_of_ne hb] at h
      obtain ⟨rfl, hcs⟩ := List.cons.inj h
      exact ⟨t, rfl, hcs⟩

theorem readInside_iff {cs : List Char} :
    readInside q cs = some (s, rest) ↔ cs = doubled q s ++ q :: rest ∧ rest.head? ≠ some q := by
  -- the induction follows the reader: a quote is looked at with the character after it
  induction cs using readInside.induct q generalizing s with
  | case1 => simp [readInside]
  | case2 =>
    rw [readInside, if_pos rfl]
    constructor
    · rintro ⟨⟩
      exact ⟨rfl, by simp⟩
    · rintro ⟨h, -⟩
      obtain ⟨rfl, rfl⟩ | ⟨t, -, ht⟩ := cons_eq_doubled_append h
      · rfl
      · cases ht
  | case3 c hc =>
    rw [readInside, if_neg hc]
    constructor
    · rintro ⟨⟩
    · rintro ⟨h, -⟩
      obtain ⟨t, -, ht⟩ := cons_eq_doubled_append_of_ne hc h
      simp at ht
  | case4 cs ih =>
    rw [readInside, if_pos rfl, if_pos rfl, Option.map_eq_some_iff]
    constructor
    · rintro ⟨⟨t, _⟩, ht, ⟨⟩⟩
      obtain ⟨hcs, hrest⟩ := ih.1 ht
      exact ⟨by rw [doubled_cons_self, List.cons_append, List.cons_append, hcs], hrest⟩
    · rintro ⟨h, hrest⟩
      obtain ⟨-, rfl⟩ | ⟨t, rfl, ht⟩ := cons_eq_doubled_append h
      · -- no quote follows the closing one
        exact absurd rfl hrest
      · exact ⟨(t, rest), ih.2 ⟨List.tail_eq_of_cons_eq ht, hrest⟩, rfl⟩
  | case5 next cs hnext =>
    rw [readInside, if_pos rfl, if_neg hnext]
    constructor
    · rintro ⟨⟩
      exact ⟨rfl, by simpa using hnext⟩
    · rintro ⟨h, -⟩
      obtain ⟨rfl, rfl⟩ | ⟨t, -, ht⟩ := cons_eq_doubled_append h
      · rfl
      · exact absurd (List.head_eq_of_cons_eq ht) hnext
  | case6 c next cs hc ih =>
    rw [readInside, if_neg hc, Option.map_eq_some_iff]
    constructor
    · rintro ⟨⟨t, _⟩, ht, ⟨⟩⟩
      obtain ⟨hcs, hrest⟩ := ih.1 ht
      exact ⟨by rw [doubled_cons_of_ne hc, List.cons_append, hcs], hrest⟩
    · rintro ⟨h, hrest⟩
      obtain ⟨t, rfl, ht⟩ := cons_eq_doubled_append_of_ne hc h
      exact ⟨(t, rest), ih.2 ⟨ht, hrest⟩, rfl⟩

/-- A text is read exactly as it was quoted, unless one more quote follows. -/
theorem readQuoted_iff {s : String} {cs : List Char} :
    readQuoted q cs = some (s, rest) ↔
      cs = enclose q s.toList ++ rest ∧ rest.head? ≠ some q := by
  have henclose : enclose q s.toList ++ rest = q :: (doubled q s.toList ++ q :: rest) := by
    simp [enclose]
  rw [henclose]
  cases cs with
  | nil => simp [readQuoted]
  | cons c cs =>
    rw [readQuoted]
    by_cases hc : c = q
    · rw [if_pos hc, Option.map_eq_some_iff]
      constructor
      · rintro ⟨⟨t, _⟩, ht, ⟨⟩⟩
        obtain ⟨hcs, hrest⟩ := readInside_iff.1 ht
        exact ⟨by rw [hc, hcs, String.toList_ofList], hrest⟩
      · rintro ⟨h, hrest⟩
        exact ⟨(s.toList, rest), readInside_iff.2 ⟨List.tail_eq_of_cons_eq h, hrest⟩,
          congrArg (·, rest) String.ofList_toList⟩
    · rw [if_neg hc]
      constructor
      · rintro ⟨⟩
      · rintro ⟨h, -⟩
        exact absurd (List.head_eq_of_cons_eq h) hc

/-- Two quoted texts are told apart by their beginnings, if neither goes on with the quote
character. -/
theorem enclose_append_inj {s t : String} (h : rest.head? ≠ some q) (h' : rest'.head? ≠ some q)
    (heq : enclose q s.toList ++ rest = enclose q t.toList ++ rest') : s = t ∧ rest = rest' := by
  have hs : readQuoted q (enclose q s.toList ++ rest) = some (s, rest) :=
    readQuoted_iff.2 ⟨rfl, h⟩
  have ht : readQuoted q (enclose q t.toList ++ rest') = some (t, rest') :=
    readQuoted_iff.2 ⟨rfl, h'⟩
  rw [heq, ht] at hs
  obtain ⟨rfl, rfl⟩ := Prod.mk.inj (Option.some.inj hs)
  exact ⟨rfl, rfl⟩

/-! ## Main statement -/

theorem Column.write_tokens (d : Dialect) (c : Column) :
    Token.writeAll d c.tokens =
      enclose d.identifierQuote c.table.toList ++
        '.' :: enclose d.identifierQuote c.field.toList := by
  simp [Token.writeAll, Column.tokens, Token.write]

/-- Qualified names are told apart by their beginnings. The point between the two names is no quote,
so that the first name ends before it. -/
theorem Column.write_tokens_append_inj (d : Dialect) {c c' : Column}
    (h : rest.head? ≠ some d.identifierQuote) (h' : rest'.head? ≠ some d.identifierQuote)
    (heq : Token.writeAll d c.tokens ++ rest = Token.writeAll d c'.tokens ++ rest') :
    c = c' ∧ rest = rest' := by
  have hpoint : '.' ≠ d.identifierQuote := by cases d <;> decide
  rw [write_tokens, write_tokens, List.append_assoc, List.append_assoc] at heq
  obtain ⟨htable, hfield⟩ := enclose_append_inj (by simpa using hpoint) (by simpa using hpoint) heq
  obtain ⟨hfield, hrest⟩ := enclose_append_inj h h' (List.tail_eq_of_cons_eq hfield)
  cases c
  cases c'
  exact ⟨congr (congrArg Column.mk htable) hfield, hrest⟩

/-- In every dialect, a reader that undoes doubled quotes and stops at the first other one reads the
quoted name `s` and leaves `rest` if and only if it is given the quoted name with `rest` after it,
and `rest` does not begin with one more quote; in the same way for texts in single quotes. Therefore
two columns have the same qualified name only if they are the same column. -/
theorem quoting_reads (d : Dialect) :
    (∀ (s : String) (cs rest : List Char),
      readQuoted d.identifierQuote cs = some (s, rest) ↔
        cs = (Token.name s).write d ++ rest ∧ rest.head? ≠ some d.identifierQuote) ∧
    (∀ (s : String) (cs rest : List Char),
      readQuoted '\'' cs = some (s, rest) ↔
        cs = (Token.text s).write d ++ rest ∧ rest.head? ≠ some '\'') ∧
    ∀ c c' : Column, Token.render d c.tokens = Token.render d c'.tokens ↔ c = c' := by
  refine ⟨fun s cs rest => readQuoted_iff, fun s cs rest => readQuoted_iff, ?_⟩
  intro c c'
  constructor
  · intro h
    have hnil : ([] : List Char).head? ≠ some d.identifierQuote := by simp
    have hwrite : Token.writeAll d c.tokens ++ [] = Token.writeAll d c'.tokens ++ [] := by
      rw [List.append_nil, List.append_nil]
      exact String.ofList_injective h
    exact (Column.write_tokens_append_inj d hnil hnil hwrite).1
  · rintro rfl
    rfl

/-- A table whose name imitates a qualified name. -/
example :
    Token.render .sqlite (Column.tokens ⟨"a\".\"b", "c"⟩) = "\"a\"\".\"\"b\".\"c\"" ∧
    Token.render .sqlite (Column.tokens ⟨"a", "b\".\"c"⟩) = "\"a\".\"b\"\".\"\"c\"" := by
  decide

end QueryLoom.Sql
