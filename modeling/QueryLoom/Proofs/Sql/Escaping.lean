import QueryLoom.Query.Scope

/-!
# Texts under backslash escapes

In MySQL a backslash in a text literal escapes the character after it, next to quotes written twice.
The writer of tokens only writes quotes twice.

1. **Reading**: `readText` reads a literal by the rules of MySQL, `denoted?` is the text that a
   complete literal denotes.
2. **Backslashes**: `Harmless` texts have backslashes only before wildcards, where they stay.
3. **Written texts**: in MySQL a written text denotes itself exactly if it is harmless
   (`denoted?_text_iff`). So a text literal of any other text denotes something else or has no end
   (`not_denotes_all`).
-/

namespace QueryLoom.Sql

/-! ## Reading -/

/-- What a backslash and the character after it stand for. Before a wildcard of patterns the
backslash stays, so that a pattern can ask for the wildcard itself. -/
def escaped (c : Char) : List Char :=
  if c = '0' then ['\x00']
  else if c = 'b' then ['\x08']
  else if c = 'n' then ['\n']
  else if c = 'r' then ['\r']
  else if c = 't' then ['\t']
  else if c = 'Z' then ['\x1a']
  else if c = '%' ∨ c = '_' then ['\\', c]
  else [c]

/-- Reads a text literal after its opening quote: the text it denotes, and what follows the quote
that ends it. A literal without such a quote denotes nothing. -/
def readText : List Char → Option (List Char × List Char)
  | [] => none
  | ['\\'] => none
  | '\\' :: c :: cs => (readText cs).map fun r => (escaped c ++ r.1, r.2)
  | '\'' :: '\'' :: cs => (readText cs).map fun r => ('\'' :: r.1, r.2)
  | '\'' :: cs => some ([], cs)
  | c :: cs => (readText cs).map fun r => (c :: r.1, r.2)

/-- The text that a literal denotes, if it ends exactly at its last character. -/
def denoted? : List Char → Option (List Char)
  | '\'' :: cs => (readText cs).bind fun r => if r.2.isEmpty then some r.1 else none
  | _ => none

theorem readText_plain {c : Char} (hback : c ≠ '\\') (hquote : c ≠ '\'') (cs : List Char) :
    readText (c :: cs) = (readText cs).map fun r => (c :: r.1, r.2) := by
  rw [readText.eq_def]
  split <;> simp_all

/-- A quote ends the literal unless another one follows. -/
theorem readText_quote {c : Char} (hc : c ≠ '\'') (cs : List Char) :
    readText ('\'' :: c :: cs) = some ([], c :: cs) := by
  rw [readText]
  intro rest hrest
  exact hc (List.cons.inj hrest).1

theorem denoted?_eq_some_iff {cs ds : List Char} :
    denoted? ('\'' :: cs) = some ds ↔ readText cs = some (ds, []) := by
  rw [denoted?, Option.bind_eq_some_iff]
  constructor
  · rintro ⟨⟨text, rest⟩, hread, hrest⟩
    cases rest with
    | nil => simpa [hread] using hrest
    | cons c rest => simp at hrest
  · intro hread
    exact ⟨_, hread, rfl⟩

/-! ## Backslashes -/

/-- Whether backslashes in a text stand only before wildcards. -/
inductive Harmless : List Char → Prop where
  | nil : Harmless []
  | plain {c : Char} {cs : List Char} : c ≠ '\\' → Harmless cs → Harmless (c :: cs)
  | wildcard {c : Char} {cs : List Char} : c = '%' ∨ c = '_' → Harmless cs →
    Harmless ('\\' :: c :: cs)

theorem harmless_of_not_mem {cs : List Char} (h : '\\' ∉ cs) : Harmless cs := by
  induction cs with
  | nil => exact .nil
  | cons c cs ih =>
    rw [List.mem_cons, not_or] at h
    exact .plain (Ne.symm h.1) (ih h.2)

theorem Harmless.append {cs ds : List Char} (hcs : Harmless cs) (hds : Harmless ds) :
    Harmless (cs ++ ds) := by
  induction hcs with
  | nil => exact hds
  | plain hback _ ih => exact .plain hback ih
  | wildcard hc _ ih => exact .wildcard hc ih

theorem escaped_of_wildcard {c : Char} (h : c = '%' ∨ c = '_') : escaped c = ['\\', c] := by
  rcases h with rfl | rfl <;> rfl

/-- An escape stands for fewer characters than it has, except before a wildcard. -/
theorem length_escaped {c : Char} (h : ¬ (c = '%' ∨ c = '_')) : (escaped c).length = 1 := by
  simp only [escaped, if_neg h]
  repeat' split
  all_goals rfl

/-! ## Written texts -/

/-- The characters of a text between quotes, with the quote that ends them. -/
def quotedTail (cs : List Char) : List Char := doubled '\'' cs ++ ['\'']

theorem quotedTail_quote (cs : List Char) :
    quotedTail ('\'' :: cs) = '\'' :: '\'' :: quotedTail cs := rfl

theorem quotedTail_plain {c : Char} (h : c ≠ '\'') (cs : List Char) :
    quotedTail (c :: cs) = c :: quotedTail cs := by
  rw [quotedTail, doubled, if_neg h]
  rfl

theorem Harmless.readText_quotedTail {cs : List Char} (h : Harmless cs) :
    readText (quotedTail cs) = some (cs, []) := by
  induction h with
  | nil => rfl
  | @plain c cs hback _ ih =>
    by_cases hquote : c = '\''
    · subst hquote
      rw [quotedTail_quote, readText, ih]
      rfl
    · rw [quotedTail_plain hquote, readText_plain hback hquote, ih]
      rfl
  | @wildcard c cs hc _ ih =>
    have hquote : c ≠ '\'' := by rcases hc with rfl | rfl <;> decide
    rw [quotedTail_plain (by decide), quotedTail_plain hquote, readText, ih,
      escaped_of_wildcard hc]
    rfl

/-- After an escaped quote the other one of its pair is out of step: it ends the literal too early,
or takes the quote that should end it. -/
theorem readText_quote_quotedTail (cs ds : List Char) :
    readText ('\'' :: quotedTail cs) ≠ some (ds, []) := by
  induction cs generalizing ds with
  | nil => nofun
  | cons c cs ih =>
    by_cases hquote : c = '\''
    · subst hquote
      intro hread
      rw [quotedTail_quote, readText, Option.map_eq_some_iff] at hread
      obtain ⟨⟨text, rest⟩, hread, hrest⟩ := hread
      cases hrest
      exact ih text hread
    · rw [quotedTail_plain hquote, readText_quote hquote]
      nofun

/-- A backslash before a quote leaves no complete literal; before another character it is read with
it. -/
theorem readText_backslash {c : Char} {cs ds : List Char}
    (h : readText (quotedTail ('\\' :: c :: cs)) = some (ds, [])) :
    c ≠ '\'' ∧ ∃ text, readText (quotedTail cs) = some (text, []) ∧ escaped c ++ text = ds := by
  rw [quotedTail_plain (by decide)] at h
  by_cases hquote : c = '\''
  · subst hquote
    rw [quotedTail_quote, readText, Option.map_eq_some_iff] at h
    obtain ⟨⟨text, rest⟩, hread, hrest⟩ := h
    cases hrest
    exact absurd hread (readText_quote_quotedTail cs text)
  · rw [quotedTail_plain hquote, readText, Option.map_eq_some_iff] at h
    obtain ⟨⟨text, rest⟩, hread, hrest⟩ := h
    cases hrest
    exact ⟨hquote, text, hread, rfl⟩

/-- Every other character is read as itself. -/
theorem readText_unescaped {c : Char} (hback : c ≠ '\\') {cs ds : List Char}
    (h : readText (quotedTail (c :: cs)) = some (ds, [])) :
    ∃ text, readText (quotedTail cs) = some (text, []) ∧ c :: text = ds := by
  have hread : readText (quotedTail (c :: cs)) =
      (readText (quotedTail cs)).map fun r => (c :: r.1, r.2) := by
    by_cases hquote : c = '\''
    · subst hquote
      rw [quotedTail_quote, readText]
    · rw [quotedTail_plain hquote, readText_plain hback hquote]
  rw [hread, Option.map_eq_some_iff] at h
  obtain ⟨⟨text, rest⟩, htext, hrest⟩ := h
  cases hrest
  exact ⟨text, htext, rfl⟩

/-- What is read has no more characters than the text that was written, and fewer unless that text
is harmless. -/
theorem length_of_readText_quotedTail {cs ds : List Char}
    (h : readText (quotedTail cs) = some (ds, [])) :
    ds.length ≤ cs.length ∧ (ds.length = cs.length → Harmless cs) := by
  -- a backslash and the character after it are read in one go
  induction hn : cs.length using Nat.strongRecOn generalizing cs ds with
  | ind n ih =>
    subst hn
    cases cs with
    | nil =>
      cases h
      exact ⟨Nat.le_refl 0, fun _ => .nil⟩
    | cons c cs =>
      by_cases hback : c = '\\'
      · subst hback
        cases cs with
        | nil => cases h
        | cons c cs =>
          obtain ⟨hquote, text, hread, rfl⟩ := readText_backslash h
          obtain ⟨hle, hharmless⟩ := ih cs.length (by simp only [List.length_cons]; omega) hread rfl
          by_cases hwildcard : c = '%' ∨ c = '_'
          · rw [escaped_of_wildcard hwildcard]
            simp only [List.length_append, List.length_cons, List.length_nil]
            exact ⟨by omega, fun hlength => .wildcard hwildcard (hharmless (by omega))⟩
          · simp only [length_escaped hwildcard, List.length_append, List.length_cons]
            exact ⟨by omega, fun hlength => absurd hlength (by omega)⟩
      · obtain ⟨text, hread, rfl⟩ := readText_unescaped hback h
        obtain ⟨hle, hharmless⟩ := ih cs.length (by simp) hread rfl
        simp only [List.length_cons]
        exact ⟨by omega, fun hlength => .plain hback (hharmless (by omega))⟩

/-- A written text denotes itself exactly if it is harmless. -/
theorem denoted?_enclose_iff {cs : List Char} :
    denoted? (enclose '\'' cs) = some cs ↔ Harmless cs := by
  rw [enclose, denoted?_eq_some_iff]
  constructor
  · intro h
    exact (length_of_readText_quotedTail h).2 rfl
  · exact Harmless.readText_quotedTail

/-- In MySQL a text literal that is written denotes its text exactly if all backslashes in the text
stand before wildcards. That goes for the literal of a text value, and for the pattern of a filter
that looks for the text anywhere, which the condition of the filter ends with. -/
theorem denoted?_text_iff (s : String) :
    (denoted? ((Token.text s).write .mysql) = some s.toList ↔ Harmless s.toList) ∧
    (denoted? ((literal (.text s)).write .mysql) = some s.toList ↔ Harmless s.toList) ∧
    ∀ (scope : Scope) (f : Filter) (condition : Condition), f.comparison = .contains →
      f.value.display = s → scope.condition? f = some condition →
        let pattern := "%" ++ s ++ "%"
        ∃ front, Token.writeAll .mysql condition.tokens =
            front ++ (Token.text pattern).write .mysql ∧
          (denoted? ((Token.text pattern).write .mysql) = some pattern.toList ↔
            Harmless pattern.toList) := by
  refine ⟨denoted?_enclose_iff, denoted?_enclose_iff, ?_⟩
  rintro scope f condition hcontains rfl hcondition pattern
  obtain ⟨c, -, hlike⟩ := Option.bind_eq_some_iff.1 hcondition
  rw [hcontains] at hlike
  obtain rfl := Option.some.inj hlike
  refine ⟨Token.writeAll .mysql (c.tokens ++ [.space, .word "LIKE", .space]), ?_,
    denoted?_enclose_iff⟩
  simp [Condition.tokens, Token.writeAll, pattern]

/-- Backslashes before wildcards, quotes and the end of a pattern. -/
theorem denoted?_text_wildcards :
    let scope : Scope := { model := ⟨[("jobs", ["title"])]⟩ }
    let f : Filter := ⟨none, "title", .contains, .text "it's 100\\"⟩
    let condition : Condition := .like ⟨"jobs", "title"⟩ "%it's 100\\%"
    (f.comparison = .contains ∧ f.value.display = "it's 100\\" ∧
        scope.condition? f = some condition) ∧
      ∃ front, Token.writeAll .mysql condition.tokens =
          front ++ (Token.text "%it's 100\\%").write .mysql ∧
        denoted? ((Token.text "%it's 100\\%").write .mysql) = some "%it's 100\\%".toList := by
  intro scope f condition
  have hcondition : scope.condition? f = some condition := rfl
  obtain ⟨front, hwritten, hiff⟩ :=
    (denoted?_text_iff "it's 100\\").2.2 scope f condition rfl rfl hcondition
  have hfront : Harmless "%it's 100".toList := harmless_of_not_mem (by decide)
  have hharmless : Harmless "%it's 100\\%".toList := hfront.append (.wildcard (.inl rfl) .nil)
  exact ⟨⟨rfl, rfl, hcondition⟩, front, hwritten, hiff.2 hharmless⟩

/-- A text literal in MySQL need not denote the text that was written: after a backslash at the end
of the text, the literal has no end. -/
theorem not_denotes_all :
    ¬ ∀ s : String, denoted? ((Token.text s).write .mysql) = some s.toList := by
  intro hall
  exact absurd (hall "\\") (by decide)

end QueryLoom.Sql
