/-!
# Patterns in texts

1. `Pattern` is a regular expression over classes of characters, with numbered groups.
2. `Pattern.ways` lists how a pattern matches the beginning of a text, the way it prefers first.
3. `Pattern.occurrences` are the matches of a pattern in a text from left to right, none of which
   begins before the end of the one before it.
-/

namespace QueryLoom.Text

/-- A regular expression. -/
inductive Pattern where
  /-- One character of a class. -/
  | one (p : Char → Bool)
  /-- Characters of a class, rather more than fewer. -/
  | many (p : Char → Bool)
  /-- One pattern after another. -/
  | seq (first second : Pattern)
  /-- One of two patterns, rather the first. -/
  | choice (first second : Pattern)
  | group (number : Nat) (inner : Pattern)

/-- How the beginning of a text is matched: what is taken of it, what stands in which group, and
what is left. -/
structure Pattern.Way where
  taken : List Char
  groups : List (Nat × List Char) := []
  rest : List Char
deriving DecidableEq, Repr

/-- A match in a text: the place of its first character, the place behind its last one, and what
stands in which group. -/
structure Pattern.Occurrence where
  start : Nat
  stop : Nat
  groups : List (Nat × List Char)
deriving DecidableEq, Repr

namespace Pattern

namespace Way

/-- One more character taken in front. -/
def cons (c : Char) (w : Way) : Way := { w with taken := c :: w.taken }

/-- One way after another. -/
def append (w v : Way) : Way := ⟨w.taken ++ v.taken, w.groups ++ v.groups, v.rest⟩

/-- What is taken stands in a group. -/
def inGroup (number : Nat) (w : Way) : Way := { w with groups := (number, w.taken) :: w.groups }

end Way

/-- The ways of taking characters of a class, the longest first. -/
def runs (p : Char → Bool) : List Char → List Way
  | [] => [{ taken := [], rest := [] }]
  | c :: cs => (if p c then (runs p cs).map (.cons c) else []) ++ [{ taken := [], rest := c :: cs }]

/-- The ways in which a pattern matches the beginning of a text, in the order of preference. -/
def ways : Pattern → List Char → List Way
  | .one _, [] => []
  | .one p, c :: cs => if p c then [{ taken := [c], rest := cs }] else []
  | .many p, cs => runs p cs
  | .seq a b, cs => (ways a cs).flatMap fun w => (ways b w.rest).map w.append
  | .choice a b, cs => ways a cs ++ ways b cs
  | .group number a, cs => (ways a cs).map (.inGroup number)

/-- The preferred match of the beginning of a text. -/
def first? (p : Pattern) (cs : List Char) : Option Way := (p.ways cs).head?

/-- The matches in a text that begins at a place. A pattern is meant to take at least one
character; the search goes on behind what was taken. -/
def occurrencesFrom (p : Pattern) (place : Nat) : List Char → List Occurrence
  | [] => []
  | c :: cs =>
    match p.first? (c :: cs) with
    | none => occurrencesFrom p (place + 1) cs
    | some w =>
      let length := w.taken.length
      ⟨place, place + length, w.groups⟩ ::
        occurrencesFrom p (place + max length 1) (cs.drop (length - 1))
termination_by cs => cs.length
decreasing_by
  · exact Nat.lt_succ_self _
  · rw [List.length_drop]
    exact Nat.lt_succ_of_le (Nat.sub_le _ _)

/-- The matches in a text. -/
def occurrences (p : Pattern) (cs : List Char) : List Occurrence := p.occurrencesFrom 0 cs

/-- What stands in a group, if the match has it. -/
def Occurrence.group? (o : Occurrence) (number : Nat) : Option (List Char) :=
  o.groups.lookup number

end Pattern

end QueryLoom.Text
