import QueryLoom.Model
import QueryLoom.Sql.Statement

/-!
# The walk along declared joins

1. A breadth-first walk over the selected tables starts at the base table and follows declared
   joins in either direction. `JoinStep` is a join it takes and the table that the join brings in.
2. `JoinWalk.expand` takes the steps out of one table, `JoinWalk.rounds` takes the tables off a queue
   and expands each. Both keep the list of tables still waiting to be reached; it shrinks with every
   step, so the walk ends.
3. `Source.of?` is the source of a statement: the base table and the tables the walk reaches. A
   table out of reach is left out.
-/

namespace QueryLoom

open Sql

/-- A join taken by the walk, and the table it brings in. -/
structure JoinStep where
  table : String
  join : Join
deriving DecidableEq, Repr

namespace JoinWalk

/-- The steps from a table to waiting ones, in the order of the joins, and the tables that wait
after them. -/
def expand (table : String) : List Join → List String → List JoinStep × List String
  | [], waiting => ([], waiting)
  | j :: js, waiting =>
    let other := j.opposite table
    if j.touches table && waiting.contains other then
      let rest := expand table js (waiting.filter (· ≠ other))
      (⟨other, j⟩ :: rest.1, rest.2)
    else expand table js waiting

/-- Every step takes a table off the waiting list. -/
theorem length_expand (table : String) (js : List Join) (waiting : List String) :
    (expand table js waiting).1.length + (expand table js waiting).2.length ≤ waiting.length := by
  induction js generalizing waiting with
  | nil => simp [expand]
  | cons j js ih =>
    simp only [expand]
    split
    · rename_i h
      have hmem : j.opposite table ∈ waiting := by simp_all
      have hlt : (waiting.filter (· ≠ j.opposite table)).length < waiting.length :=
        List.length_filter_lt_length_iff_exists.2 ⟨_, hmem, by simp⟩
      have := ih (waiting.filter (· ≠ j.opposite table))
      simp only [List.length_cons]
      omega
    · exact ih waiting

/-- A round of the walk: the table taken off the queue, and the steps out of it. -/
structure Round where
  table : String
  steps : List JoinStep
deriving DecidableEq, Repr

/-- The rounds of the walk, first come first served: the tables that a round brings in go to the
end of the queue. -/
def rounds (js : List Join) (queue waiting : List String) : List Round :=
  match queue with
  | [] => []
  | table :: queue =>
    let e := expand table js waiting
    ⟨table, e.1⟩ :: rounds js (queue ++ e.1.map (·.table)) e.2
termination_by queue.length + waiting.length
decreasing_by
  have := length_expand table js waiting
  simp only [List.length_append, List.length_map, List.length_cons]
  omega

end JoinWalk

/-- The rounds of the walk over the selected tables, from the base table. -/
def Model.rounds (m : Model) (js : List Join) : List JoinWalk.Round :=
  match m.tableNames with
  | [] => []
  | base :: others => JoinWalk.rounds js [base] (others.filter (· ≠ base))

/-- The steps of the walk over the selected tables. -/
def Model.walk (m : Model) (js : List Join) : List JoinStep :=
  (m.rounds js).flatMap (·.steps)

/-- The join of a step as part of a source. Its condition keeps the sides as declared. -/
def JoinStep.link (s : JoinStep) : Link where
  kind := s.join.kind
  table := s.table
  left := ⟨s.join.left, s.join.key.left⟩
  right := ⟨s.join.right, s.join.key.right⟩

/-- The tables of a model as the source of a statement. -/
def Sql.Source.of? (m : Model) (js : List Join) : Option Source :=
  m.base?.map fun base => ⟨base, (m.walk js).map JoinStep.link⟩

end QueryLoom
