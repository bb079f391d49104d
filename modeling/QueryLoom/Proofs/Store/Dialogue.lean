import QueryLoom.Store.Script

/-!
# What a store is asked

`Dialogue.sent` lists the queries that a dialogue sends to a store. A scripted store remembers
exactly these queries (`Script.queries_run`).
-/

namespace QueryLoom

namespace Dialogue

variable {α σ : Type}

/-- The queries that a dialogue sends to a store, in order. -/
def sent (store : Answering σ) (s : σ) : Dialogue α → List String
  | .done _ => []
  | .ask query next =>
    query ::
      match store s query with
      | (.ok rows, s) => (next rows).sent store s
      | (.error _, _) => []

end Dialogue

/-- A scripted store has received the queries sent to it, after those it had received before. -/
theorem Script.queries_run {α : Type} (s : Script) (d : Dialogue α) :
    (d.run Script.answer s).2.queries = s.queries ++ d.sent Script.answer s := by
  induction d generalizing s with
  | done a => simp [Dialogue.run, Dialogue.sent]
  | ask query next ih =>
    have hreceived : (Script.answer s query).2.queries = s.queries ++ [query] := by
      unfold Script.answer
      split <;> simp [Script.queries]
    simp only [Dialogue.run, Dialogue.sent]
    rcases hanswer : Script.answer s query with ⟨answer, s'⟩
    rw [hanswer] at hreceived
    cases answer with
    | ok rows => simp [ih, hreceived]
    | error e => simp [hreceived]

end QueryLoom
