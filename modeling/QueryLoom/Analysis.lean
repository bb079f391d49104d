import QueryLoom.Assistant.Chat
import QueryLoom.Assistant.Reply
import QueryLoom.Request
import QueryLoom.Store.Dialogue

/-!
# Analyses

1. `Analysis` is the state that the assistant may change: pivot layout and filters.
2. `Analysis.apply` applies an action. Only a query asks the store; if the store fails, nothing
   has changed.
3. `Filter.identify` gives an id to a filter that has none, from a supply of fresh ids.
-/

namespace QueryLoom

/-- A supply of fresh ids: the id of each number, and the number of the next. -/
structure IdSupply where
  id : Nat → String
  next : Nat := 0

/-- The filter with an id: its own or, if it has none, the next fresh one. -/
def Filter.identify (f : Filter) (ids : IdSupply) : Filter × IdSupply :=
  match f.id with
  | some _ => (f, ids)
  | none => ({ f with id := some (ids.id ids.next) }, { ids with next := ids.next + 1 })

/-- The filters with ids, given out in order. -/
def Filter.identifyAll (ids : IdSupply) : List Filter → List Filter × IdSupply
  | [] => ([], ids)
  | f :: fs =>
    let g := f.identify ids
    let gs := identifyAll g.2 fs
    (g.1 :: gs.1, gs.2)

/-- A pivot layout and filters. -/
structure Analysis where
  pivot : Pivot := {}
  filters : List Filter := []
deriving Repr, Inhabited

/-- What came of an action. -/
inductive Outcome where
  | pivotUpdated
  | filterAdded (id : String)
  | rows (rows : List Row)
  | analysisReplaced
  | modelProposed (p : ModelProposal)
  | fieldsSuggested (fields : List FieldSuggestion) (joins : List Join)
deriving Repr

namespace Analysis

/-- Applies an action: the outcome, the analysis after it and the ids left. -/
def apply (a : Analysis) (ids : IdSupply) : Action → Dialogue (Outcome × Analysis × IdSupply)
  | .pivot patch => .done (.pivotUpdated, { a with pivot := patch.merge a.pivot }, ids)
  | .filter f =>
    let g := f.identify ids
    .done (.filterAdded (g.1.id.getD ""), { a with filters := a.filters ++ [g.1] }, g.2)
  | .query sql => .ask sql fun rows => .done (.rows rows, a, ids)
  | .proposeAnalysis p =>
    let fs := Filter.identifyAll ids p.filters
    .done (.analysisReplaced, ⟨p.pivot, fs.1⟩, fs.2)
  | .proposeModel p => .done (.modelProposed p, a, ids)
  | .suggest s => .done (.fieldsSuggested s.fields s.joins, a, ids)

/-- The request for a workspace under this analysis. -/
def request (a : Analysis) (w : Workspace) : Request where
  model := w.model
  joins := w.joins
  pivot := a.pivot
  filters := a.filters

end Analysis

/-- What an assistant is given. -/
structure Question where
  history : List ChatMessage := []
  prompt : String
  /-- The fields that the user can work with. -/
  fields : List String

/-- Why an assistant gives no reply. -/
structure ServiceError where
  reason : String
deriving DecidableEq, Repr

def ServiceError.message (e : ServiceError) : String := "AI service error: " ++ e.reason

/-- An assistant: its reply to a question, or why there is none. -/
abbrev Assistant := Question → Except ServiceError Reply

namespace Analysis

/-- The question about a model. -/
def question (m : Model) (history : List ChatMessage) (prompt : String) : Question :=
  ⟨history, prompt, m.fieldNames⟩

/-- Asks an assistant and applies the action of its reply: the reply, the outcome of the action if
there is one, the analysis after it and the ids left. -/
def ask (a : Analysis) (ids : IdSupply) (assistant : Assistant) (q : Question) :
    Dialogue (Except ServiceError (Reply × Option Outcome × Analysis × IdSupply)) :=
  match assistant q with
  | .error e => .done (.error e)
  | .ok reply =>
    match reply.action with
    | none => .done (.ok (reply, none, a, ids))
    | some action => (a.apply ids action).map fun r => .ok (reply, some r.1, r.2)

end Analysis

end QueryLoom
