import Mathlib.Data.List.Forall2
import QueryLoom.Analysis
import QueryLoom.Proofs.Assistant.Parts
import QueryLoom.Proofs.Store.Dialogue

/-!
# Actions one after another

1. **Sessions**: `Analysis.Session` is an analysis in use with a store. Actions are applied one
   after another; after a failure the session goes on with the analysis it had.
2. **Ids**: `Filter.Identified` relates a filter to the one that is put into an analysis.
3. **One action**: `Analysis.Step.IsLawful` says what an action may change, what it asks the store
   and what it reports. Every step is lawful (`Analysis.Session.isLawful_step`).
4. **Runs**: after any number of actions each filter stood in the first analysis or comes from an
   action, with an id (`Analysis.Session.run_identifies`).
-/

namespace QueryLoom

/-! ## Sessions -/

namespace Analysis

/-- An analysis in use: the ids left for its filters, and the state of its store. -/
structure Session (σ : Type) where
  analysis : Analysis
  ids : IdSupply
  store : σ

/-- One action in a session. -/
structure Step where
  before : Analysis
  action : Action
  /-- The queries that the store received. -/
  queries : List String
  result : Except StoreError Outcome
  after : Analysis

namespace Session

variable {σ : Type}

/-- Applies an action. The state of the store moves on with every answer; without an outcome the
analysis and the ids stay. -/
def apply (answer : Answering σ) (s : Session σ) (action : Action) :
    Except StoreError Outcome × Session σ :=
  match (s.analysis.apply s.ids action).run answer s.store with
  | (.ok (outcome, analysis, ids), store) => (.ok outcome, ⟨analysis, ids, store⟩)
  | (.error e, store) => (.error e, { s with store := store })

/-- What applying an action does. -/
def step (answer : Answering σ) (s : Session σ) (action : Action) : Step where
  before := s.analysis
  action := action
  queries := (s.analysis.apply s.ids action).sent answer s.store
  result := (s.apply answer action).1
  after := (s.apply answer action).2.analysis

/-- Applies actions one after another, whether they fail or not. -/
def run (answer : Answering σ) (s : Session σ) : List Action → Session σ
  | [] => s
  | action :: actions => ((s.apply answer action).2).run answer actions

theorem run_append (answer : Answering σ) (s : Session σ) (before after : List Action) :
    s.run answer (before ++ after) = (s.run answer before).run answer after := by
  induction before generalizing s with
  | nil => rfl
  | cons action before ih => exact ih _

end Session

end Analysis

/-! ## Ids -/

namespace Filter

/-- Whether a filter is another one with an id: its own or, if it has none, one of the fresh ones.
Everything else is the same. -/
def Identified (fresh : Nat → String) (f g : Filter) : Prop :=
  ∃ id, g = { f with id := some id } ∧ (f.id = some id ∨ f.id = none ∧ ∃ n, fresh n = id)

theorem identified_identify (f : Filter) (ids : IdSupply) :
    Identified ids.id f (f.identify ids).1 := by
  obtain ⟨own, field, comparison, value⟩ := f
  cases own with
  | none => exact ⟨ids.id ids.next, rfl, Or.inr ⟨rfl, ids.next, rfl⟩⟩
  | some id => exact ⟨id, rfl, Or.inl rfl⟩

theorem id_identify (f : Filter) (ids : IdSupply) : (f.identify ids).2.id = ids.id := by
  rw [identify]
  split <;> rfl

/-- Filters get their ids one by one, each its own. -/
theorem identified_identifyAll (ids : IdSupply) (fs : List Filter) :
    List.Forall₂ (Identified ids.id) fs (identifyAll ids fs).1 ∧
      (identifyAll ids fs).2.id = ids.id := by
  induction fs generalizing ids with
  | nil => exact ⟨.nil, rfl⟩
  | cons f fs ih =>
    obtain ⟨hrest, hids⟩ := ih (f.identify ids).2
    rw [id_identify] at hrest hids
    exact ⟨.cons (f.identified_identify ids) hrest, hids⟩

end Filter

/-! ## One action -/

/-- The query that an action poses to the store as it is. -/
def Action.query? : Action → Option String
  | .query sql => some sql
  | .pivot _ | .filter _ | .proposeAnalysis _ | .proposeModel _ | .suggest _ => none

/-- Whether an action leaves the analysis alone: it only asks, or only proposes to the user. -/
def Action.Leaves : Action → Prop
  | .query _ | .proposeModel _ | .suggest _ => True
  | .pivot _ | .filter _ | .proposeAnalysis _ => False

namespace Analysis

/-- Whether a part of a layout is the one that a patch has for it, or the old one if the patch has
none. -/
def Patched {α : Type} (part : Option α) (old new : α) : Prop :=
  (∀ x, part = some x → new = x) ∧ (part = none → new = old)

/-- What one action may do, whatever its kind. -/
structure Step.IsLawful (fresh : Nat → String) (s : Step) : Prop where
  /-- A failure, which only a query meets, changes nothing. -/
  failed : ∀ e, s.result = .error e → s.action.query?.isSome ∧ s.after = s.before
  /-- Only a query reaches the store, with just its own text. -/
  queries_eq : s.queries = s.action.query?.toList
  leaves : s.action.Leaves → s.after = s.before
  /-- A patch replaces the parts that it has, and no filters. -/
  pivot : ∀ patch, s.action = .pivot patch →
    Patched patch.rows s.before.pivot.rows s.after.pivot.rows ∧
      Patched patch.columns s.before.pivot.columns s.after.pivot.columns ∧
      Patched patch.values s.before.pivot.values s.after.pivot.values ∧
      s.after.filters = s.before.filters
  /-- A filter comes after all others, and its id is reported. -/
  filter : ∀ f, s.action = .filter f →
    ∃ g id, f.Identified fresh g ∧ g.id = some id ∧ s.result = .ok (.filterAdded id) ∧
      s.after = ⟨s.before.pivot, s.before.filters ++ [g]⟩
  /-- A proposed analysis takes the place of the old one. -/
  proposal : ∀ p, s.action = .proposeAnalysis p →
    s.after.pivot = p.pivot ∧ List.Forall₂ (Filter.Identified fresh) p.filters s.after.filters

theorem patched_getD {α : Type} (part : Option α) (old : α) : Patched part old (part.getD old) := by
  constructor
  · rintro x rfl
    rfl
  · rintro rfl
    rfl

namespace Session

variable {σ : Type}

/-- Every action does only what it may, and the ids given out are those of the one supply. -/
theorem isLawful_step (answer : Answering σ) (s : Session σ) (action : Action) :
    (s.step answer action).IsLawful s.ids.id ∧ (s.apply answer action).2.ids.id = s.ids.id := by
  cases action with
  | pivot patch =>
    refine ⟨⟨?_, rfl, False.elim, ?_, ?_, ?_⟩, rfl⟩
    all_goals rintro _ ⟨⟩
    exact ⟨patched_getD _ _, patched_getD _ _, patched_getD _ _, rfl⟩
  | filter f =>
    refine ⟨⟨?_, rfl, False.elim, ?_, ?_, ?_⟩, f.id_identify s.ids⟩
    all_goals rintro _ ⟨⟩
    obtain ⟨id, hid, hown⟩ := f.identified_identify s.ids
    refine ⟨(f.identify s.ids).1, id, ⟨id, hid, hown⟩, by rw [hid], ?_, rfl⟩
    have hreported : (f.identify s.ids).1.id.getD "" = id := by
      rw [hid]
      rfl
    rw [← hreported]
    rfl
  | query sql =>
    -- the one action that can fail, and it has changed nothing by then
    have happly : s.apply answer (.query sql) =
        ((answer s.store sql).1.map .rows, { s with store := (answer s.store sql).2 }) := by
      rw [apply, Analysis.apply, Dialogue.run]
      rcases answer s.store sql with ⟨rows | e, store⟩ <;> rfl
    have hqueries : (s.step answer (.query sql)).queries = [sql] := by
      rw [step, Analysis.apply, Dialogue.sent]
      rcases answer s.store sql with ⟨rows | e, store⟩ <;> rfl
    have hafter : (s.step answer (.query sql)).after = s.analysis := by rw [step, happly]
    refine ⟨⟨fun _ _ => ⟨rfl, hafter⟩, hqueries, fun _ => hafter, ?_, ?_, ?_⟩, by rw [happly]⟩
    all_goals rintro _ ⟨⟩
  | proposeAnalysis p =>
    obtain ⟨hfilters, hids⟩ := Filter.identified_identifyAll s.ids p.filters
    refine ⟨⟨?_, rfl, False.elim, ?_, ?_, ?_⟩, hids⟩
    all_goals rintro _ ⟨⟩
    exact ⟨rfl, hfilters⟩
  | proposeModel p =>
    refine ⟨⟨?_, rfl, fun _ => rfl, ?_, ?_, ?_⟩, rfl⟩
    all_goals rintro _ ⟨⟩
  | suggest suggestions =>
    refine ⟨⟨?_, rfl, fun _ => rfl, ?_, ?_, ?_⟩, rfl⟩
    all_goals rintro _ ⟨⟩

end Session

/-- After a lawful step a filter is one that was there, or one that the action brought. -/
theorem Step.IsLawful.mem_filters {fresh : Nat → String} {s : Step} (h : s.IsLawful fresh)
    {g : Filter} (hg : g ∈ s.after.filters) :
    g ∈ s.before.filters ∨ ∃ f ∈ s.action.filters, f.Identified fresh g := by
  cases haction : s.action with
  | pivot patch =>
    rw [(h.pivot patch haction).2.2.2] at hg
    exact Or.inl hg
  | filter f =>
    obtain ⟨g', id, hidentified, -, -, hafter⟩ := h.filter f haction
    rw [hafter] at hg
    rcases List.mem_append.1 hg with hold | hnew
    · exact Or.inl hold
    · rw [List.mem_singleton.1 hnew]
      exact Or.inr ⟨f, List.mem_singleton_self f, hidentified⟩
  | proposeAnalysis p =>
    -- the proposed filter at the same place
    have hforall := (h.proposal p haction).2
    obtain ⟨i, hi, rfl⟩ := List.mem_iff_getElem.1 hg
    have hi' : i < p.filters.length := hforall.length_eq ▸ hi
    exact Or.inr ⟨p.filters[i], List.getElem_mem hi', hforall.get hi' hi⟩
  | query sql =>
    rw [h.leaves (by rw [haction]; trivial)] at hg
    exact Or.inl hg
  | proposeModel p =>
    rw [h.leaves (by rw [haction]; trivial)] at hg
    exact Or.inl hg
  | suggest suggestions =>
    rw [h.leaves (by rw [haction]; trivial)] at hg
    exact Or.inl hg

/-! ## Runs -/

namespace Session

variable {σ : Type}

theorem mem_filters_run (answer : Answering σ) (s : Session σ) (actions : List Action) :
    (s.run answer actions).ids.id = s.ids.id ∧
      ∀ g ∈ (s.run answer actions).analysis.filters,
        g ∈ s.analysis.filters ∨ ∃ f ∈ actions.flatMap (·.filters), f.Identified s.ids.id g := by
  induction actions generalizing s with
  | nil => exact ⟨rfl, fun g hg => Or.inl hg⟩
  | cons action actions ih =>
    obtain ⟨hlawful, hids⟩ := s.isLawful_step answer action
    obtain ⟨hrun, hfilters⟩ := ih (s.apply answer action).2
    rw [hids] at hrun hfilters
    refine ⟨hrun, fun g hg => ?_⟩
    rw [List.flatMap_cons]
    rcases hfilters g hg with hstep | ⟨f, hf, hidentified⟩
    · rcases hlawful.mem_filters hstep with hold | ⟨f, hf, hidentified⟩
      · exact Or.inl hold
      · exact Or.inr ⟨f, List.mem_append_left _ hf, hidentified⟩
    · exact Or.inr ⟨f, List.mem_append_right _ hf, hidentified⟩

/-- From any analysis, with any store, after any number of actions of which some may have failed:
every filter stood in the first analysis, or it comes from an action and has an id, its own if it
had one. One more action does only what it may: a failure changes nothing, only a query reaches the
store, with its own text, a patch replaces the parts that it has, and a filter comes last and
reports its id. -/
theorem run_identifies (answer : Answering σ) (s : Session σ) (actions : List Action) :
    let now := s.run answer actions
    (∀ g ∈ now.analysis.filters,
      g ∈ s.analysis.filters ∨ ∃ f ∈ actions.flatMap (·.filters), f.Identified s.ids.id g) ∧
    ∀ action : Action,
      let step := now.step answer action
      step.IsLawful s.ids.id ∧ step.before = now.analysis ∧ step.action = action ∧
        step.after = (s.run answer (actions ++ [action])).analysis := by
  intro now
  obtain ⟨hids, hfilters⟩ := s.mem_filters_run answer actions
  refine ⟨hfilters, fun action => ⟨?_, rfl, rfl, ?_⟩⟩
  · rw [← hids]
    exact (now.isLawful_step answer action).1
  · rw [run_append]
    rfl

/-- A store that refuses the first query: the analysis stays, and the actions after it go on. Of two
filters that follow, the one without an id is given one. -/
theorem run_identifies_refused :
    let filter (id : Option String) (field : String) : Filter := ⟨id, field, .equals, .integer 0⟩
    let s : Session Script :=
      ⟨⟨{ rows := ["a"] }, [filter none "old"]⟩, ⟨fun n => "fresh " ++ toString n, 0⟩,
        { answers := [.error (.query "no such table: x")] }⟩
    let actions : List Action :=
      [.query "SELECT * FROM x", .filter (filter none "b"), .filter (filter (some "mine") "c")]
    let now := s.run Script.answer actions
    (s.apply Script.answer (.query "SELECT * FROM x")).1 =
        .error (.query "no such table: x") ∧
      now.analysis.filters.map (fun f => (f.id, f.field)) =
        [(none, "old"), (some "fresh 0", "b"), (some "mine", "c")] ∧
      now.store.queries = ["SELECT * FROM x"] ∧
      (now.step Script.answer (.pivot { columns := some ["d"] })).after.pivot =
        { rows := ["a"], columns := ["d"] } ∧
      ∀ g ∈ now.analysis.filters, g.id = none → g ∈ s.analysis.filters := by
  intro filter s actions now
  obtain ⟨hfilters, hstep⟩ := run_identifies Script.answer s actions
  obtain ⟨hlawful, -, -, -⟩ := hstep (.pivot { columns := some ["d"] })
  obtain ⟨hrows, hcolumns, hvalues, -⟩ := hlawful.pivot _ rfl
  refine ⟨rfl, by decide, rfl, ?_, ?_⟩
  · rw [Pivot.mk.injEq]
    exact ⟨hrows.2 rfl, hcolumns.1 _ rfl, hvalues.2 rfl⟩
  · intro g hg hnone
    rcases hfilters g hg with hold | ⟨f, -, id, rfl, -⟩
    · exact hold
    · cases hnone

end Session

end Analysis

end QueryLoom
