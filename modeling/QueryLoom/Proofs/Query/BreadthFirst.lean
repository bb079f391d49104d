import Mathlib.Combinatorics.SimpleGraph.Metric
import QueryLoom.Proofs.Query.Walk

/-!
# The walk is breadth first

1. **Graph**: `Model.joinGraph` has an edge between two different selected tables that a declared
   join links. Distance is its graph distance.
2. **One round**: `expand` reaches each table it brings in by the first declared join, and brings
   the tables in in the order of these joins.
3. **The queue**: `Frontier` is the invariant of the walk. The queue is in the order of distance and
   spans at most two consecutive distances, and all neighbours of a waiting table are on the queue
   or wait themselves. So every way to a waiting table is longer than the one to the first table on
   the queue (`Frontier.lt_length`), and a round keeps the invariant (`Frontier.round`).
4. **All rounds**: rounds expand tables in the order of distance, and no table is left for a later
   round that an earlier one could have brought in (`pairwise_rounds`).
5. **Main statement**: `walk_breadthFirst`.
-/

namespace QueryLoom

/-! ## The graph of joins -/

/-- The declared joins as a graph: the neighbours of a table are the selected tables other than
itself that a join links to it. -/
def Model.joinGraph (m : Model) (js : List Join) : SimpleGraph String where
  Adj a b := a ≠ b ∧ m.Joined js a b
  symm := ⟨fun _ _ h => ⟨h.1.symm, h.2.2.1, h.2.1, h.2.2.2.imp fun _ hj => ⟨hj.1, hj.2.symm⟩⟩⟩
  loopless := ⟨fun _ h => h.1 rfl⟩

instance (m : Model) (js : List Join) : DecidableRel (m.joinGraph js).Adj := fun a b =>
  inferInstanceAs
    (Decidable (a ≠ b ∧ a ∈ m.tableNames ∧ b ∈ m.tableNames ∧ ∃ j ∈ js, j.Links a b))

/-- The table that a step leads away from. -/
def JoinStep.origin (s : JoinStep) : String := s.join.opposite s.table

namespace JoinWalk

variable {table : String} {js : List Join} {queue waiting : List String}

/-! ## One round -/

theorem origin_of_mem_expand {s : JoinStep} (hs : s ∈ (expand table js waiting).1) :
    s.origin = table :=
  (Join.links_iff.1 (links_of_mem_expand hs).2.1.symm).2

/-- Once a join to a table is taken, no later step of the round goes along a join to that table. -/
theorem not_links_of_mem_expand_filter {j : Join} {w : String} (hj : j.Links table w) {s : JoinStep}
    (hs : s ∈ (expand table js (waiting.filter (· ≠ w))).1) : ¬ j.Links table s.table := by
  intro hlinks
  have hwait := (links_of_mem_expand hs).2.2
  rw [← hj.unique hlinks] at hwait
  simp at hwait

/-- A step takes the first declared join of its two tables. -/
theorem find?_of_mem_expand {s : JoinStep} (hs : s ∈ (expand table js waiting).1) :
    js.find? (fun j => j.Links table s.table) = some s.join := by
  induction js generalizing waiting with
  | nil => simp [expand] at hs
  | cons j js ih =>
    rcases links_cases table j waiting with ⟨w, hw, hj⟩ | hnone
    · rw [expand_cons_of_links hj hw] at hs
      rcases List.mem_cons.1 hs with rfl | hs
      · exact List.find?_cons_of_pos (decide_eq_true hj)
      · -- the join is taken, but it is one of other tables than those of the step
        rw [List.find?_cons_of_neg (by simpa using not_links_of_mem_expand_filter hj hs)]
        exact ih hs
    · rw [expand_cons_of_not_links hnone] at hs
      rw [List.find?_cons_of_neg (by simpa using hnone _ (links_of_mem_expand hs).2.2)]
      exact ih hs

/-- The place of the first declared join of two tables, one further with a join of others before. -/
theorem findIdx_cons_of_not_links {j : Join} {w : String} (hj : ¬ j.Links table w) :
    (j :: js).findIdx (fun k => k.Links table w) = js.findIdx (fun k => k.Links table w) + 1 := by
  simp [List.findIdx_cons, hj]

/-- The steps of a round come in the order in which the first joins are declared. -/
theorem pairwise_expand (table : String) (js : List Join) (waiting : List String) :
    (expand table js waiting).1.Pairwise fun s s' =>
      js.findIdx (fun j => j.Links table s.table) < js.findIdx (fun j => j.Links table s'.table) := by
  induction js generalizing waiting with
  | nil => exact .nil
  | cons j js ih =>
    rcases links_cases table j waiting with ⟨w, hw, hj⟩ | hnone
    · rw [expand_cons_of_links hj hw, List.pairwise_cons]
      constructor
      · -- the first join of the first step stands at the front
        intro s hs
        rw [findIdx_cons_of_not_links (not_links_of_mem_expand_filter hj hs)]
        simp [List.findIdx_cons, hj]
      · refine (ih _).imp_of_mem ?_
        intro s s' hs hs' hlt
        rw [findIdx_cons_of_not_links (not_links_of_mem_expand_filter hj hs),
          findIdx_cons_of_not_links (not_links_of_mem_expand_filter hj hs')]
        omega
    · rw [expand_cons_of_not_links hnone]
      refine (ih _).imp_of_mem ?_
      intro s s' hs hs' hlt
      rw [findIdx_cons_of_not_links (hnone _ (links_of_mem_expand hs).2.2),
        findIdx_cons_of_not_links (hnone _ (links_of_mem_expand hs').2.2)]
      omega

/-! ## The queue -/

/-- The invariant of the walk. -/
structure Frontier (m : Model) (js : List Join) (base : String) (queue waiting : List String) :
    Prop where
  selected : ∀ t ∈ queue ++ waiting, t ∈ m.tableNames
  /-- No table waits that has been on the queue. -/
  base_reached : base ∉ waiting
  queue_reached : ∀ t ∈ queue, t ∉ waiting
  reachable : ∀ t ∈ queue, (m.joinGraph js).Reachable base t
  /-- The queue is in the order of distance. -/
  sorted : queue.Pairwise fun a b => (m.joinGraph js).dist base a ≤ (m.joinGraph js).dist base b
  /-- The queue spans at most two consecutive distances. -/
  near : ∀ a ∈ queue, ∀ b ∈ queue,
    (m.joinGraph js).dist base b ≤ (m.joinGraph js).dist base a + 1
  /-- What has been taken off the queue has no waiting neighbour left. -/
  closed : ∀ w ∈ waiting, ∀ u, (m.joinGraph js).Adj u w → u ∈ queue ∨ u ∈ waiting

namespace Frontier

variable {m : Model} {base : String}

/-- A walk starts with the base table on the queue, and all other tables wait. -/
theorem initial (js : List Join) (h : m.base? = some base) :
    Frontier m js base [base] (m.tableNames.filter (· ≠ base)) where
  selected := by
    intro t ht
    rcases List.mem_append.1 ht with ht | ht
    · rw [List.mem_singleton.1 ht]
      exact List.mem_of_head? h
    · exact (List.mem_filter.1 ht).1
  base_reached := by simp
  queue_reached := by simp
  reachable := by
    intro t ht
    rw [List.mem_singleton.1 ht]
  sorted := List.pairwise_singleton _ _
  near := by
    intro a ha b hb
    rw [List.mem_singleton.1 ha, List.mem_singleton.1 hb]
    omega
  closed := by
    intro w _ u hadj
    by_cases hu : u = base
    · exact Or.inl (List.mem_singleton.2 hu)
    · exact Or.inr (List.mem_filter.2 ⟨hadj.2.1, by simpa using hu⟩)

/-- The first table on the queue is a nearest one. -/
theorem dist_head_le (h : Frontier m js base (table :: queue) waiting) {t : String}
    (ht : t ∈ table :: queue) : (m.joinGraph js).dist base table ≤ (m.joinGraph js).dist base t := by
  rcases List.mem_cons.1 ht with rfl | ht
  · exact le_rfl
  · exact (List.pairwise_cons.1 h.sorted).1 t ht

/-- Every way from a waiting table to the base table is longer than the distance of the first table
on the queue. -/
theorem lt_length (h : Frontier m js base (table :: queue) waiting) {w : String} (hw : w ∈ waiting)
    (p : (m.joinGraph js).Walk w base) : (m.joinGraph js).dist base table < p.length := by
  -- by induction on the way: it can leave the waiting tables only to the queue
  induction p with
  | nil => exact absurd hw h.base_reached
  | cons hadj p ih =>
    rw [SimpleGraph.Walk.length_cons]
    rcases h.closed _ hw _ hadj.symm with hu | hu
    · -- the way goes on from a table on the queue
      have hfirst := h.dist_head_le hu
      have hrest := SimpleGraph.dist_le p
      rw [SimpleGraph.dist_comm] at hrest
      omega
    · have hrest := ih h hu
      omega

theorem dist_lt (h : Frontier m js base (table :: queue) waiting) {w : String} (hw : w ∈ waiting)
    (hreach : (m.joinGraph js).Reachable base w) :
    (m.joinGraph js).dist base table < (m.joinGraph js).dist base w := by
  obtain ⟨p, hp⟩ := hreach.symm.exists_walk_length_eq_dist
  rw [SimpleGraph.dist_comm (v := w), ← hp]
  exact h.lt_length hw p

/-- A step out of the first table on the queue goes to a neighbour. -/
theorem adj (h : Frontier m js base (table :: queue) waiting) {s : JoinStep}
    (hs : s ∈ (expand table js waiting).1) : (m.joinGraph js).Adj table s.table := by
  obtain ⟨hj, hlinks, hwait⟩ := links_of_mem_expand hs
  refine ⟨?_, h.selected table (by simp), h.selected s.table (by simp [hwait]), s.join, hj, hlinks⟩
  intro heq
  exact h.queue_reached table List.mem_cons_self (heq ▸ hwait)

theorem reachable_step (h : Frontier m js base (table :: queue) waiting) {s : JoinStep}
    (hs : s ∈ (expand table js waiting).1) : (m.joinGraph js).Reachable base s.table :=
  (h.reachable table List.mem_cons_self).trans (h.adj hs).reachable

/-- It brings in a table one further away. -/
theorem dist_step (h : Frontier m js base (table :: queue) waiting) {s : JoinStep}
    (hs : s ∈ (expand table js waiting).1) :
    (m.joinGraph js).dist base s.table = (m.joinGraph js).dist base table + 1 := by
  have hfar := h.dist_lt (links_of_mem_expand hs).2.2 (h.reachable_step hs)
  have hnext := (h.adj hs).diff_dist_adj (u := base)
  omega

/-- After a round the tables on the queue are at the distance of the expanded table or one further
away. -/
theorem dist_bounds (h : Frontier m js base (table :: queue) waiting) {t : String}
    (ht : t ∈ queue ++ (expand table js waiting).1.map (·.table)) :
    (m.joinGraph js).dist base table ≤ (m.joinGraph js).dist base t ∧
      (m.joinGraph js).dist base t ≤ (m.joinGraph js).dist base table + 1 := by
  rcases List.mem_append.1 ht with ht | ht
  · have hmem : t ∈ table :: queue := List.mem_cons_of_mem _ ht
    exact ⟨h.dist_head_le hmem, h.near table List.mem_cons_self t hmem⟩
  · obtain ⟨s, hs, rfl⟩ := List.mem_map.1 ht
    have hdist := h.dist_step hs
    omega

/-- A round keeps the invariant. -/
theorem round (h : Frontier m js base (table :: queue) waiting) :
    Frontier m js base (queue ++ (expand table js waiting).1.map (·.table))
      (expand table js waiting).2 where
  selected := by
    intro t ht
    apply h.selected
    simp only [List.mem_append, List.mem_cons] at ht ⊢
    rcases ht with (ht | ht) | ht
    · exact Or.inl (Or.inr ht)
    · obtain ⟨s, hs, rfl⟩ := List.mem_map.1 ht
      exact Or.inr (links_of_mem_expand hs).2.2
    · exact Or.inr (mem_waiting_expand.1 ht).1
  base_reached := fun hmem => h.base_reached (mem_waiting_expand.1 hmem).1
  queue_reached := by
    intro t ht hmem
    rcases List.mem_append.1 ht with ht | ht
    · exact h.queue_reached t (List.mem_cons_of_mem _ ht) (mem_waiting_expand.1 hmem).1
    · exact (mem_waiting_expand.1 hmem).2 ht
  reachable := by
    intro t ht
    rcases List.mem_append.1 ht with ht | ht
    · exact h.reachable t (List.mem_cons_of_mem _ ht)
    · obtain ⟨s, hs, rfl⟩ := List.mem_map.1 ht
      exact h.reachable_step hs
  sorted := by
    rw [List.pairwise_append]
    refine ⟨(List.pairwise_cons.1 h.sorted).2, ?_, ?_⟩
    · -- the tables brought in are at the same distance
      rw [List.pairwise_map]
      apply List.pairwise_of_forall_mem_list
      intro s hs s' hs'
      rw [h.dist_step hs, h.dist_step hs']
    · intro a ha b hb
      obtain ⟨s, hs, rfl⟩ := List.mem_map.1 hb
      rw [h.dist_step hs]
      exact (h.dist_bounds (List.mem_append_left _ ha)).2
  near := by
    intro a ha b hb
    have hlow := (h.dist_bounds ha).1
    have hhigh := (h.dist_bounds hb).2
    omega
  closed := by
    intro w hw u hadj
    rw [List.mem_append, mem_waiting_expand]
    rcases h.closed w (mem_waiting_expand.1 hw).1 u hadj with hu | hu
    · rcases List.mem_cons.1 hu with rfl | hu
      · -- the expanded table has no waiting neighbour left
        obtain ⟨j, hj, hlinks⟩ := hadj.2.2.2
        exact absurd hlinks (not_links_of_mem_waiting hw hj)
      · exact Or.inl (Or.inl hu)
    · by_cases hbrought : u ∈ (expand table js waiting).1.map (·.table)
      · exact Or.inl (Or.inr hbrought)
      · exact Or.inr ⟨hu, hbrought⟩

/-! ## All rounds -/

theorem reachable_rounds (h : Frontier m js base queue waiting) {r : Round}
    (hr : r ∈ rounds js queue waiting) : (m.joinGraph js).Reachable base r.table := by
  fun_induction rounds js queue waiting with
  | case1 waiting => simp at hr
  | case2 waiting table queue e ih =>
    rcases List.mem_cons.1 hr with rfl | hr
    · exact h.reachable table List.mem_cons_self
    · exact ih h.round hr

/-- The rounds expand tables in the order of distance. -/
theorem sorted_rounds (h : Frontier m js base queue waiting) :
    (rounds js queue waiting).Pairwise fun r r' =>
      (m.joinGraph js).dist base r.table ≤ (m.joinGraph js).dist base r'.table := by
  fun_induction rounds js queue waiting with
  | case1 waiting => exact .nil
  | case2 waiting table queue e ih =>
    rw [List.pairwise_cons]
    refine ⟨?_, ih h.round⟩
    intro r hr
    have hmem := List.mem_map_of_mem (f := Round.table) hr
    rw [tables_rounds] at hmem
    rcases List.mem_append.1 hmem with hmem | hmem
    · exact (h.dist_bounds hmem).1
    · -- the table still waits after this round
      have hwait := (mem_waiting_expand.1 (mem_waiting_of_mem_brought hmem)).1
      exact (h.dist_lt hwait (h.round.reachable_rounds hr)).le

/-- Each step of each round goes to a neighbour of the expanded table, one further away. -/
theorem dist_rounds (h : Frontier m js base queue waiting) {r : Round}
    (hr : r ∈ rounds js queue waiting) {s : JoinStep} (hs : s ∈ r.steps) :
    (m.joinGraph js).Adj r.table s.table ∧
      (m.joinGraph js).dist base s.table = (m.joinGraph js).dist base r.table + 1 := by
  fun_induction rounds js queue waiting with
  | case1 waiting => simp at hr
  | case2 waiting table queue e ih =>
    rcases List.mem_cons.1 hr with rfl | hr
    · exact ⟨h.adj hs, h.dist_step hs⟩
    · exact ih h.round hr

end Frontier

/-- A round is the expansion of its table. -/
theorem exists_steps_eq {r : Round} (hr : r ∈ rounds js queue waiting) :
    ∃ w, r.steps = (expand r.table js w).1 := by
  fun_induction rounds js queue waiting with
  | case1 waiting => simp at hr
  | case2 waiting table queue e ih =>
    rcases List.mem_cons.1 hr with rfl | hr
    · exact ⟨waiting, rfl⟩
    · exact ih hr

/-- No round brings in a table that a join links to the table of an earlier round. -/
theorem pairwise_rounds (js : List Join) (queue waiting : List String) :
    (rounds js queue waiting).Pairwise fun r r' =>
      ∀ s ∈ r'.steps, ∀ j ∈ js, ¬ j.Links r.table s.table := by
  fun_induction rounds js queue waiting with
  | case1 waiting => exact .nil
  | case2 waiting table queue e ih =>
    rw [List.pairwise_cons]
    refine ⟨?_, ih⟩
    intro r hr s hs j hj
    have hmem : s.table ∈ brought (rounds js (queue ++ e.1.map (·.table)) e.2) :=
      List.mem_map_of_mem (List.mem_flatMap.2 ⟨r, hr, hs⟩)
    exact not_links_of_mem_waiting (mem_waiting_of_mem_brought hmem) hj

end JoinWalk

/-! ## The walk over a model -/

open JoinWalk

namespace Model

variable {m : Model} {js : List Join} {base : String} {r : Round} {s : JoinStep}

theorem exists_steps_eq (hr : r ∈ m.rounds js) : ∃ w, r.steps = (JoinWalk.expand r.table js w).1 := by
  cases h : m.base? with
  | none => simp [rounds_of_no_tables js h] at hr
  | some base =>
    rw [rounds_of_base js h] at hr
    exact JoinWalk.exists_steps_eq hr

/-- The steps of a round lead away from its table. -/
theorem origin_of_mem_steps (hr : r ∈ m.rounds js) (hs : s ∈ r.steps) : s.origin = r.table := by
  obtain ⟨w, hsteps⟩ := exists_steps_eq hr
  exact origin_of_mem_expand (hsteps ▸ hs)

/-- They go to neighbours of its table, one further away from the base table. -/
theorem dist_of_mem_steps (h : m.base? = some base) (hr : r ∈ m.rounds js) (hs : s ∈ r.steps) :
    (m.joinGraph js).Adj r.table s.table ∧
      (m.joinGraph js).dist base s.table = (m.joinGraph js).dist base r.table + 1 := by
  rw [rounds_of_base js h] at hr
  exact (Frontier.initial js h).dist_rounds hr hs

theorem reachable_of_mem_steps (h : m.base? = some base) (hr : r ∈ m.rounds js)
    (hs : s ∈ r.steps) : (m.joinGraph js).Reachable base s.table := by
  have hadj := (dist_of_mem_steps h hr hs).1
  rw [rounds_of_base js h] at hr
  exact ((Frontier.initial js h).reachable_rounds hr).trans hadj.reachable

/-- A table comes in from that one of its neighbours which was reached first. -/
theorem find?_reached (h : m.base? = some base) (hr : r ∈ m.rounds js) (hs : s ∈ r.steps) :
    (m.reached js).find? (fun u => (m.joinGraph js).Adj u s.table) = some r.table := by
  have hearlier := pairwise_rounds js [base] (m.tableNames.filter (· ≠ base))
  obtain ⟨pre, post, hsplit⟩ := List.append_of_mem hr
  rw [← rounds_of_base js h, hsplit, List.pairwise_append] at hearlier
  rw [← tables_rounds, List.find?_eq_some_iff_append]
  refine ⟨decide_eq_true (dist_of_mem_steps h hr hs).1, pre.map (·.table), post.map (·.table), ?_, ?_⟩
  · simp [hsplit]
  · intro t ht
    obtain ⟨r', hr', rfl⟩ := List.mem_map.1 ht
    rw [Bool.not_eq_true', decide_eq_false_iff_not]
    rintro ⟨-, -, -, j, hj, hlinks⟩
    exact hearlier.2.2 r' hr' r List.mem_cons_self s hs j hj hlinks

/-- Steps come in the order of the distance of the tables that they bring in. -/
theorem sorted_walk (js : List Join) (h : m.base? = some base) :
    (m.walk js).Pairwise fun s s' =>
      (m.joinGraph js).dist base s.table ≤ (m.joinGraph js).dist base s'.table := by
  rw [walk, List.pairwise_flatMap]
  constructor
  · -- in one round all tables are at the same distance
    intro r hr
    apply List.pairwise_of_forall_mem_list
    intro s hs s' hs'
    rw [(dist_of_mem_steps h hr hs).2, (dist_of_mem_steps h hr hs').2]
  · have hsorted := (Frontier.initial js h).sorted_rounds
    rw [← rounds_of_base js h] at hsorted
    refine hsorted.imp_of_mem ?_
    intro r r' hr hr' hle s hs s' hs'
    rw [(dist_of_mem_steps h hr hs).2, (dist_of_mem_steps h hr' hs').2]
    omega

/-- Steps that lead away from one table come in the order in which their joins are declared. -/
theorem pairwise_walk (m : Model) (js : List Join) :
    (m.walk js).Pairwise fun s s' => s.origin = s'.origin →
      js.findIdx (fun j => j.Links s.origin s.table) <
        js.findIdx (fun j => j.Links s'.origin s'.table) := by
  rw [walk, List.pairwise_flatMap]
  constructor
  · intro r hr
    obtain ⟨w, hsteps⟩ := exists_steps_eq hr
    have hordered := pairwise_expand r.table js w
    rw [← hsteps] at hordered
    refine hordered.imp_of_mem ?_
    intro s s' hs hs' hlt _
    rwa [origin_of_mem_steps hr hs, origin_of_mem_steps hr hs']
  · -- no table is expanded twice
    have hnodup := m.nodup_reached js
    rw [← tables_rounds, List.Nodup, List.pairwise_map] at hnodup
    refine hnodup.imp_of_mem ?_
    intro r r' hr hr' hne s hs s' hs' heq
    rw [origin_of_mem_steps hr hs, origin_of_mem_steps hr' hs'] at heq
    exact absurd heq hne

end Model

/-! ## Main statement -/

/-- The walk builds the breadth-first tree of the join graph. Its steps bring tables in in the order
of their distance from the base table. Each table comes in from that one of its neighbours which was
reached first and which is exactly one nearer to the base table, and by the first declared join of
the two. The tables that come in from the same table do so in the order of these joins. -/
theorem walk_breadthFirst (m : Model) (js : List Join) {base : String} (h : m.base? = some base) :
    (m.walk js).Pairwise (fun s s' =>
      (m.joinGraph js).dist base s.table ≤ (m.joinGraph js).dist base s'.table) ∧
    (∀ s ∈ m.walk js,
      (m.reached js).find? (fun u => (m.joinGraph js).Adj u s.table) = some s.origin ∧
      (m.joinGraph js).Reachable base s.table ∧
      (m.joinGraph js).dist base s.table = (m.joinGraph js).dist base s.origin + 1 ∧
      js.find? (fun j => j.Links s.origin s.table) = some s.join) ∧
    (m.walk js).Pairwise fun s s' => s.origin = s'.origin →
      js.findIdx (fun j => j.Links s.origin s.table) <
        js.findIdx (fun j => j.Links s'.origin s'.table) := by
  refine ⟨Model.sorted_walk js h, ?_, m.pairwise_walk js⟩
  intro s hs
  obtain ⟨r, hr, hs⟩ := List.mem_flatMap.1 hs
  obtain ⟨w, hsteps⟩ := Model.exists_steps_eq hr
  rw [Model.origin_of_mem_steps hr hs]
  exact ⟨Model.find?_reached h hr hs, Model.reachable_of_mem_steps h hr hs,
    (Model.dist_of_mem_steps h hr hs).2, find?_of_mem_expand (hsteps ▸ hs)⟩

/-- Two ways to a table, one of them by a join declared in the other direction after another join of
the same tables, with a self-join and a join to a table that is not selected. -/
theorem walk_breadthFirst_diamond :
    let m : Model := ⟨[("a", []), ("d", []), ("c", []), ("b", [])]⟩
    let js : List Join :=
      [⟨"d", "c", .inner, ⟨"x", "y"⟩⟩, ⟨"a", "a", .left, ⟨"x", "x"⟩⟩, ⟨"b", "a", .full, ⟨"x", "y"⟩⟩,
       ⟨"e", "a", .inner, ⟨"x", "y"⟩⟩, ⟨"a", "b", .inner, ⟨"x", "y"⟩⟩, ⟨"a", "c", .left, ⟨"x", "y"⟩⟩,
       ⟨"b", "d", .right, ⟨"x", "y"⟩⟩]
    m.base? = some "a" ∧
      (m.walk js).map (fun s => (s.origin, s.table)) = [("a", "b"), ("a", "c"), ("b", "d")] ∧
      ∃ s ∈ m.walk js, s.table = "d" ∧
        (m.reached js).find? (fun u => (m.joinGraph js).Adj u "d") = some "b" ∧
        (m.joinGraph js).dist "a" "d" = (m.joinGraph js).dist "a" "b" + 1 := by
  intro m js
  have hwalk : (m.walk js).map (fun s => (s.origin, s.table)) =
      [("a", "b"), ("a", "c"), ("b", "d")] := by decide +kernel
  have hmem : ("b", "d") ∈ (m.walk js).map (fun s => (s.origin, s.table)) := by simp [hwalk]
  obtain ⟨s, hs, heq⟩ := List.mem_map.1 hmem
  obtain ⟨horigin, htable⟩ := Prod.mk.inj heq
  obtain ⟨hfirst, -, hdist, -⟩ := (walk_breadthFirst m js rfl).2.1 s hs
  rw [horigin, htable] at hfirst hdist
  exact ⟨rfl, hwalk, s, hs, htable, hfirst, hdist⟩

end QueryLoom
