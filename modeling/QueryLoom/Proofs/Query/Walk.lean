import Mathlib.Logic.Relation
import Mathlib.Data.List.Basic
import Mathlib.Data.List.Induction
import Mathlib.Data.List.Perm.Subperm
import Mathlib.Tactic.Tauto
import QueryLoom.Query.JoinWalk

/-!
# Reachability along declared joins

The walk over the selected tables against reachability in the graph of declared joins:

1. **Graph**: `Model.Joined` are the edges, declared joins between two selected tables;
   `Model.Connected` is its reflexive and transitive closure.
2. **One round**: `expand` crosses joins of the table it expands, takes each table it brings in off
   the waiting list, and leaves no waiting table joined to the expanded one.
3. **All rounds**: every table taken off the queue was put on it once (`tables_rounds`); a table
   that no round brings in is joined to no table that a round expands (`not_links_of_waiting`),
   which closes the set of tables reached.
4. **Main statement**: `walk_spans` says that the walk reaches exactly the connected tables, each
   once, along joins to tables reached before.
-/

namespace QueryLoom

open Sql

/-! ## The graph of joins -/

/-- The join is between two tables, in either direction. -/
def Join.Links (j : Join) (a b : String) : Prop :=
  (j.left = a ∧ j.right = b) ∨ (j.left = b ∧ j.right = a)

instance (j : Join) (a b : String) : Decidable (j.Links a b) :=
  inferInstanceAs (Decidable ((j.left = a ∧ j.right = b) ∨ (j.left = b ∧ j.right = a)))

/-- Two selected tables with a declared join between them. -/
def Model.Joined (m : Model) (js : List Join) (a b : String) : Prop :=
  a ∈ m.tableNames ∧ b ∈ m.tableNames ∧ ∃ j ∈ js, j.Links a b

/-- Two tables with a path of declared joins between them, through selected tables. -/
def Model.Connected (m : Model) (js : List Join) : String → String → Prop :=
  Relation.ReflTransGen (m.Joined js)

theorem Join.links_iff {j : Join} {a b : String} :
    j.Links a b ↔ j.touches a = true ∧ j.opposite a = b := by
  simp only [Join.Links, Join.touches, Join.opposite, Bool.or_eq_true, decide_eq_true_eq]
  by_cases h : j.left = a
  · simp only [h, true_and, true_or, if_true]
    constructor
    · rintro (hb | ⟨hb, ha⟩)
      · exact hb
      · rw [ha, hb]
    · exact Or.inl
  · simp only [h, false_and, false_or, if_false]
    exact and_comm

theorem Join.Links.symm {j : Join} {a b : String} (h : j.Links a b) : j.Links b a := Or.symm h

theorem Join.Links.left_eq {j : Join} {a b : String} (h : j.Links a b) :
    j.left = a ∨ j.left = b := by
  rcases h with h | h
  · exact Or.inl h.1
  · exact Or.inr h.1

theorem Join.Links.right_eq {j : Join} {a b : String} (h : j.Links a b) :
    j.right = a ∨ j.right = b := by
  rcases h with h | h
  · exact Or.inr h.2
  · exact Or.inl h.2

/-- From a table a join leads to one other. -/
theorem Join.Links.unique {j : Join} {a b b' : String} (h : j.Links a b) (h' : j.Links a b') :
    b = b' := by
  rw [← (Join.links_iff.1 h).2, ← (Join.links_iff.1 h').2]

namespace JoinWalk

/-! ## One round -/

/-- A join to a waiting table is taken. -/
theorem expand_cons_of_links {table : String} {j : Join} {w : String} {waiting : List String}
    (hj : j.Links table w) (hw : w ∈ waiting) (js : List Join) :
    expand table (j :: js) waiting =
      (⟨w, j⟩ :: (expand table js (waiting.filter (· ≠ w))).1,
        (expand table js (waiting.filter (· ≠ w))).2) := by
  obtain ⟨htouch, rfl⟩ := Join.links_iff.1 hj
  simp [expand, htouch, hw]

/-- A join leads from a table to a waiting one, or to none. -/
theorem links_cases (table : String) (j : Join) (waiting : List String) :
    (∃ w ∈ waiting, j.Links table w) ∨ ∀ w ∈ waiting, ¬ j.Links table w := by
  by_cases h : ∃ w ∈ waiting, j.Links table w
  · exact Or.inl h
  · exact Or.inr fun w hw hj => h ⟨w, hw, hj⟩

/-- A join to no waiting table is passed over. -/
theorem expand_cons_of_not_links {table : String} {j : Join} {waiting : List String}
    (h : ∀ w ∈ waiting, ¬ j.Links table w) (js : List Join) :
    expand table (j :: js) waiting = expand table js waiting := by
  rw [expand, if_neg]
  intro htaken
  rw [Bool.and_eq_true, List.contains_iff_mem] at htaken
  exact h _ htaken.2 (Join.links_iff.2 ⟨htaken.1, rfl⟩)

/-- A step crosses a declared join of the expanded table to a waiting one. -/
theorem links_of_mem_expand {table : String} {js : List Join} {waiting : List String}
    {s : JoinStep} (hs : s ∈ (expand table js waiting).1) :
    s.join ∈ js ∧ s.join.Links table s.table ∧ s.table ∈ waiting := by
  induction js generalizing waiting with
  | nil => simp [expand] at hs
  | cons j js ih =>
    simp only [expand] at hs
    split at hs
    · rename_i hj
      rw [Bool.and_eq_true, List.contains_iff_mem] at hj
      rcases List.mem_cons.1 hs with rfl | hs
      · exact ⟨List.mem_cons_self, Join.links_iff.2 ⟨hj.1, rfl⟩, hj.2⟩
      · have h := ih hs
        exact ⟨List.mem_cons_of_mem _ h.1, h.2.1, (List.mem_filter.1 h.2.2).1⟩
    · have h := ih hs
      exact ⟨List.mem_cons_of_mem _ h.1, h.2⟩

/-- The tables that wait after a round are those that it does not bring in. -/
theorem waiting_expand (table : String) (js : List Join) (waiting : List String) :
    (expand table js waiting).2 =
      waiting.filter (· ∉ (expand table js waiting).1.map (·.table)) := by
  induction js generalizing waiting with
  | nil => simp [expand]
  | cons j js ih =>
    simp only [expand]
    split
    · rw [ih, List.filter_filter]
      apply List.filter_congr
      intro x _
      simp only [List.map_cons, List.mem_cons, not_or, Bool.decide_and]
      exact Bool.and_comm _ _
    · exact ih waiting

theorem mem_waiting_expand {table : String} {js : List Join} {waiting : List String} {x : String} :
    x ∈ (expand table js waiting).2 ↔
      x ∈ waiting ∧ x ∉ (expand table js waiting).1.map (·.table) := by
  rw [waiting_expand, List.mem_filter, decide_eq_true_eq]

/-- A round brings a table in once. -/
theorem nodup_expand (table : String) (js : List Join) (waiting : List String) :
    ((expand table js waiting).1.map (·.table)).Nodup := by
  induction js generalizing waiting with
  | nil => simp [expand]
  | cons j js ih =>
    simp only [expand]
    split
    · rw [List.map_cons, List.nodup_cons]
      refine ⟨?_, ih _⟩
      intro hmem
      obtain ⟨s, hs, hst⟩ := List.mem_map.1 hmem
      have hwait := (links_of_mem_expand hs).2.2
      simp [hst] at hwait
    · exact ih waiting

/-- No table that still waits after a round is joined to the expanded one. -/
theorem not_links_of_mem_waiting {table : String} {js : List Join} {waiting : List String}
    {x : String} (hx : x ∈ (expand table js waiting).2) {j : Join} (hj : j ∈ js) :
    ¬ j.Links table x := by
  intro hlinks
  obtain ⟨htouch, hopp⟩ := Join.links_iff.1 hlinks
  induction js generalizing waiting with
  | nil => simp at hj
  | cons k js ih =>
    simp only [expand] at hx
    split at hx
    · rename_i hk
      rcases List.mem_cons.1 hj with rfl | hj
      · have hwait := (mem_waiting_expand.1 hx).1
        rw [hopp] at hwait
        simp at hwait
      · exact ih hx hj
    · rename_i hk
      rcases List.mem_cons.1 hj with rfl | hj
      · have hwait := (mem_waiting_expand.1 hx).1
        rw [htouch, hopp] at hk
        simp [hwait] at hk
      · exact ih hx hj

/-! ## All rounds -/

/-- The tables that rounds bring in. -/
def brought (rs : List Round) : List String := (rs.flatMap (·.steps)).map (·.table)

@[simp] theorem brought_nil : brought [] = [] := rfl

@[simp] theorem brought_cons (r : Round) (rs : List Round) :
    brought (r :: rs) = r.steps.map (·.table) ++ brought rs := by
  simp [brought]

/-- The tables taken off the queue are those on it at first and those brought in, in order. -/
theorem tables_rounds (js : List Join) (queue waiting : List String) :
    (rounds js queue waiting).map (·.table) = queue ++ brought (rounds js queue waiting) := by
  fun_induction rounds js queue waiting with
  | case1 waiting => rfl
  | case2 waiting table queue e ih =>
    rw [List.map_cons, ih, brought_cons, List.cons_append, List.append_assoc]

theorem mem_waiting_of_mem_brought {js : List Join} {queue waiting : List String} {x : String}
    (hx : x ∈ brought (rounds js queue waiting)) : x ∈ waiting := by
  fun_induction rounds js queue waiting with
  | case1 waiting => simp at hx
  | case2 waiting table queue e ih =>
    rw [brought_cons, List.mem_append] at hx
    rcases hx with hx | hx
    · obtain ⟨s, hs, rfl⟩ := List.mem_map.1 hx
      exact (links_of_mem_expand hs).2.2
    · exact (mem_waiting_expand.1 (ih hx)).1

/-- No table is brought in twice. -/
theorem nodup_brought (js : List Join) (queue waiting : List String) :
    (brought (rounds js queue waiting)).Nodup := by
  fun_induction rounds js queue waiting with
  | case1 waiting => exact List.nodup_nil
  | case2 waiting table queue e ih =>
    rw [brought_cons, List.nodup_append]
    refine ⟨nodup_expand table js waiting, ih, ?_⟩
    intro x hx y hy hxy
    subst hxy
    exact (mem_waiting_expand.1 (mem_waiting_of_mem_brought hy)).2 hx

/-- A waiting table that no round brings in is joined to no table that a round expands. -/
theorem not_links_of_waiting {js : List Join} {queue waiting : List String} {x : String}
    (hx : x ∈ waiting) (hout : x ∉ brought (rounds js queue waiting)) {r : Round}
    (hr : r ∈ rounds js queue waiting) {j : Join} (hj : j ∈ js) : ¬ j.Links r.table x := by
  fun_induction rounds js queue waiting with
  | case1 waiting => simp at hr
  | case2 waiting table queue e ih =>
    rw [brought_cons, List.mem_append, not_or] at hout
    have hleft : x ∈ e.2 := mem_waiting_expand.2 ⟨hx, hout.1⟩
    rcases List.mem_cons.1 hr with rfl | hr
    · exact not_links_of_mem_waiting hleft hj
    · exact ih hleft hout.2 hr

/-- Each step crosses a declared join from a table on the queue at first or brought in before. -/
theorem links_of_step {js : List Join} {queue waiting : List String} {pre post : List JoinStep}
    {s : JoinStep} (hs : (rounds js queue waiting).flatMap (·.steps) = pre ++ s :: post) :
    s.join ∈ js ∧ ∃ u ∈ queue ++ pre.map (·.table), s.join.Links u s.table := by
  fun_induction rounds js queue waiting generalizing pre
  case case1 waiting => simp at hs
  case case2 waiting table queue e ih =>
    rw [List.flatMap_cons] at hs
    rcases List.append_eq_append_iff.1 hs with ⟨mid, hpre, hrest⟩ | ⟨mid, hsteps, hrest⟩
    · -- the step belongs to a later round
      obtain ⟨hj, u, hu, hlinks⟩ := ih hrest
      refine ⟨hj, u, ?_, hlinks⟩
      simp only [hpre, List.mem_append, List.map_append, List.mem_cons] at hu ⊢
      tauto
    · change e.1 = pre ++ mid at hsteps
      cases mid with
      | nil =>
        -- the step is the first one of a later round
        obtain ⟨hj, u, hu, hlinks⟩ := @ih [] hrest.symm
        refine ⟨hj, u, ?_, hlinks⟩
        simp only [hsteps, List.map_nil, List.append_nil, List.mem_append, List.mem_cons] at hu ⊢
        tauto
      | cons t mid =>
        -- the step belongs to this round
        have hmem : s ∈ e.1 := by
          rw [hsteps, (List.cons.inj hrest).1]
          simp
        have h := links_of_mem_expand hmem
        exact ⟨h.1, table, List.mem_cons_self, h.2.1⟩

end JoinWalk

/-! ## The walk over a model -/

open JoinWalk

variable {m : Model} {js : List Join} {base : String}

/-- The tables reached: the base table and those that steps bring in. -/
def Model.reached (m : Model) (js : List Join) : List String :=
  m.base?.toList ++ (m.walk js).map (·.table)

/-- The walk of a model with tables starts at the first of them and waits for all others. -/
theorem Model.rounds_of_base (js : List Join) (h : m.base? = some base) :
    m.rounds js = JoinWalk.rounds js [base] (m.tableNames.filter (· ≠ base)) := by
  simp only [Model.base?] at h
  simp only [Model.rounds]
  cases hnames : m.tableNames with
  | nil => simp [hnames] at h
  | cons first others =>
    rw [hnames, List.head?_cons, Option.some.injEq] at h
    subst h
    simp

theorem Model.rounds_of_no_tables (js : List Join) (h : m.base? = none) : m.rounds js = [] := by
  have hnames : m.tableNames = [] := List.head?_eq_none_iff.1 h
  simp [Model.rounds, hnames]

theorem Model.walk_of_no_tables (js : List Join) (h : m.base? = none) : m.walk js = [] := by
  simp [Model.walk, Model.rounds_of_no_tables js h]

/-- The tables reached are those that the walk takes off its queue, in this order. -/
theorem Model.tables_rounds (m : Model) (js : List Join) :
    (m.rounds js).map (·.table) = m.reached js := by
  cases h : m.base? with
  | none => simp [Model.reached, Model.walk, Model.rounds_of_no_tables js h, h]
  | some base =>
    rw [Model.rounds_of_base js h, JoinWalk.tables_rounds, ← Model.rounds_of_base js h]
    simp [Model.reached, Model.walk, brought, h]

theorem Model.map_table_walk (js : List Join) (h : m.base? = some base) :
    (m.walk js).map (·.table) =
      brought (JoinWalk.rounds js [base] (m.tableNames.filter (· ≠ base))) := by
  rw [Model.walk, Model.rounds_of_base js h, brought]

/-- A step brings in a selected table, never the base table. -/
theorem Model.mem_of_mem_walk (h : m.base? = some base) {t : String}
    (ht : t ∈ (m.walk js).map (·.table)) : t ∈ m.tableNames ∧ t ≠ base := by
  rw [Model.map_table_walk js h] at ht
  simpa using mem_waiting_of_mem_brought ht

theorem Model.nodup_walk (m : Model) (js : List Join) :
    ((m.walk js).map (·.table)).Nodup := by
  cases h : m.base? with
  | none => simp [Model.walk_of_no_tables js h]
  | some base =>
    rw [Model.map_table_walk js h]
    exact nodup_brought _ _ _

/-- No table is reached twice. -/
theorem Model.nodup_reached (m : Model) (js : List Join) : (m.reached js).Nodup := by
  cases h : m.base? with
  | none => simp [Model.reached, Model.walk_of_no_tables js h, h]
  | some base =>
    rw [Model.reached, h]
    refine List.nodup_cons.2 ⟨?_, m.nodup_walk js⟩
    intro hmem
    exact (Model.mem_of_mem_walk h hmem).2 rfl

/-- Only selected tables are reached. -/
theorem Model.mem_tableNames_of_reached {t : String} (ht : t ∈ m.reached js) :
    t ∈ m.tableNames := by
  cases h : m.base? with
  | none => simp [Model.reached, Model.walk_of_no_tables js h, h] at ht
  | some base =>
    rw [Model.reached, h] at ht
    rcases List.mem_cons.1 ht with rfl | ht
    · exact List.mem_of_head? h
    · exact (Model.mem_of_mem_walk h ht).1

/-- Each step crosses a declared join from the base table or a table brought in before. -/
theorem Model.links_of_walk (h : m.base? = some base) {pre post : List JoinStep} {s : JoinStep}
    (hs : m.walk js = pre ++ s :: post) :
    s.join ∈ js ∧ ∃ u ∈ base :: pre.map (·.table), s.join.Links u s.table := by
  rw [Model.walk, Model.rounds_of_base js h] at hs
  exact links_of_step hs

/-- The tables reached are closed under joins between selected tables. -/
theorem Model.mem_reached_of_joined {a b : String} (ha : a ∈ m.reached js)
    (hab : m.Joined js a b) : b ∈ m.reached js := by
  obtain ⟨_, hb, j, hj, hlinks⟩ := hab
  rw [← Model.tables_rounds] at ha
  obtain ⟨r, hr, rfl⟩ := List.mem_map.1 ha
  cases h : m.base? with
  | none => simp [Model.rounds_of_no_tables js h] at hr
  | some base =>
    rw [Model.reached, h, Model.map_table_walk js h]
    rw [Model.rounds_of_base js h] at hr
    by_cases hbase : b = base
    · simp [hbase]
    · right
      by_contra hout
      have hwait : b ∈ m.tableNames.filter (· ≠ base) := by simp [hb, hbase]
      exact not_links_of_waiting hwait hout hr hj hlinks

/-- Completeness: a path of joins through selected tables never leaves the tables reached. -/
theorem Model.mem_reached_of_connected {a b : String} (ha : a ∈ m.reached js)
    (hab : m.Connected js a b) : b ∈ m.reached js := by
  induction hab with
  | refl => exact ha
  | tail _ hjoined ih => exact Model.mem_reached_of_joined ih hjoined

/-- Soundness: every table reached is connected to the base table. -/
theorem Model.connected_of_mem_reached (h : m.base? = some base) {t : String}
    (ht : t ∈ m.reached js) : m.Connected js base t := by
  have hmem : ∀ u ∈ m.reached js, u ∈ m.tableNames := fun u => Model.mem_tableNames_of_reached
  rw [Model.reached, h] at hmem ht
  -- by induction on the steps taken so far, the last one at the end
  suffices hpre : ∀ pre post, m.walk js = pre ++ post →
      ∀ u ∈ base :: pre.map (·.table), m.Connected js base u from
    hpre (m.walk js) [] (List.append_nil _).symm t ht
  intro pre
  induction pre using List.reverseRecOn with
  | nil =>
    intro post _ u hu
    rw [List.map_nil, List.mem_singleton] at hu
    exact hu ▸ Relation.ReflTransGen.refl
  | append_singleton pre s ih =>
    intro post hwalk u hu
    rw [List.append_assoc, List.singleton_append] at hwalk
    have hbefore := ih (s :: post) hwalk
    simp only [List.map_append, List.map_cons, List.map_nil, ← List.cons_append,
      List.mem_append, List.mem_singleton] at hu
    rcases hu with hu | rfl
    · exact hbefore u hu
    · obtain ⟨hj, v, hv, hlinks⟩ := Model.links_of_walk h hwalk
      refine (hbefore v hv).tail ⟨hmem v ?_, hmem s.table ?_, s.join, hj, hlinks⟩
      · rcases List.mem_cons.1 hv with rfl | hv
        · simp
        · simp only [Option.toList_some, List.singleton_append, List.mem_cons, hwalk,
            List.map_append, List.mem_append]
          exact Or.inr (Or.inl hv)
      · simp [hwalk]

/-- The tables reached are those connected to the base table. -/
theorem Model.mem_reached_iff (h : m.base? = some base) {t : String} :
    t ∈ m.reached js ↔ m.Connected js base t := by
  constructor
  · exact Model.connected_of_mem_reached h
  · intro hconn
    have hbase : base ∈ m.reached js := by simp [Model.reached, h]
    exact Model.mem_reached_of_connected hbase hconn

/-! ## The source of a statement -/

namespace Sql.Source

/-- The tables of a source, in order. -/
def tables (s : Source) : List String := s.base :: s.links.map (·.table)

/-- Every condition of a source is about tables that are in the source at that point: the base
table, those joined before and the one joined with the condition. -/
def Ordered (s : Source) : Prop :=
  ∀ pre l post, s.links = pre ++ l :: post →
    l.left.table ∈ s.base :: (pre ++ [l]).map (·.table) ∧
      l.right.table ∈ s.base :: (pre ++ [l]).map (·.table)

theorem of?_eq (js : List Join) (h : m.base? = some base) :
    of? m js = some ⟨base, (m.walk js).map JoinStep.link⟩ := by
  rw [of?, h, Option.map_some]

theorem tables_of? {s : Source} (h : of? m js = some s) : s.tables = m.reached js := by
  cases hb : m.base? with
  | none => simp [of?, hb] at h
  | some base =>
    rw [of?_eq js hb, Option.some.injEq] at h
    subst h
    simp [tables, Model.reached, hb, JoinStep.link]

/-- The conditions of a source made from joins keep to the tables that are there. -/
theorem ordered_of? {s : Source} (h : of? m js = some s) : s.Ordered := by
  cases hb : m.base? with
  | none => simp [of?, hb] at h
  | some base =>
    rw [of?_eq js hb, Option.some.injEq] at h
    subst h
    intro pre l post hlinks
    obtain ⟨spre, srest, hwalk, rfl, hrest⟩ := List.map_eq_append_iff.1 hlinks
    obtain ⟨s, spost, rfl, rfl, rfl⟩ := List.map_eq_cons_iff.1 hrest
    obtain ⟨_, u, hu, hjoin⟩ := Model.links_of_walk hb hwalk
    have hside : ∀ t, t = u ∨ t = s.table →
        t ∈ base :: (spre.map JoinStep.link ++ [s.link]).map (·.table) := by
      intro t ht
      simp only [List.map_append, List.map_map, List.map_cons, List.map_nil, JoinStep.link,
        Function.comp_def, List.mem_cons, List.mem_append, List.mem_map] at hu ⊢
      rcases ht with rfl | rfl
      · rcases hu with hu | hu
        · exact Or.inl hu
        · exact Or.inr (Or.inl hu)
      · exact Or.inr (Or.inr (Or.inl rfl))
    exact ⟨hside _ hjoin.left_eq, hside _ hjoin.right_eq⟩

end Sql.Source

/-! ## The walk spans what is connected -/

/-- The walk takes each table off its queue at most once, so it ends after as many rounds as there
are tables. It reaches exactly the tables connected to the base table, each once. Each step crosses
a declared join from the base table or a table brought in before, so that every condition of the
source is about tables that are there. -/
theorem walk_spans (m : Model) (js : List Join) :
    (m.base? = none → m.rounds js = [] ∧ m.walk js = []) ∧
    ∀ base, m.base? = some base →
      ((m.rounds js).map (·.table)).Nodup ∧
      (m.rounds js).length ≤ m.tableNames.length ∧
      (∀ t, t = base ∨ t ∈ (m.walk js).map (·.table) ↔
        t ∈ m.tableNames ∧ m.Connected js base t) ∧
      ((m.walk js).map (·.table)).Nodup ∧
      base ∉ (m.walk js).map (·.table) ∧
      (∀ pre s post, m.walk js = pre ++ s :: post →
        s.join ∈ js ∧ ∃ u ∈ base :: pre.map (·.table), s.join.Links u s.table) ∧
      ∃ source, Source.of? m js = some source ∧ source.base = base ∧
        source.links = (m.walk js).map JoinStep.link ∧ source.Ordered := by
  constructor
  · intro h
    exact ⟨Model.rounds_of_no_tables js h, Model.walk_of_no_tables js h⟩
  intro base h
  have hreached : m.reached js = base :: (m.walk js).map (·.table) := by
    simp [Model.reached, h]
  have hnodup : ((m.rounds js).map (·.table)).Nodup := by
    rw [Model.tables_rounds]
    exact m.nodup_reached js
  refine ⟨hnodup, ?_, ?_, m.nodup_walk js, ?_, ?_, ?_⟩
  · -- distinct tables, all of them selected
    have hsub : (m.rounds js).map (·.table) ⊆ m.tableNames := by
      rw [Model.tables_rounds]
      exact fun t => Model.mem_tableNames_of_reached
    simpa using (List.subperm_of_subset hnodup hsub).length_le
  · intro t
    rw [← List.mem_cons, ← hreached, ← Model.mem_reached_iff h]
    constructor
    · intro ht
      exact ⟨Model.mem_tableNames_of_reached ht, ht⟩
    · exact And.right
  · intro hmem
    exact (Model.mem_of_mem_walk h hmem).2 rfl
  · intro pre s post hs
    exact Model.links_of_walk h hs
  · refine ⟨_, Source.of?_eq js h, rfl, rfl, Source.ordered_of? (Source.of?_eq js h)⟩

/-- A cycle with a self-join, a doubled join and a join to a table that is not selected. -/
theorem walk_spans_cycle :
    let m : Model := ⟨[("jobs", ["id"]), ("sources", []), ("countries", ["code"]), ("cities", [])]⟩
    let js : List Join :=
      [⟨"jobs", "jobs", .inner, ⟨"id", "parent"⟩⟩, ⟨"countries", "jobs", .left, ⟨"code", "code"⟩⟩,
       ⟨"jobs", "countries", .full, ⟨"code", "code"⟩⟩, ⟨"regions", "cities", .inner, ⟨"id", "id"⟩⟩,
       ⟨"countries", "sources", .right, ⟨"id", "id"⟩⟩, ⟨"sources", "jobs", .inner, ⟨"id", "id"⟩⟩]
    m.base? = some "jobs" ∧ (m.walk js).map (·.table) = ["countries", "sources"] ∧
      ∀ t, t = "jobs" ∨ t ∈ (m.walk js).map (·.table) ↔
        t ∈ m.tableNames ∧ m.Connected js "jobs" t := by
  intro m js
  have h := (walk_spans m js).2 "jobs" rfl
  have hwalk : (m.walk js).map (·.table) = ["countries", "sources"] := by decide +kernel
  exact ⟨rfl, hwalk, h.2.2.1⟩

end QueryLoom
