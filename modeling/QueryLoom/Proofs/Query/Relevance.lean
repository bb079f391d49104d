import QueryLoom.Proofs.Query.BreadthFirst

/-!
# Which joins matter

1. **Idle joins**: `Join.Idle` says that a join links a table to itself or to one that is not
   selected, or that an earlier join links the same two tables. `Model.essential` drops such joins.
2. **One round**: idle joins are passed over whichever of their tables is expanded
   (`expand_essentialAfter`), and of the waiting tables only which they are matters, not in which
   order they wait (`expand_congr`).
3. **All rounds**: so the walk is the same along the essential joins, and for two models with the
   same base table and the same tables (`Model.walk_essential`, `Model.walk_congr`).
4. **Main statement**: `render_source_congr` is about the text of the `FROM` clause.
-/

namespace QueryLoom

open Sql

/-! ## Idle joins -/

/-- Whether two joins are of the same two tables, in either direction. -/
def Join.SamePair (j k : Join) : Prop := k.Links j.left j.right

/-- Whether a join that comes after others is never taken: it is a self-join, one of its tables is
not selected, or one of those before it is of the same two tables. -/
def Join.Idle (m : Model) (before : List Join) (j : Join) : Prop :=
  j.left = j.right ∨ j.left ∉ m.tableNames ∨ j.right ∉ m.tableNames ∨ ∃ k ∈ before, k.SamePair j

instance (m : Model) (before : List Join) : DecidablePred (Join.Idle m before) := fun j =>
  inferInstanceAs (Decidable (j.left = j.right ∨ j.left ∉ m.tableNames ∨ j.right ∉ m.tableNames ∨
    ∃ k ∈ before, j.Links k.left k.right))

/-- The joins that are not idle, in order, when certain others come before them. -/
def Model.essentialAfter (m : Model) (before : List Join) : List Join → List Join
  | [] => []
  | j :: js =>
    if j.Idle m before then m.essentialAfter (j :: before) js
    else j :: m.essentialAfter (j :: before) js

/-- The declared joins without the idle ones. -/
def Model.essential (m : Model) (js : List Join) : List Join := m.essentialAfter [] js

theorem Join.SamePair.links {j k : Join} {a b : String} (h : k.SamePair j) (hj : j.Links a b) :
    k.Links a b := by
  rcases h with ⟨hleft, hright⟩ | ⟨hleft, hright⟩
  · rw [Links, ← hleft, ← hright]
    exact hj
  · rw [Links, ← hleft, ← hright, and_comm, and_comm (a := j.right = b)]
    exact hj.symm

/-- An idle join links no two selected tables that were not linked before it. -/
theorem Join.Idle.not_links {m : Model} {before : List Join} {j : Join} {a b : String}
    (h : j.Idle m before) (ha : a ∈ m.tableNames) (hb : b ∈ m.tableNames) (hab : a ≠ b)
    (hbefore : ∀ k ∈ before, ¬ k.Links a b) : ¬ j.Links a b := by
  intro hlinks
  rcases h with hself | hleft | hright | ⟨k, hk, hsame⟩
  · rcases hlinks with ⟨rfl, rfl⟩ | ⟨rfl, rfl⟩
    · exact hab hself
    · exact hab hself.symm
  · rcases hlinks.left_eq with heq | heq
    · exact hleft (heq ▸ ha)
    · exact hleft (heq ▸ hb)
  · rcases hlinks.right_eq with heq | heq
    · exact hright (heq ▸ ha)
    · exact hright (heq ▸ hb)
  · exact hbefore k hk (hsame.links hlinks)

namespace JoinWalk

variable {m m' : Model} {js : List Join} {table base : String} {queue waiting waiting' : List String}

/-! ## One round -/

/-- A round takes none of the idle joins. The joins before lead to no table that still waits. -/
theorem expand_essentialAfter {before : List Join} (htable : table ∈ m.tableNames)
    (hwaiting : ∀ w ∈ waiting, w ∈ m.tableNames ∧ table ≠ w ∧ ∀ k ∈ before, ¬ k.Links table w) :
    expand table (m.essentialAfter before js) waiting = expand table js waiting := by
  induction js generalizing before waiting with
  | nil => rfl
  | cons j js ih =>
    -- after this join it is one of those before
    have hnext : ∀ waiting' ⊆ waiting, (∀ w ∈ waiting', ¬ j.Links table w) →
        expand table (m.essentialAfter (j :: before) js) waiting' = expand table js waiting' := by
      intro waiting' hsub hj
      apply ih
      intro w hw
      obtain ⟨hselected, hne, hbefore⟩ := hwaiting w (hsub hw)
      exact ⟨hselected, hne, List.forall_mem_cons.2 ⟨hj w hw, hbefore⟩⟩
    rw [Model.essentialAfter]
    rcases links_cases table j waiting with ⟨w, hw, hj⟩ | hnone
    · -- a join that is taken is not idle
      obtain ⟨hselected, hne, hbefore⟩ := hwaiting w hw
      have hkept : ¬ j.Idle m before := fun h => h.not_links htable hselected hne hbefore hj
      rw [if_neg hkept, expand_cons_of_links hj hw, expand_cons_of_links hj hw, hnext]
      · exact fun x hx => (List.mem_filter.1 hx).1
      · intro x hx hlinks
        simp [hj.unique hlinks] at hx
    · -- a join that is not taken makes no difference, dropped or kept
      rw [expand_cons_of_not_links hnone]
      split
      · exact hnext waiting (List.Subset.refl _) hnone
      · rw [expand_cons_of_not_links hnone]
        exact hnext waiting (List.Subset.refl _) hnone

/-- The order in which tables wait has no effect. -/
theorem expand_congr (h : ∀ t, t ∈ waiting ↔ t ∈ waiting') :
    (expand table js waiting).1 = (expand table js waiting').1 := by
  induction js generalizing waiting waiting' with
  | nil => rfl
  | cons j js ih =>
    rcases links_cases table j waiting with ⟨w, hw, hj⟩ | hnone
    · have hrest : ∀ t, t ∈ waiting.filter (· ≠ w) ↔ t ∈ waiting'.filter (· ≠ w) := by
        intro t
        rw [List.mem_filter, List.mem_filter, h]
      rw [expand_cons_of_links hj hw, expand_cons_of_links hj ((h w).1 hw)]
      exact congrArg (⟨w, j⟩ :: ·) (ih hrest)
    · rw [expand_cons_of_not_links hnone,
        expand_cons_of_not_links fun w hw => hnone w ((h w).2 hw)]
      exact ih h

/-! ## All rounds -/

theorem rounds_essential (h : Frontier m js base queue waiting) :
    rounds (m.essential js) queue waiting = rounds js queue waiting := by
  fun_induction rounds js queue waiting with
  | case1 waiting => rw [rounds]
  | case2 waiting table queue e ih =>
    have hround : expand table (m.essential js) waiting = expand table js waiting := by
      apply expand_essentialAfter (h.selected table (by simp))
      intro w hw
      refine ⟨h.selected w (by simp [hw]), ?_, by simp⟩
      rintro rfl
      exact h.queue_reached table List.mem_cons_self hw
    rw [rounds, hround, ih h.round]

theorem rounds_congr (h : ∀ t, t ∈ waiting ↔ t ∈ waiting') :
    rounds js queue waiting = rounds js queue waiting' := by
  fun_induction rounds js queue waiting generalizing waiting'
  case case1 waiting => rw [rounds]
  case case2 waiting table queue e ih =>
    have hround : e.1 = (expand table js waiting').1 := expand_congr h
    have hleft : ∀ t, t ∈ e.2 ↔ t ∈ (expand table js waiting').2 := by
      intro t
      rw [mem_waiting_expand, mem_waiting_expand, ← hround, h]
    rw [rounds, ih hleft, hround]

end JoinWalk

namespace Model

variable {m m' : Model}

/-- The walk along the essential joins is the walk along all of them. -/
theorem walk_essential (m : Model) (js : List Join) : m.walk (m.essential js) = m.walk js := by
  cases h : m.base? with
  | none => rw [walk_of_no_tables _ h, walk_of_no_tables _ h]
  | some base =>
    rw [walk, walk, rounds_of_base _ h, rounds_of_base _ h,
      JoinWalk.rounds_essential (JoinWalk.Frontier.initial js h)]

/-- The walk asks a model for its base table and for which tables it has. -/
theorem walk_congr (hbase : m.base? = m'.base?) (hnames : ∀ t, t ∈ m.tableNames ↔ t ∈ m'.tableNames)
    (js : List Join) : m.walk js = m'.walk js := by
  cases h : m.base? with
  | none => rw [walk_of_no_tables _ h, walk_of_no_tables _ (hbase ▸ h)]
  | some base =>
    rw [walk, walk, rounds_of_base _ h, rounds_of_base _ (hbase ▸ h)]
    congr 1
    apply JoinWalk.rounds_congr
    intro t
    rw [List.mem_filter, List.mem_filter, hnames]

end Model

/-! ## Main statement -/

/-- The `FROM` clause is the same for two models with the same base table and the same tables, in
any order and with any fields, and for two lists of joins that become equal once every self-join,
every join of a table that is not selected and every join of two tables that are joined earlier in
the list is dropped. -/
theorem render_source_congr (d : Dialect) {m m' : Model} {js js' : List Join}
    (hbase : m.base? = m'.base?) (hnames : ∀ t, t ∈ m.tableNames ↔ t ∈ m'.tableNames)
    (hjoins : m.essential js = m'.essential js') :
    Token.render d (Source.clause (Source.of? m js)) =
      Token.render d (Source.clause (Source.of? m' js')) := by
  have hwalk : m.walk js = m'.walk js' :=
    calc m.walk js
      _ = m.walk (m.essential js) := (m.walk_essential js).symm
      _ = m'.walk (m.essential js) := Model.walk_congr hbase hnames _
      _ = m'.walk (m'.essential js') := by rw [hjoins]
      _ = m'.walk js' := m'.walk_essential js'
  rw [Source.of?, Source.of?, hbase, hwalk]

/-- Tables in another order and with other fields; a self-join, joins of tables that are not
selected, and joins of the same two tables again, in either direction. -/
theorem render_source_congr_repeated :
    let m : Model := ⟨[("a", ["x"]), ("b", []), ("c", ["y"])]⟩
    let m' : Model := ⟨[("a", []), ("c", ["y", "z"]), ("b", ["x"])]⟩
    let js : List Join :=
      [⟨"a", "a", .inner, ⟨"x", "x"⟩⟩, ⟨"b", "c", .left, ⟨"x", "y"⟩⟩, ⟨"a", "d", .inner, ⟨"x", "y"⟩⟩,
       ⟨"c", "b", .full, ⟨"y", "x"⟩⟩, ⟨"c", "a", .right, ⟨"y", "x"⟩⟩]
    let js' : List Join :=
      [⟨"b", "c", .left, ⟨"x", "y"⟩⟩, ⟨"d", "d", .inner, ⟨"x", "y"⟩⟩, ⟨"c", "a", .right, ⟨"y", "x"⟩⟩,
       ⟨"a", "c", .left, ⟨"z", "z"⟩⟩]
    (m.base? = m'.base? ∧ (∀ t, t ∈ m.tableNames ↔ t ∈ m'.tableNames) ∧
      m.essential js = [⟨"b", "c", .left, ⟨"x", "y"⟩⟩, ⟨"c", "a", .right, ⟨"y", "x"⟩⟩] ∧
      m.essential js = m'.essential js') ∧
    Token.render .sqlite (Source.clause (Source.of? m js)) =
      Token.render .sqlite (Source.clause (Source.of? m' js')) := by
  intro m m' js js'
  have hbase : m.base? = m'.base? := rfl
  have hnames : ∀ t, t ∈ m.tableNames ↔ t ∈ m'.tableNames := by
    intro t
    simp [m, m', Model.tableNames, Entries.keys, or_comm (a := t = "b")]
  have hkept : m.essential js =
      [⟨"b", "c", .left, ⟨"x", "y"⟩⟩, ⟨"c", "a", .right, ⟨"y", "x"⟩⟩] := by decide
  have hjoins : m.essential js = m'.essential js' := by decide
  exact ⟨⟨hbase, hnames, hkept, hjoins⟩, render_source_congr .sqlite hbase hnames hjoins⟩

end QueryLoom
