import Mathlib.Data.Nat.Init
import QueryLoom.Proofs.Store.Loading
import QueryLoom.Store.Connection

/-!
# Loading is all or nothing

1. **Inside a transaction** nothing but a commit changes what is kept: one piece of work does not
   (`Connection.within_execute`), so a run of them does not (`Connection.within_attemptAll`).
2. **A load** passes through `Connection.midway`, where the new table holds the first rows. It comes
   to its end exactly if no other transaction is under way, the table can be made and the machine
   fails nowhere on the way (`Connection.load_cases`).
3. **Main statement**: `Connection.load_allOrNothing` says what a load leaves, whatever goes wrong,
   and that on a machine that does not fail it is `Database.load`.
-/

namespace QueryLoom

open StoredTable

namespace Connection

variable {faults : Faults} {c c' : Connection} {w : Work} {ws : List Work} {e : StoreError}
  {db draft : Database}

/-- A connection without a transaction. -/
def idle (db : Database) : Connection := ⟨db, none⟩

/-- A connection in a transaction that began with one database and has made another one of it. -/
def within (db draft : Database) : Connection := ⟨db, some draft⟩

/-! ## Inside a transaction -/

theorem attempt_eq_ok_iff :
    c.attempt faults w = .ok c' ↔ faults c w = none ∧ c.execute w = .ok c' := by
  unfold attempt
  cases faults c w with
  | some e => simp
  | none => cases c.execute w <;> simp [Except.mapError]

theorem exists_of_map_change {x : Except DatabaseError Database}
    (h : x.map (within db draft).change = .ok c') : ∃ next, x = .ok next ∧ c' = within db next := by
  cases x with
  | error e => cases h
  | ok next => exact ⟨next, rfl, (Except.ok.inj h).symm⟩

/-- All work but a commit stays inside the transaction. -/
theorem within_execute (hw : w ≠ .commit) (h : (within db draft).execute w = .ok c') :
    ∃ next, c' = within db next := by
  cases w with
  | begin => cases h
  | create name columns =>
    obtain ⟨next, -, hc'⟩ := exists_of_map_change h
    exact ⟨next, hc'⟩
  | prepare table =>
    simp only [execute] at h
    split at h
    · cases h
      exact ⟨draft, rfl⟩
    · cases h
  | insert table values =>
    obtain ⟨next, -, hc'⟩ := exists_of_map_change h
    exact ⟨next, hc'⟩
  | commit => exact absurd rfl hw

/-- However far work without a commit comes, it stays inside the transaction. -/
theorem within_attemptAll (hws : .commit ∉ ws) (faults : Faults) (db draft : Database) :
    ∃ next, ((within db draft).attemptAll faults ws).2 = within db next := by
  induction ws generalizing draft with
  | nil => exact ⟨draft, rfl⟩
  | cons w ws ih =>
    have hw : w ≠ .commit := fun hw => hws (hw ▸ List.mem_cons_self)
    simp only [attemptAll]
    cases hattempt : (within db draft).attempt faults w with
    | error e => exact ⟨draft, rfl⟩
    | ok c =>
      obtain ⟨next, rfl⟩ := within_execute hw (attempt_eq_ok_iff.1 hattempt).2
      exact ih (fun hmem => hws (List.mem_cons_of_mem w hmem)) next

/-- Work in two parts: the second is done if nothing went wrong in the first. -/
theorem attemptAll_append (faults : Faults) (c : Connection) (ws vs : List Work) :
    c.attemptAll faults (ws ++ vs) =
      match c.attemptAll faults ws with
      | (none, c') => c'.attemptAll faults vs
      | (some e, c') => (some e, c') := by
  induction ws generalizing c with
  | nil => rfl
  | cons w ws ih =>
    simp only [List.cons_append, attemptAll]
    cases c.attempt faults w with
    | error e => rfl
    | ok c' => exact ih c'

/-- A transaction that was left before it had committed has changed nothing. -/
theorem rollBack_of_fault (hws : .commit ∉ ws)
    (h : ((within db draft).attemptAll faults (ws ++ [.commit])).1 = some e) :
    ((within db draft).attemptAll faults (ws ++ [.commit])).2.rollBack = idle db := by
  obtain ⟨next, hnext⟩ := within_attemptAll hws faults db draft
  rw [attemptAll_append] at h ⊢
  rcases hrun : (within db draft).attemptAll faults ws with ⟨fault, c'⟩
  rw [hrun] at hnext
  obtain rfl : c' = within db next := hnext
  cases fault with
  | some e => rfl
  | none =>
    -- all is done but the commit, and that is what goes wrong
    simp only [hrun, attemptAll] at h ⊢
    cases hcommit : (within db next).attempt faults .commit with
    | error e => rfl
    | ok c => simp [hcommit] at h

/-! ## A load -/

variable {name : String} {rows : List Row} {n : Nat}

/-- The connection in the middle of a load: the new table stands in the draft with its first
rows. -/
def midway (db : Database) (name : String) (rows : List Row) (n : Nat) : Connection :=
  within db ⟨db.tables ++
    [{ storedAs (name, rows) with rows := (storedAs (name, rows)).rows.take n }]⟩

/-- The insertion of a row of a load. -/
def insertion (name : String) (rows : List Row) (r : Row) : Work :=
  .insert name (valuesFor (columnsOf rows) r)

/-- Whether the machine fails at nothing that a load asks for once its transaction has begun. -/
structure Undisturbed (faults : Faults) (db : Database) (name : String) (rows : List Row) :
    Prop where
  creates : faults (within db db) (.create name (columnsOf rows)) = none
  prepares : faults (midway db name rows 0) (.prepare name) = none
  inserts : ∀ n (h : n < rows.length),
    faults (midway db name rows n) (insertion name rows rows[n]) = none
  commits : faults (midway db name rows rows.length) .commit = none

/-- The new table is made without its rows, which are not looked at. -/
theorem execute_create (db : Database) (name : String) (rows : List Row) :
    (within db db).execute (.create name (columnsOf rows)) =
      (db.create (storedAs (name, rows))).map fun _ => midway db name rows 0 := by
  show (db.create ⟨name, columnsOf rows, []⟩).map _ =
    (db.create ⟨name, columnsOf rows, (storedAs (name, rows)).rows⟩).map _
  simp only [Database.create, bind, Except.bind, check]
  cases wholeName name with
  | error e => rfl
  | ok =>
    cases isReserved name with
    | true => rfl
    | false =>
      cases (db.table? name).isSome with
      | true => rfl
      | false =>
        cases (columnsOf rows).isEmpty with
        | true => rfl
        | false => cases checkColumns [] ((columnsOf rows).map (·.name)) <;> rfl

theorem isSome_table?_midway (db : Database) (name : String) (rows : List Row) (n : Nat) :
    ((midway db name rows n).visible.table? name).isSome = true := by
  have hsame : sameName (storedAs (name, rows)).name name = true := Database.sameName_self name
  simp [Database.table?, midway, within, visible, hsame]

theorem execute_prepare (db : Database) (name : String) (rows : List Row) :
    (midway db name rows 0).execute (.prepare name) = .ok (midway db name rows 0) := by
  rw [execute, if_pos (isSome_table?_midway db name rows 0)]

theorem zipWith_valuesFor (columns : List StoredColumn) (r : Row) :
    List.zipWith (fun c v => c.affinity.stored v) columns (valuesFor columns r) =
      storedRow columns r := by
  rw [valuesFor, storedRow, List.zipWith_map_right, List.zipWith_self]

/-- A row comes to the new table, and to no other. -/
theorem execute_insertion (hfree : db.table? name = none) (hn : n < rows.length) :
    (midway db name rows n).execute (insertion name rows rows[n]) =
      .ok (midway db name rows (n + 1)) := by
  let grow (t : StoredTable) : StoredTable :=
    if sameName t.name name then t.append (valuesFor (columnsOf rows) rows[n]) else t
  have hothers : db.tables.map grow = db.tables := by
    rw [Database.table?, List.find?_eq_none] at hfree
    calc db.tables.map grow = db.tables.map fun t => t :=
          List.map_congr_left fun t ht => if_neg (hfree t ht)
      _ = db.tables := List.map_id' _
  have hnew : grow { storedAs (name, rows) with rows := (storedAs (name, rows)).rows.take n } =
      { storedAs (name, rows) with rows := (storedAs (name, rows)).rows.take (n + 1) } := by
    have hstored : n < (storedAs (name, rows)).rows.length := by simpa [storedAs, ofRows] using hn
    have hrow : storedRow (columnsOf rows) rows[n] = (storedAs (name, rows)).rows[n] := by
      simp [storedAs, ofRows, columnsOf]
    have hsame : sameName (storedAs (name, rows)).name name = true := Database.sameName_self name
    rw [List.take_succ_eq_append_getElem hstored, ← hrow, ← zipWith_valuesFor]
    exact if_pos hsame
  rw [insertion, execute, Database.append, if_pos (isSome_table?_midway db name rows n)]
  show Except.ok (midway db name rows n |>.change ⟨List.map grow (_ ++ [_])⟩) = _
  rw [List.map_append, hothers, List.map_singleton, hnew]
  rfl

/-! ## The run of a load -/

theorem attemptAll_cons_eq_none :
    c.attemptAll faults (w :: ws) = (none, c') ↔
      ∃ next, c.attempt faults w = .ok next ∧ next.attemptAll faults ws = (none, c') := by
  rw [attemptAll]
  cases c.attempt faults w <;> simp

theorem execute_commit (db : Database) (name : String) (rows : List Row) :
    (midway db name rows rows.length).execute .commit =
      .ok (idle ⟨db.tables ++ [storedAs (name, rows)]⟩) := by
  have hall : (storedAs (name, rows)).rows.take rows.length = (storedAs (name, rows)).rows :=
    List.take_of_length_le (by simp [storedAs, ofRows])
  simp only [execute, midway, within, visible, Option.getD_some, hall]
  rfl

/-- The rows that are left come in one by one, and then the load is kept. -/
theorem attemptAll_insertions (hfree : db.table? name = none) (hn : n ≤ rows.length) :
    (midway db name rows n).attemptAll faults
        ((rows.drop n).map (insertion name rows) ++ [.commit]) = (none, c') ↔
      (∀ k (h : k < rows.length), n ≤ k →
        faults (midway db name rows k) (insertion name rows rows[k]) = none) ∧
      faults (midway db name rows rows.length) .commit = none ∧
      c' = idle ⟨db.tables ++ [storedAs (name, rows)]⟩ := by
  induction hn using Nat.decreasingInduction with
  | self =>
    simp only [List.drop_length, List.map_nil, List.nil_append, attemptAll_cons_eq_none,
      attempt_eq_ok_iff, execute_commit]
    constructor
    · rintro ⟨next, ⟨hcommit, hnext⟩, hend⟩
      cases hnext
      cases hend
      exact ⟨fun k h hk => absurd h (Nat.not_lt.2 hk), hcommit, rfl⟩
    · rintro ⟨-, hcommit, rfl⟩
      exact ⟨_, ⟨hcommit, rfl⟩, rfl⟩
  | of_succ n hn ih =>
    simp only [List.drop_eq_getElem_cons hn, List.map_cons, List.cons_append,
      attemptAll_cons_eq_none, attempt_eq_ok_iff, execute_insertion hfree hn]
    constructor
    · rintro ⟨next, ⟨hfirst, hnext⟩, hrest⟩
      cases hnext
      obtain ⟨hinserts, hcommit, hend⟩ := ih.1 hrest
      refine ⟨?_, hcommit, hend⟩
      intro k h hk
      rcases Nat.eq_or_lt_of_le hk with rfl | hk
      · exact hfirst
      · exact hinserts k h hk
    · rintro ⟨hinserts, hcommit, hend⟩
      refine ⟨_, ⟨hinserts n hn (Nat.le_refl n), rfl⟩, ih.2 ⟨?_, hcommit, hend⟩⟩
      intro k h hk
      exact hinserts k h (Nat.le_of_succ_le hk)

theorem load_of_empty (h : rows = []) : c.load faults name rows = (none, c) := by
  rw [load, if_pos (by rw [h]; rfl)]

/-- A transaction that cannot begin is no transaction. -/
theorem load_of_error (h : rows ≠ []) (hbegin : c.attempt faults .begin = .error e) :
    c.load faults name rows = (some e, c) := by
  rw [load, if_neg (by simpa using h), hbegin]

theorem load_of_begin (h : rows ≠ []) (hbegin : faults (idle db) .begin = none) :
    (idle db).load faults name rows =
      (((within db db).attemptAll faults (loadingWork name rows)).1,
        ((within db db).attemptAll faults (loadingWork name rows)).2.rollBack) := by
  have hopened : (idle db).attempt faults .begin = .ok (within db db) :=
    attempt_eq_ok_iff.2 ⟨hbegin, rfl⟩
  rw [load, if_neg (by simpa using h), hopened]

/-- The work of a load is all done exactly if the table can be made and the machine fails
nowhere. -/
theorem attemptAll_loadingWork :
    (within db db).attemptAll faults (loadingWork name rows) = (none, c') ↔
      Undisturbed faults db name rows ∧
        (∃ db', db.create (storedAs (name, rows)) = .ok db') ∧
        c' = idle ⟨db.tables ++ [storedAs (name, rows)]⟩ := by
  have hcreate := execute_create db name rows
  have hrows : rows.map (fun r => Work.insert name (valuesFor (columnsOf rows) r)) =
      (rows.drop 0).map (insertion name rows) := rfl
  simp only [loadingWork, hrows, List.cons_append, attemptAll_cons_eq_none, attempt_eq_ok_iff]
  cases hdb' : db.create (storedAs (name, rows)) with
  | error e =>
    -- the table is refused, so neither side holds
    rw [hdb'] at hcreate
    constructor
    · rintro ⟨_, ⟨-, hmade⟩, -⟩
      rw [hcreate] at hmade
      cases hmade
    · rintro ⟨-, ⟨_, ⟨⟩⟩, -⟩
  | ok db' =>
    rw [hdb'] at hcreate
    have hinsertions := @attemptAll_insertions faults c' db name rows 0
      (Database.create_eq_ok hdb').1 (Nat.zero_le _)
    constructor
    · rintro ⟨_, ⟨hcreates, hmade⟩, _, ⟨hprepares, hprepared⟩, hrest⟩
      rw [hcreate] at hmade
      cases hmade
      rw [execute_prepare] at hprepared
      cases hprepared
      obtain ⟨hinserts, hcommits, hend⟩ := hinsertions.1 hrest
      exact ⟨⟨hcreates, hprepares, fun n h => hinserts n h (Nat.zero_le n), hcommits⟩,
        ⟨db', rfl⟩, hend⟩
    · rintro ⟨hfaults, -, hend⟩
      have hrest := hinsertions.2 ⟨fun n h _ => hfaults.inserts n h, hfaults.commits, hend⟩
      exact ⟨midway db name rows 0, ⟨hfaults.creates, hcreate⟩, midway db name rows 0,
        ⟨hfaults.prepares, execute_prepare db name rows⟩, hrest⟩

/-- Whether a load of rows comes to its end. -/
structure Goes (faults : Faults) (c : Connection) (name : String) (rows : List Row) : Prop where
  closed : c.draft = none
  begins : faults c .begin = none
  undisturbed : Undisturbed faults c.kept name rows
  made : ∃ db', c.kept.create (.ofRows name rows) = .ok db'

/-- What a load of rows comes to: the new table, or no change and what went wrong. -/
theorem load_cases (faults : Faults) (c : Connection) (name : String) (hrows : rows ≠ []) :
    (Goes faults c name rows ∧
      c.load faults name rows = (none, idle ⟨c.kept.tables ++ [.ofRows name rows]⟩)) ∨
    (¬ Goes faults c name rows ∧ ∃ e, c.load faults name rows = (some e, c)) := by
  rcases c with ⟨db, _ | draft⟩
  · cases hbegin : faults (idle db) .begin with
    | some e =>
      right
      refine ⟨fun h => Option.some_ne_none e (hbegin.symm.trans h.begins), e, ?_⟩
      exact load_of_error hrows (by rw [attempt]; exact hbegin ▸ rfl)
    | none =>
      rcases hrun : (within db db).attemptAll faults (loadingWork name rows) with ⟨fault, c'⟩
      cases fault with
      | none =>
        obtain ⟨hfaults, hmade, rfl⟩ := attemptAll_loadingWork.1 hrun
        left
        refine ⟨⟨rfl, hbegin, hfaults, hmade⟩, ?_⟩
        rw [← idle, load_of_begin hrows hbegin, hrun]
        rfl
      | some e =>
        right
        constructor
        · intro h
          have hdone := attemptAll_loadingWork.2 ⟨h.undisturbed, h.made, rfl⟩
          rw [hrun] at hdone
          cases hdone
        · refine ⟨e, ?_⟩
          have hcommit : .commit ∉ Work.create name (columnsOf rows) :: .prepare name ::
              rows.map fun r => .insert name (valuesFor (columnsOf rows) r) := by
            simp
          have hfault : ((within db db).attemptAll faults (loadingWork name rows)).1 = some e :=
            congrArg Prod.fst hrun
          rw [← idle, load_of_begin hrows hbegin, hfault]
          exact congrArg (Prod.mk (some e)) (rollBack_of_fault hcommit hfault)
  · -- a transaction is under way, and another one cannot begin
    right
    refine ⟨fun h => Option.some_ne_none draft h.closed, ?_⟩
    cases hbegin : (within db draft).attempt faults .begin with
    | error e => exact ⟨e, load_of_error hrows hbegin⟩
    | ok c' => cases (attempt_eq_ok_iff.1 hbegin).2

/-- On a machine that does not fail a load in a transaction is a load at one stroke. -/
theorem load_eq_of_no_faults (h : ∀ c w, faults c w = none) (db : Database) (name : String)
    (rows : List Row) :
    (idle db).load faults name rows =
      match db.load name rows with
      | .ok db' => (none, idle db')
      | .error e => (some (.database e), idle db) := by
  by_cases hrows : rows = []
  · rw [load_of_empty hrows, Database.load, if_pos (by rw [hrows]; rfl)]
  · rw [Database.load, if_neg (by simpa using hrows)]
    cases hcreate : db.create (.ofRows name rows) with
    | ok db' =>
      obtain ⟨-, rfl⟩ := Database.create_eq_ok hcreate
      rcases load_cases faults (idle db) name hrows with ⟨-, hload⟩ | ⟨hnot, -⟩
      · exact hload
      · exact absurd ⟨rfl, h _ _, ⟨h _ _, h _ _, fun _ _ => h _ _, h _ _⟩, _, hcreate⟩ hnot
    | error e =>
      -- the table is refused before a row is looked at
      have hrefused : (within db db).attempt faults (.create name (columnsOf rows)) =
          .error (.database e) := by
        have hexecute := execute_create db name rows
        rw [storedAs, hcreate] at hexecute
        rw [attempt, h, hexecute]
        rfl
      rw [load_of_begin hrows (h _ _), loadingWork, List.cons_append]
      simp only [attemptAll, hrefused]
      rfl

/-! ## Main statement -/

/-- Whether a table cannot be made of rows: its name is taken, two columns have the same name, or
there are no columns. Names are the same up to the case of ASCII letters. -/
inductive Clashes (db : Database) (name : String) (rows : List Row) : Prop
  | taken {t : StoredTable} : t ∈ db.tables → sameName t.name name = true → Clashes db name rows
  | columns {a b : String} : a ∈ rows.flatMap Row.columns → b ∈ rows.flatMap Row.columns → a ≠ b →
    sameName a b = true → Clashes db name rows
  | noColumns : (∀ r ∈ rows, r.columns = []) → Clashes db name rows

theorem Clashes.not_create (h : Clashes db name rows) {db' : Database} :
    db.create (.ofRows name rows) ≠ .ok db' := by
  intro hcreate
  obtain ⟨-, -, hfree, hcheck, -⟩ := Database.create_eq_ok_iff.1 hcreate
  have hnames := columnNames_storedAs (name, rows)
  cases h with
  | taken ht hsame =>
    rw [Database.table?, List.find?_eq_none] at hfree
    exact hfree _ ht hsame
  | @columns a b ha hb hne hsame =>
    have hnodup := nodup_of_check hcheck
    have hfolded : ((distinct (rows.flatMap Row.columns)).map foldedName).Nodup := by
      rw [← hnames, List.map_map]
      exact hnodup
    exact hne (List.inj_on_of_nodup_map hfolded (mem_distinct.2 ha) (mem_distinct.2 hb)
      (of_decide_eq_true hsame))
  | noColumns hnone =>
    have hempty : rows.flatMap Row.columns = [] := List.flatMap_eq_nil_iff.2 hnone
    have hcolumns : (StoredTable.ofRows name rows).columns = [] := by
      rw [hempty] at hnames
      exact List.map_eq_nil_iff.1 hnames
    rw [check, hcolumns] at hcheck
    cases hcheck

/-- Loading rows into a connection either fails and leaves the connection as it was, with all
tables, columns and rows, or adds the one table of the rows behind the others (nothing at all, if
there are no rows). It comes to its end exactly if no other transaction is under way, the table can
be made and the machine fails at no piece of work on the way. A table whose name is taken, two
columns of the same name, rows without columns and a machine that fails at any one of the insertions
each make it fail. On a machine that does not fail it is a load at one stroke. -/
theorem load_allOrNothing (faults : Faults) (c : Connection) (name : String) (rows : List Row) :
    let result := c.load faults name rows
    ((∃ e, result = (some e, c)) ∨
      result = (none,
        if rows = [] then c else ⟨⟨c.kept.tables ++ [.ofRows name rows]⟩, none⟩)) ∧
    (rows = [] → result = (none, c)) ∧
    (rows ≠ [] → (result.1 = none ↔ Goes faults c name rows)) ∧
    (rows ≠ [] →
      (Clashes c.kept name rows ∨ ∃ n, ∃ h : n < rows.length,
        faults (midway c.kept name rows n) (insertion name rows rows[n]) ≠ none) →
      ∃ e, result = (some e, c)) ∧
    (c.draft = none → (∀ c w, faults c w = none) →
      result =
        match c.kept.load name rows with
        | .ok db' => (none, ⟨db', none⟩)
        | .error e => (some (.database e), c)) := by
  intro result
  refine ⟨?_, load_of_empty, ?_, ?_, ?_⟩
  · by_cases hrows : rows = []
    · right
      rw [if_pos hrows]
      exact load_of_empty hrows
    · rw [if_neg hrows]
      rcases load_cases faults c name hrows with ⟨-, h⟩ | ⟨-, h⟩
      · exact Or.inr h
      · exact Or.inl h
  · intro hrows
    rcases load_cases faults c name hrows with ⟨hgoes, h⟩ | ⟨hnot, e, h⟩
    · exact iff_of_true (congrArg Prod.fst h) hgoes
    · exact iff_of_false (by rw [show result = _ from h]; exact Option.some_ne_none e) hnot
  · intro hrows hbad
    have hnot : ¬ Goes faults c name rows := by
      rintro ⟨-, -, hfaults, db', hmade⟩
      rcases hbad with hclash | ⟨n, h, hfault⟩
      · exact hclash.not_create hmade
      · exact hfault (hfaults.inserts n h)
    rcases load_cases faults c name hrows with ⟨hgoes, -⟩ | ⟨-, h⟩
    · exact absurd hgoes hnot
    · exact h
  · intro hdraft hfaults
    obtain ⟨db, draft⟩ := c
    obtain rfl : draft = none := hdraft
    exact load_eq_of_no_faults hfaults db name rows

/-- Two rows are loaded beside another table: the disk is full at the second one, the name is taken
in other letters, two columns have the same name in other letters, and nothing goes wrong. -/
theorem load_allOrNothing_interrupted :
    let c : Connection := ⟨⟨[.ofRows "old" [⟨[("x", .integer 1)]⟩]]⟩, none⟩
    let rows : List Row := [⟨[("n", .integer 1)]⟩, ⟨[("n", .integer 2)]⟩]
    let mixed : List Row := [⟨[("n", .integer 1)]⟩, ⟨[("N", .integer 2)]⟩]
    let full : Faults := fun _ w =>
      match w with
      | .insert _ [.integer 2] => some (.io "disk full")
      | _ => none
    c.load full "new" rows = (some (.io "disk full"), c) ∧
      c.load (fun _ _ => none) "OLD" rows = (some (.database (.tableExists "OLD")), c) ∧
      c.load (fun _ _ => none) "new" mixed = (some (.database (.duplicateColumn "N")), c) ∧
      c.load (fun _ _ => none) "new" rows =
        (none, ⟨⟨c.kept.tables ++ [.ofRows "new" rows]⟩, none⟩) := by
  intro c rows mixed full
  have hrows : rows ≠ [] := List.cons_ne_nil _ _
  have hmixed : mixed ≠ [] := List.cons_ne_nil _ _
  -- what the theorem leaves open is which error it is
  have hfails {result : Option StoreError × Connection} {e : StoreError}
      (h : ∃ e, result = (some e, c)) (he : result.1 = some e) : result = (some e, c) := by
    obtain ⟨e', rfl⟩ := h
    exact congrArg (·, c) he
  refine ⟨?_, ?_, ?_, ?_⟩
  · refine hfails ?_ (by decide)
    exact (load_allOrNothing full c "new" rows).2.2.2.1 hrows (Or.inr ⟨1, by decide, by decide⟩)
  · refine hfails ?_ (by decide)
    exact (load_allOrNothing (fun _ _ => none) c "OLD" rows).2.2.2.1 hrows
      (Or.inl (.taken List.mem_cons_self (by decide)))
  · refine hfails ?_ (by decide)
    exact (load_allOrNothing (fun _ _ => none) c "new" mixed).2.2.2.1 hmixed
      (Or.inl (@Clashes.columns _ _ _ "n" "N" (by decide) (by decide) (by decide) (by decide)))
  · have hload : c.kept.load "new" rows = .ok ⟨c.kept.tables ++ [.ofRows "new" rows]⟩ :=
      Database.create_eq_ok_iff.2 ⟨by decide, by decide, by decide, by decide, rfl⟩
    have h := (load_allOrNothing (fun _ _ => none) c "new" rows).2.2.2.2 rfl fun _ _ => rfl
    rwa [hload] at h

end Connection

end QueryLoom
