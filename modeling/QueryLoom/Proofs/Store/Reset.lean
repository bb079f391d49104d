import QueryLoom.Proofs.Model.Distinct
import QueryLoom.Store.Database

/-!
# Loading a dataset over a store

1. **Names**: `Like` is the matching of names against patterns with wildcards. The user's tables are
   those that `sqlite_%` does not match, where `_` is a wildcard too (`isUserName_iff`).
2. **One table**: a table is made at the end or not at all (`Database.create_eq_ok_iff`).
3. **A list of tables**: they are made one after the other up to the first that is refused
   (`Database.loadAll_eq_none`, `Database.loadAll_eq_some`).
4. **Replacing**: what a store holds and lists after a dataset was loaded over it
   (`Database.reset_lists`), and what it holds if the loading failed (`Database.reset_stops`).
-/

namespace QueryLoom

/-! ## Names -/

/-- Whether a text matches a pattern, in which `_` stands for any one character, `%` for any text
and every other character for itself up to the case of ASCII letters. -/
inductive Like : List Char → List Char → Prop
  | nil : Like [] []
  | any {c : Char} {ps cs : List Char} : Like ps cs → Like ('_' :: ps) (c :: cs)
  | empty {ps cs : List Char} : Like ps cs → Like ('%' :: ps) cs
  | more {c : Char} {ps cs : List Char} : Like ('%' :: ps) cs → Like ('%' :: ps) (c :: cs)
  | char {p c : Char} {ps cs : List Char} : p ≠ '_' → p ≠ '%' → p.toLower = c.toLower →
    Like ps cs → Like (p :: ps) (c :: cs)

namespace Like

/-- A pattern that matches every text. -/
theorem percent (cs : List Char) : Like ['%'] cs := by
  induction cs with
  | nil => exact .empty .nil
  | cons c cs ih => exact .more ih

/-- Letters, then one character at least. -/
theorem letters_iff {ls cs : List Char} (hls : ∀ l ∈ ls, l ≠ '_' ∧ l ≠ '%' ∧ l.toLower = l) :
    Like (ls ++ ['_', '%']) cs ↔ ls <+: cs.map Char.toLower ∧ ls.length < cs.length := by
  induction ls generalizing cs with
  | nil =>
    constructor
    · intro h
      cases h with
      | any _ => exact ⟨List.nil_prefix, Nat.succ_pos _⟩
      | char hany => exact absurd rfl hany
    · rintro ⟨-, hlength⟩
      cases cs with
      | nil => exact absurd hlength (Nat.lt_irrefl 0)
      | cons c cs => exact .any (percent cs)
  | cons l ls ih =>
    obtain ⟨hany, hsome, hlower⟩ := hls l List.mem_cons_self
    have hrest : ∀ ds, Like (ls ++ ['_', '%']) ds ↔
        ls <+: ds.map Char.toLower ∧ ls.length < ds.length :=
      fun ds => ih fun k hk => hls k (List.mem_cons_of_mem _ hk)
    constructor
    · intro h
      cases h with
      | any _ => exact absurd rfl hany
      | empty _ => exact absurd rfl hsome
      | more _ => exact absurd rfl hsome
      | @char _ c _ cs _ _ hc h =>
        obtain ⟨hletters, hlength⟩ := (hrest cs).1 h
        rw [List.map_cons, ← hc, hlower]
        exact ⟨List.cons_prefix_cons.2 ⟨rfl, hletters⟩, Nat.succ_lt_succ hlength⟩
    · rintro ⟨hletters, hlength⟩
      cases cs with
      | nil => exact absurd hlength (Nat.not_lt_zero _)
      | cons c cs =>
        obtain ⟨hc, hletters⟩ := List.cons_prefix_cons.1 hletters
        have hmatch := (hrest cs).2 ⟨hletters, Nat.lt_of_succ_lt_succ hlength⟩
        exact .char hany hsome (hlower.trans hc) hmatch

end Like

/-- The pattern that names are compared with. -/
def ownPattern : List Char := ownLetters ++ ['_', '%']

/-- A table counts as the user's exactly if the pattern does not match its name. -/
theorem isUserName_iff {name : String} :
    isUserName name = true ↔ ¬ Like ownPattern name.toList := by
  have hletters : ∀ l ∈ ownLetters, l ≠ '_' ∧ l ≠ '%' ∧ l.toLower = l := by
    intro l hl
    simp only [ownLetters, List.mem_cons, List.not_mem_nil, or_false] at hl
    rcases hl with rfl | rfl | rfl | rfl | rfl | rfl <;> decide
  rw [ownPattern, Like.letters_iff hletters, ← List.isPrefixOf_iff_prefix, isUserName, foldedName,
    String.length_toList, Bool.not_eq_true', ← Bool.not_eq_true, Bool.and_eq_true,
    decide_eq_true_eq]

/-! ## One table -/

/-- The tables of a list that are made: those that have rows. -/
def filled (ts : List (String × List Row)) : List (String × List Row) :=
  ts.filter fun t => !t.2.isEmpty

/-- A table of a list as it is stored. -/
def storedAs (t : String × List Row) : StoredTable := .ofRows t.1 t.2

/-- A table of a list as it is listed: its name and the columns of its rows, in the order in which
they are first mentioned. -/
def listedAs (t : String × List Row) : Listing := ⟨t.1, distinct (t.2.flatMap Row.columns)⟩

theorem columnNames_storedAs (t : String × List Row) :
    (storedAs t).columns.map (·.name) = distinct (t.2.flatMap Row.columns) := by
  simp [storedAs, StoredTable.ofRows, StoredTable.columnOf, StoredTable.columnNames,
    Function.comp_def]

theorem filled_cons_of_empty {t : String × List Row} (h : t.2.isEmpty = true)
    (ts : List (String × List Row)) : filled (t :: ts) = filled ts := by
  simp [filled, h]

theorem filled_cons_of_rows {t : String × List Row} (h : t.2.isEmpty = false)
    (ts : List (String × List Row)) : filled (t :: ts) = t :: filled ts := by
  simp [filled, h]

namespace Database

variable {db db' : Database} {e : DatabaseError}

/-- When a table is made: its name can be one and is free, and its columns can be. It comes after
all others. -/
theorem create_eq_ok_iff {t : StoredTable} :
    db.create t = .ok db' ↔
      wholeName t.name = .ok () ∧ isReserved t.name = false ∧ db.table? t.name = none ∧
        t.check = .ok () ∧ db' = ⟨db.tables ++ [t]⟩ := by
  simp only [create, bind, Except.bind]
  cases wholeName t.name with
  | error e => simp
  | ok =>
    cases isReserved t.name with
    | true => simp
    | false =>
      cases db.table? t.name with
      | some u => simp
      | none =>
        cases t.check with
        | error e => simp
        | ok => simp [eq_comm]

theorem create_eq_ok {t : StoredTable} (h : db.create t = .ok db') :
    db.table? t.name = none ∧ db' = ⟨db.tables ++ [t]⟩ := by
  obtain ⟨-, -, hfree, -, hdb'⟩ := create_eq_ok_iff.1 h
  exact ⟨hfree, hdb'⟩

theorem load_of_empty {t : String × List Row} (h : t.2.isEmpty = true) :
    db.load t.1 t.2 = .ok db := by
  rw [load, if_pos h]

theorem load_of_rows {t : String × List Row} (h : t.2.isEmpty = false) :
    db.load t.1 t.2 = db.create (storedAs t) := by
  rw [load, h, if_neg Bool.false_ne_true, storedAs]

/-- No table of a name, if none in more tables has it. -/
theorem table?_eq_none_of_append {ts : List StoredTable} {name : String}
    (h : table? ⟨db.tables ++ ts⟩ name = none) : db.table? name = none := by
  rw [table?, List.find?_eq_none] at h ⊢
  intro t ht
  exact h t (List.mem_append_left _ ht)

/-! ## A list of tables -/

/-- If nothing is refused, all tables with rows are made in order, and no table had their names
before. -/
theorem loadAll_eq_none {ts : List (String × List Row)} (h : db.loadAll ts = (none, db')) :
    db' = ⟨db.tables ++ (filled ts).map storedAs⟩ ∧ ∀ t ∈ filled ts, db.table? t.1 = none := by
  induction ts generalizing db with
  | nil =>
    cases h
    exact ⟨by simp [filled], nofun⟩
  | cons t ts ih =>
    cases hrows : t.2.isEmpty with
    | true =>
      simp only [loadAll, load_of_empty hrows] at h
      rw [filled_cons_of_empty hrows]
      exact ih h
    | false =>
      simp only [loadAll, load_of_rows hrows] at h
      rw [filled_cons_of_rows hrows]
      cases hcreate : db.create (storedAs t) with
      | error e =>
        rw [hcreate] at h
        cases h
      | ok next =>
        rw [hcreate] at h
        obtain ⟨hfree, rfl⟩ := create_eq_ok hcreate
        obtain ⟨hdb', hlater⟩ := ih h
        refine ⟨by rw [hdb']; simp, ?_⟩
        rintro u hu
        rcases List.mem_cons.1 hu with rfl | hu
        · exact hfree
        · exact table?_eq_none_of_append (hlater u hu)

/-- If a table is refused, those before it have been made, and the ones after it are not tried. -/
theorem loadAll_eq_some {ts : List (String × List Row)} (h : db.loadAll ts = (some e, db')) :
    ∃ before t after, ts = before ++ t :: after ∧ t.2.isEmpty = false ∧
      db' = ⟨db.tables ++ (filled before).map storedAs⟩ ∧ db'.create (storedAs t) = .error e := by
  induction ts generalizing db with
  | nil => cases h
  | cons t ts ih =>
    cases hrows : t.2.isEmpty with
    | true =>
      simp only [loadAll, load_of_empty hrows] at h
      obtain ⟨before, u, after, rfl, hu, hdb', hrefused⟩ := ih h
      exact ⟨t :: before, u, after, rfl, hu, by rw [hdb', filled_cons_of_empty hrows], hrefused⟩
    | false =>
      simp only [loadAll, load_of_rows hrows] at h
      cases hcreate : db.create (storedAs t) with
      | error e' =>
        -- this is the table that is refused
        rw [hcreate] at h
        cases h
        exact ⟨[], t, ts, rfl, hrows, by simp [filled], hcreate⟩
      | ok next =>
        rw [hcreate] at h
        obtain ⟨-, rfl⟩ := create_eq_ok hcreate
        obtain ⟨before, u, after, rfl, hu, hdb', hrefused⟩ := ih h
        refine ⟨t :: before, u, after, rfl, hu, ?_, hrefused⟩
        rw [hdb', filled_cons_of_rows hrows]
        simp

/-! ## Replacing -/

/-- The tables that count as the user's. -/
def userTables (db : Database) : List StoredTable := db.tables.filter fun t => isUserName t.name

theorem listings_eq (db : Database) :
    db.listings = db.userTables.map fun t => ⟨t.name, t.columns.map (·.name)⟩ := rfl

@[simp] theorem userTables_append (ts us : List StoredTable) :
    userTables ⟨ts ++ us⟩ = userTables ⟨ts⟩ ++ userTables ⟨us⟩ :=
  List.filter_append ts us

@[simp] theorem cleared_append (ts us : List StoredTable) :
    cleared ⟨ts ++ us⟩ = ⟨(cleared ⟨ts⟩).tables ++ (cleared ⟨us⟩).tables⟩ :=
  congrArg Database.mk (List.filter_append ts us)

@[simp] theorem userTables_cleared (db : Database) : db.cleared.userTables = [] := by
  simp [userTables, cleared, List.filter_filter]

@[simp] theorem cleared_cleared (db : Database) : db.cleared.cleared = db.cleared := by
  simp [cleared, List.filter_filter]

/-- Tables are all the user's exactly if none of them outlives the user's tables. -/
theorem cleared_eq_nil_iff {ts : List StoredTable} :
    (cleared ⟨ts⟩).tables = [] ↔ userTables ⟨ts⟩ = ts := by
  simp [cleared, userTables, List.filter_eq_nil_iff, List.filter_eq_self]

/-- Whether the names of all tables that a dataset makes count as the user's. -/
def IsVisible (ds : Dataset) : Prop := ∀ t ∈ filled ds.tables, ¬ Like ownPattern t.1.toList

theorem isVisible_iff {ds : Dataset} :
    IsVisible ds ↔ ∀ t ∈ filled ds.tables, isUserName t.1 = true := by
  simp only [IsVisible, isUserName_iff]

theorem userTables_storedAs (ts : List (String × List Row)) :
    userTables ⟨ts.map storedAs⟩ = (ts.filter fun t => isUserName t.1).map storedAs := by
  rw [userTables, List.filter_map]
  rfl

theorem listings_storedAs (ts : List (String × List Row)) :
    listings ⟨ts.map storedAs⟩ = (ts.filter fun t => isUserName t.1).map listedAs := by
  rw [listings_eq, userTables_storedAs, List.map_map]
  apply List.map_congr_left
  intro t _
  rw [Function.comp_apply, columnNames_storedAs]
  rfl

theorem cleared_storedAs {ds : Dataset} (h : IsVisible ds) :
    (cleared ⟨(filled ds.tables).map storedAs⟩).tables = [] := by
  rw [cleared_eq_nil_iff, userTables_storedAs, List.filter_eq_self.2 (isVisible_iff.1 h)]

theorem sameName_self (name : String) : sameName name name = true := by
  simp [sameName]

/-- A table whose name does not count as the user's is still there when its dataset is loaded once
more. -/
theorem isVisible_of_reset_twice {ds : Dataset}
    (hdb' : db' = ⟨db.cleared.tables ++ (filled ds.tables).map storedAs⟩)
    (h : (db'.reset ds).1 = none) : IsVisible ds := by
  rw [isVisible_iff]
  intro t ht
  cases hname : isUserName t.1 with
  | true => rfl
  | false =>
    exfalso
    have hagain : db'.reset ds = (none, (db'.reset ds).2) := Prod.ext h rfl
    have hfree := (loadAll_eq_none hagain).2 t ht
    have hmem : storedAs t ∈ db'.cleared.tables := by
      rw [hdb', cleared_append]
      refine List.mem_append_right _ (List.mem_filter.2 ⟨List.mem_map_of_mem ht, ?_⟩)
      show (!isUserName t.1) = true
      rw [hname]
      rfl
    rw [table?, List.find?_eq_none] at hfree
    exact hfree _ hmem (sameName_self t.1)

/-- A dataset that was loaded over a store takes the place of the user's tables: all its tables with
rows are made, in order, each with the columns of its rows. Listed are those of them whose names
count as the user's. These are all of them, and loading the dataset once more succeeds, exactly if
the pattern `sqlite_%` matches none of their names; then the store stays as it is. -/
theorem reset_lists {ds : Dataset} (h : db.reset ds = (none, db')) :
    db'.tables = db.cleared.tables ++ (filled ds.tables).map storedAs ∧
    db'.listings = ((filled ds.tables).filter fun t => isUserName t.1).map listedAs ∧
    (IsVisible ds ↔ db'.listings = (filled ds.tables).map listedAs) ∧
    (IsVisible ds ↔ (db'.reset ds).1 = none) ∧
    (IsVisible ds → db'.reset ds = (none, db')) := by
  have hdb' : db' = ⟨db.cleared.tables ++ (filled ds.tables).map storedAs⟩ := (loadAll_eq_none h).1
  have hlistings : db'.listings =
      ((filled ds.tables).filter fun t => isUserName t.1).map listedAs := by
    rw [← listings_storedAs, listings_eq, listings_eq, hdb', userTables_append]
    show (db.cleared.userTables ++ _).map _ = _
    rw [userTables_cleared, List.nil_append]
  have hagain : IsVisible ds → db'.reset ds = (none, db') := by
    intro hvisible
    -- what the dataset made is dropped again, so the second loading starts where the first did
    have hcleared : db'.cleared = db.cleared := by
      rw [hdb', cleared_append, cleared_storedAs hvisible, List.append_nil]
      exact cleared_cleared db
    rw [reset, hcleared]
    exact h
  refine ⟨by rw [hdb'], hlistings, ?_, ?_, hagain⟩
  · rw [hlistings, isVisible_iff]
    constructor
    · intro hvisible
      rw [List.filter_eq_self.2 hvisible]
    · intro hall
      have hlength := congrArg List.length hall
      rw [List.length_map, List.length_map] at hlength
      exact List.length_filter_eq_length_iff.1 hlength
  · constructor
    · intro hvisible
      rw [hagain hvisible]
    · exact isVisible_of_reset_twice hdb'

/-- A dataset of three tables over a store that holds two. The last table of the dataset begins with
the letters of the database's own names: it is made, but it is not listed, and it is in the way when
the dataset is loaded once more. -/
theorem reset_lists_hidden :
    let db : Database := ⟨[storedAs ("SQLite1", [⟨[("x", .integer 1)]⟩]),
      storedAs ("old", [⟨[("x", .integer 1)]⟩])]⟩
    let ds : Dataset := ⟨[("a", [⟨[("x", .integer 1)]⟩, ⟨[("y", .text "2"), ("x", .null)]⟩]),
      ("empty", []), ("sqlitex", [⟨[("x", .integer 1)]⟩])]⟩
    let db' := (db.reset ds).2
    db.reset ds = (none, db') ∧
      db'.tables.map (·.name) = ["SQLite1", "a", "sqlitex"] ∧ db'.listings = [⟨"a", ["x", "y"]⟩] ∧
      ¬ IsVisible ds ∧ (db'.reset ds).1 ≠ none := by
  intro db ds db'
  have h : db.reset ds = (none, db') := Prod.ext (by decide) rfl
  obtain ⟨htables, hlistings, -, hagain, -⟩ := reset_lists h
  have htwice : (db'.reset ds).1 ≠ none := by decide
  refine ⟨h, ?_, ?_, ?_, htwice⟩
  · rw [htables]
    decide
  · rw [hlistings]
    decide
  · intro hvisible
    exact htwice (hagain.1 hvisible)

/-- A store need not list all tables of a dataset that was loaded. -/
theorem not_lists_all :
    ¬ ∀ (db db' : Database) (ds : Dataset), db.reset ds = (none, db') →
      db'.listings = (filled ds.tables).map listedAs ∧ (db'.reset ds).1 = none := by
  intro hall
  let ds : Dataset := ⟨[("sqlitex", [⟨[("x", .integer 1)]⟩])]⟩
  have h : ({} : Database).reset ds = (none, (({} : Database).reset ds).2) :=
    Prod.ext (by decide) rfl
  have hlistings := (hall _ _ ds h).1
  exact absurd hlistings (by decide)

/-- A loading that failed has dropped the user's tables and made those of the dataset that come
before the one refused. So it leaves the store as it was exactly if the tables made are the user's
tables that were dropped, at the places where they stood; a user's table is left only if it was made
anew. -/
theorem reset_stops {ds : Dataset} (h : db.reset ds = (some e, db')) :
    ∃ before t after, ds.tables = before ++ t :: after ∧ t.2.isEmpty = false ∧
      db'.create (storedAs t) = .error e ∧
      db'.tables = db.cleared.tables ++ (filled before).map storedAs ∧
      (db' = db ↔ db.userTables = (filled before).map storedAs ∧
        db.tables = db.cleared.tables ++ db.userTables) ∧
      ∀ u ∈ db.userTables, u ∈ db'.tables ↔ u ∈ (filled before).map storedAs := by
  obtain ⟨before, t, after, hts, hrows, hdb', hrefused⟩ := loadAll_eq_some h
  refine ⟨before, t, after, hts, hrows, hrefused, by rw [hdb'], ?_, ?_⟩
  · constructor
    · intro hsame
      rw [hsame] at hdb'
      -- no table that was made is hidden, for the store had no other hidden tables than it kept
      have hhidden : (cleared ⟨(filled before).map storedAs⟩).tables = [] := by
        have hcleared := congrArg (fun d => (cleared d).tables) hdb'
        simp only [cleared_append] at hcleared
        have hkept : (cleared ⟨db.cleared.tables⟩).tables = db.cleared.tables :=
          congrArg Database.tables (cleared_cleared db)
        rw [hkept] at hcleared
        exact List.self_eq_append_right.1 hcleared
      have huser : db.userTables = (filled before).map storedAs := by
        have huser := congrArg userTables hdb'
        rw [userTables_append, cleared_eq_nil_iff.1 hhidden] at huser
        have hnone : userTables ⟨db.cleared.tables⟩ = [] := userTables_cleared db
        rwa [hnone, List.nil_append] at huser
      refine ⟨huser, ?_⟩
      rw [huser]
      exact congrArg Database.tables hdb'
    · rintro ⟨huser, hplaces⟩
      rw [hdb', ← huser, ← hplaces]
  · intro u hu
    rw [hdb', List.mem_append]
    constructor
    · rintro (hhidden | hmade)
      · -- a user's table is not among those kept
        have hname := (List.mem_filter.1 hhidden).2
        rw [(List.mem_filter.1 hu).2] at hname
        cases hname
      · exact hmade
    · exact Or.inr

/-- Two tables of a dataset whose names differ in letter case. The first one has taken the place of
the table that was there before the second one is refused. -/
theorem reset_stops_clash :
    let db : Database := ⟨[storedAs ("old", [⟨[("x", .integer 1)]⟩])]⟩
    let ds : Dataset := ⟨[("new", [⟨[("y", .integer 1)]⟩]), ("NEW", [⟨[("y", .integer 2)]⟩])]⟩
    let db' := (db.reset ds).2
    db.reset ds = (some (.tableExists "NEW"), db') ∧ db.listings = [⟨"old", ["x"]⟩] ∧
      db'.listings = [⟨"new", ["y"]⟩] ∧
      ∃ before t after, ds.tables = before ++ t :: after ∧ t.2.isEmpty = false ∧
        db'.create (storedAs t) = .error (.tableExists "NEW") ∧
        db'.tables = db.cleared.tables ++ (filled before).map storedAs := by
  intro db ds db'
  have h : db.reset ds = (some (.tableExists "NEW"), db') := Prod.ext (by decide) rfl
  obtain ⟨before, t, after, hts, hrows, hrefused, htables, -, -⟩ := reset_stops h
  exact ⟨h, by decide, by decide, before, t, after, hts, hrows, hrefused, htables⟩

/-- A loading that failed need not leave the store as it was. -/
theorem not_reset_atomic :
    ¬ ∀ (db db' : Database) (ds : Dataset) (e : DatabaseError),
      db.reset ds = (some e, db') → db'.tables = db.tables := by
  intro hall
  let db : Database := ⟨[storedAs ("old", [⟨[("x", .integer 1)]⟩])]⟩
  let ds : Dataset := ⟨[("new", [⟨[("y", .integer 1)]⟩]), ("NEW", [⟨[("y", .integer 2)]⟩])]⟩
  have h : db.reset ds = (some (.tableExists "NEW"), (db.reset ds).2) := Prod.ext (by decide) rfl
  have hnames := congrArg (List.map StoredTable.name) (hall db _ ds _ h)
  exact absurd hnames (by decide)

end Database

end QueryLoom
