import Mathlib.Data.List.Induction
import QueryLoom.Query.Preview

/-!
# Aliases of columns

Aliases are kept under the names of table and field with a point between, so a point inside a name
can make two columns share one alias.

1. **Sharing**: `Column.Confused` is the one way in which two different columns have the same key: a
   table's name holds a point, and what follows it stands before a point in a field's name
   (`Column.key_eq_iff`).
2. **Runs**: `Aliases.setAll` sets names one after the other. Under each key the last one is found
   (`Aliases.get?_setAll`).
3. **Columns of a result**: a name changes only columns with the key that it is set under
   (`Scope.output?_set`, `Request.previewOutput_set`).
4. **Main statement**: `Aliases.setAll_reaches`.
-/

namespace QueryLoom

open Sql

/-! ## Sharing -/

namespace Sql.Column

/-- The key under which the alias of a column is kept. -/
def key (c : Column) : String := qualifiedName c.table c.field

/-- Whether the table of the second column is that of the first with a point and a text after it,
and the field of the first that text and a point before the field of the second. -/
def Confused (c d : Column) : Prop :=
  ∃ x, d.table = c.table ++ "." ++ x ∧ c.field = x ++ "." ++ d.field

/-- Whether two columns have one key without being the same. -/
def Shares (c d : Column) : Prop := Confused c d ∨ Confused d c

variable {c d : Column}

theorem toList_key (c : Column) : c.key.toList = c.table.toList ++ '.' :: c.field.toList := by
  simp [key, qualifiedName]

theorem Confused.key_eq (h : Confused c d) : c.key = d.key := by
  obtain ⟨x, htable, hfield⟩ := h
  simp only [key, qualifiedName, htable, hfield, String.append_assoc]

/-- Two columns with one key, the table of the first having the shorter name. -/
theorem eq_or_confused_of_append {y : List Char} (htable : d.table.toList = c.table.toList ++ y)
    (h : '.' :: c.field.toList = y ++ '.' :: d.field.toList) : c = d ∨ Confused c d := by
  cases y with
  | nil =>
    obtain ⟨-, hfield⟩ := List.cons.inj h
    rw [List.append_nil] at htable
    obtain ⟨t, f⟩ := c
    obtain ⟨t', f'⟩ := d
    obtain rfl : t' = t := String.toList_inj.1 htable
    obtain rfl : f = f' := String.toList_inj.1 hfield
    exact .inl rfl
  | cons p x =>
    -- the point after the first table's name stands inside the second's
    obtain ⟨rfl, hfield⟩ := List.cons.inj h
    refine .inr ⟨String.ofList x, String.toList_inj.1 ?_, String.toList_inj.1 ?_⟩
    · simp [htable]
    · simp [hfield]

/-- Two columns have one key exactly if they are the same or one is confused with the other. -/
theorem key_eq_iff : c.key = d.key ↔ c = d ∨ c.Shares d := by
  constructor
  · intro h
    have hchars := congrArg String.toList h
    rw [toList_key, toList_key] at hchars
    rcases List.append_eq_append_iff.1 hchars with ⟨y, htable, hfield⟩ | ⟨y, htable, hfield⟩
    · exact (eq_or_confused_of_append htable hfield).imp_right .inl
    · exact (eq_or_confused_of_append htable hfield).imp Eq.symm .inr
  · rintro (rfl | h | h)
    · rfl
    · exact h.key_eq
    · exact h.key_eq.symm

/-- Columns that share a key have a point in the name of a table and in the name of a field. -/
theorem Shares.points (h : c.Shares d) :
    ('.' ∈ c.table.toList ∨ '.' ∈ d.table.toList) ∧
      ('.' ∈ c.field.toList ∨ '.' ∈ d.field.toList) := by
  rcases h with ⟨x, htable, hfield⟩ | ⟨x, htable, hfield⟩
  · exact ⟨.inr (by simp [htable]), .inl (by simp [hfield])⟩
  · exact ⟨.inl (by simp [htable]), .inr (by simp [hfield])⟩

end Sql.Column

/-! ## Runs -/

/-- A display name to be set for a column. -/
structure Naming where
  column : Column
  name : String
deriving DecidableEq, Repr

namespace Naming

/-- The last name for one of the columns that are meant. -/
def last? (ns : List Naming) (meant : Column → Bool) : Option String :=
  (ns.filter fun n => meant n.column).getLast?.map (·.name)

variable {ns : List Naming} {meant meant' : Column → Bool}

theorem last?_append_singleton (ns : List Naming) (n : Naming) (meant : Column → Bool) :
    last? (ns ++ [n]) meant = if meant n.column then some n.name else last? ns meant := by
  by_cases h : meant n.column = true <;> simp [last?, h]

theorem last?_congr (h : ∀ n ∈ ns, meant n.column = meant' n.column) :
    last? ns meant = last? ns meant' := by
  rw [last?, last?, List.filter_congr h]

end Naming

namespace Aliases

/-- Sets the name of a column. -/
def set (a : Aliases) (n : Naming) : Aliases := a.insert n.column.table n.column.field n.name

/-- Sets names one after the other. -/
def setAll (a : Aliases) (ns : List Naming) : Aliases := ns.foldl set a

variable {a : Aliases} {n : Naming} {c d : Column}

theorem get?_eq (a : Aliases) (c : Column) :
    a.get? c.table c.field = (Entries.get? a.names c.key).filter (· ≠ "") := rfl

theorem names_set (a : Aliases) (n : Naming) :
    (a.set n).names = Entries.put a.names n.column.key n.name := rfl

theorem get?_set_of_key_eq (h : n.column.key = c.key) :
    (a.set n).get? c.table c.field = (some n.name).filter (· ≠ "") := by
  rw [get?_eq, names_set, h, Entries.get?_put_self]

theorem get?_set_of_key_ne (h : n.column.key ≠ c.key) :
    (a.set n).get? c.table c.field = a.get? c.table c.field := by
  rw [get?_eq, get?_eq, names_set, Entries.get?_put_of_ne _ _ (Ne.symm h)]

/-- The last name set under a column's key is found, a blank one counting as none. -/
theorem get?_setAll (ns : List Naming) (c : Column) :
    (setAll {} ns).get? c.table c.field =
      (Naming.last? ns fun d => d.key = c.key).filter (· ≠ "") := by
  induction ns using List.reverseRecOn with
  | nil => rfl
  | append_singleton ns n ih =>
    rw [setAll, List.foldl_append, Naming.last?_append_singleton]
    by_cases h : n.column.key = c.key
    · rw [if_pos (decide_eq_true h)]
      exact get?_set_of_key_eq h
    · rw [if_neg (by simpa using h), ← ih]
      exact get?_set_of_key_ne h

/-- Columns have the same alias whatever is set exactly if they have one key. -/
theorem get?_eq_iff :
    (∀ a : Aliases, a.get? c.table c.field = a.get? d.table d.field) ↔ c.key = d.key := by
  constructor
  · intro h
    by_contra hne
    -- a name for one of the two columns tells them apart
    have hset := h (set {} ⟨c, "x"⟩)
    rw [get?_set_of_key_eq rfl, get?_set_of_key_ne hne] at hset
    cases hset
  · intro h a
    rw [get?_eq, get?_eq, h]

end Aliases

/-! ## Columns of a result -/

variable {n : Naming} {c : Column}

/-- A field keeps its column of the result if a name is set under another key than its own. -/
theorem Scope.output?_set {s : Scope} {field : String} (hc : s.column? field = some c)
    (h : n.column.key ≠ c.key) :
    ({ s with aliases := s.aliases.set n } : Scope).output? field = s.output? field := by
  have hcolumn : ({ s with aliases := s.aliases.set n } : Scope).column? field = some c := hc
  rw [output?, output?, hcolumn, hc, Option.map_some, Option.map_some, title, title,
    Aliases.get?_set_of_key_ne h]

/-- So does a column of the preview. -/
theorem Request.previewOutput_set (r : Request) (h : n.column.key ≠ c.key) :
    ({ r with aliases := r.aliases.set n } : Request).previewOutput (c.table, c.field) =
      r.previewOutput (c.table, c.field) := by
  rw [previewOutput, previewOutput, Aliases.get?_set_of_key_ne h]

/-! ## Main statement -/

/-- After any run of names, a column has the last name set under its key, be it for the column
itself or for one that it shares the key with; a blank name counts as none. Only columns with points
in their names share keys, and if no such column was named, the last name set for the column itself
is found. A name set for any other column changes neither the alias nor the column of a result or of
a preview. Two columns have the same alias whatever is set exactly if they share a key. -/
theorem Aliases.setAll_reaches (ns : List Naming) (c : Column) :
    let found := (setAll {} ns).get? c.table c.field
    found = (Naming.last? ns fun d => d.key = c.key).filter (· ≠ "") ∧
    (∀ d : Column, d.key = c.key ↔ d = c ∨ d.Shares c) ∧
    (∀ d : Column, d.Shares c → ('.' ∈ d.table.toList ∨ '.' ∈ c.table.toList) ∧
      ('.' ∈ d.field.toList ∨ '.' ∈ c.field.toList)) ∧
    ((∀ n ∈ ns, ¬ n.column.Shares c) → found = (Naming.last? ns (· = c)).filter (· ≠ "")) ∧
    (∀ n : Naming, n.column ≠ c → ¬ n.column.Shares c →
      (∀ a : Aliases, (a.set n).get? c.table c.field = a.get? c.table c.field) ∧
      (∀ (s : Scope) (field : String), s.column? field = some c →
        ({ s with aliases := s.aliases.set n } : Scope).output? field = s.output? field) ∧
      ∀ r : Request,
        ({ r with aliases := r.aliases.set n } : Request).previewOutput (c.table, c.field) =
          r.previewOutput (c.table, c.field)) ∧
    ∀ d : Column,
      (∀ a : Aliases, a.get? c.table c.field = a.get? d.table d.field) ↔ c = d ∨ c.Shares d := by
  intro found
  have hfound := get?_setAll ns c
  refine ⟨hfound, fun d => Column.key_eq_iff, fun d h => h.points, ?unshared, ?others, ?alike⟩
  case unshared =>
    intro hnone
    have hlast : (Naming.last? ns fun d => d.key = c.key) = Naming.last? ns (· = c) := by
      apply Naming.last?_congr
      intro n hn
      rw [decide_eq_decide, Column.key_eq_iff, or_iff_left (hnone n hn)]
    rw [← hlast]
    exact hfound
  case others =>
    intro n hother hshares
    have hkey : n.column.key ≠ c.key := fun h => (Column.key_eq_iff.1 h).elim hother hshares
    exact ⟨fun _ => get?_set_of_key_ne hkey, fun _ _ hc => Scope.output?_set hc hkey,
      fun r => r.previewOutput_set hkey⟩
  case alike =>
    intro d
    rw [get?_eq_iff, Column.key_eq_iff]

/-- A name can reach a column that it was not set for. -/
theorem Aliases.not_reaches_own :
    ¬ ∀ (ns : List Naming) (c : Column), (setAll {} ns).get? c.table c.field =
      (Naming.last? ns (· = c)).filter (· ≠ "") := by
  intro hall
  exact absurd (hall [⟨⟨"a.b", "c"⟩, "X"⟩] ⟨"a", "b.c"⟩) (by decide)

end QueryLoom
