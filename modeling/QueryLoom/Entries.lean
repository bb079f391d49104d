/-!
# Ordered entries

1. `Entries α` lists values under text keys, in the order in which the keys were first set.
2. `Entries.put` sets a key: in place if it is there, at the end if not.
3. `Entries.ofList` sets the pairs of a list one after the other.
-/

namespace QueryLoom

/-- Values under text keys, in order. -/
abbrev Entries (α : Type) := List (String × α)

namespace Entries

variable {α : Type}

/-- Sets the value of a key: in place if the key is there, at the end if not. -/
def put : Entries α → String → α → Entries α
  | [], k, v => [(k, v)]
  | e :: es, k, v => if e.1 = k then (k, v) :: es else e :: put es k v

/-- The value of a key. -/
def get? (es : Entries α) (k : String) : Option α := (es.find? (·.1 = k)).map (·.2)

/-- The keys, in order. -/
def keys (es : Entries α) : List String := es.map (·.1)

/-- The entries of a list of pairs, set one after the other. -/
def ofList (pairs : List (String × α)) : Entries α :=
  pairs.foldl (fun es p => put es p.1 p.2) []

/-! ## Setting a key -/

theorem get?_cons (e : String × α) (es : Entries α) (k : String) :
    get? (e :: es) k = if e.1 = k then some e.2 else get? es k := by
  by_cases h : e.1 = k <;> simp [get?, h]

theorem get?_put_self (es : Entries α) (k : String) (v : α) : get? (put es k v) k = some v := by
  induction es with
  | nil => simp [put, get?]
  | cons e es ih => by_cases h : e.1 = k <;> simp [put, h, get?_cons, ih]

theorem get?_put_of_ne (es : Entries α) {k l : String} (v : α) (h : l ≠ k) :
    get? (put es k v) l = get? es l := by
  induction es with
  | nil => simp [put, get?, h.symm]
  | cons e es ih =>
    by_cases he : e.1 = k
    · subst he; simp [put, get?_cons, h.symm]
    · simp only [put, he, if_false, get?_cons, ih]

/-- Setting a key keeps the keys as they are, or adds it at the end. -/
theorem keys_put (es : Entries α) (k : String) (v : α) :
    keys (put es k v) = if k ∈ keys es then keys es else keys es ++ [k] := by
  induction es with
  | nil => simp [put, keys]
  | cons e es ih =>
    by_cases h : e.1 = k
    · subst h; simp [put, keys]
    · have h' : k ≠ e.1 := fun h'' => h h''.symm
      simp only [keys] at ih
      by_cases hm : k ∈ es.map (·.1) <;> simp [put, h, h', keys, ih, hm]

end Entries

end QueryLoom
