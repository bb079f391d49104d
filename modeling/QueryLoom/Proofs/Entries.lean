import Mathlib.Data.List.Induction
import Mathlib.Data.List.Perm.Subperm
import QueryLoom.Entries

/-!
# Entries as maps

1. `Entries.Same` says that two lists of entries hold the same values under the same keys.
2. Setting pairs one after the other gives distinct keys (`Entries.nodup_keys_ofList`). Pairs whose
   keys are distinct already stay as they are (`Entries.ofList_of_nodup`).
3. What pairs come to that are set one after the other: each key once, where it stands first, with
   the value that it has last (`Entries.Collects`, `Entries.collects_ofList`).
4. With distinct keys the order does not matter to what is found (`Entries.same_of_perm`).
-/

namespace QueryLoom.Entries

variable {α : Type}

/-- Whether two lists of entries hold the same value under each key. -/
def Same (es es' : Entries α) : Prop := ∀ k, get? es k = get? es' k

theorem put_of_not_mem {es : Entries α} {k : String} (h : k ∉ keys es) (v : α) :
    put es k v = es ++ [(k, v)] := by
  induction es with
  | nil => rfl
  | cons e es ih =>
    have hne : e.1 ≠ k := fun he => h (he ▸ List.mem_cons_self)
    have hrest : k ∉ keys es := fun hk => h (List.mem_cons_of_mem _ hk)
    rw [put, if_neg hne, ih hrest, List.cons_append]

/-- Setting a key to the value that it has changes nothing. -/
theorem put_of_get? {es : Entries α} {k : String} {v : α} (h : get? es k = some v) :
    put es k v = es := by
  induction es with
  | nil => simp [get?] at h
  | cons e es ih =>
    rw [get?_cons] at h
    rw [put]
    split
    · rename_i he
      rw [if_pos he] at h
      rw [← he, ← Option.some.inj h]
    · rename_i he
      rw [if_neg he] at h
      rw [ih h]

theorem nodup_keys_put {es : Entries α} (h : (keys es).Nodup) (k : String) (v : α) :
    (keys (put es k v)).Nodup := by
  rw [keys_put]
  split
  · exact h
  · rename_i hk
    refine List.nodup_append.2 ⟨h, List.pairwise_singleton _ k, ?_⟩
    intro a ha b hb hab
    rw [hab, List.mem_singleton.1 hb] at ha
    exact hk ha

theorem ofList_append_singleton (ps : List (String × α)) (p : String × α) :
    ofList (ps ++ [p]) = put (ofList ps) p.1 p.2 := by
  simp [ofList]

/-- Whatever the pairs, the keys come out distinct. -/
theorem nodup_keys_ofList (ps : List (String × α)) : (keys (ofList ps)).Nodup := by
  induction ps using List.reverseRecOn with
  | nil => exact List.nodup_nil
  | append_singleton ps p ih =>
    rw [ofList_append_singleton]
    exact nodup_keys_put ih p.1 p.2

/-- Pairs with distinct keys are entries as they stand. -/
theorem ofList_of_nodup {ps : List (String × α)} (h : (keys ps).Nodup) : ofList ps = ps := by
  induction ps using List.reverseRecOn with
  | nil => rfl
  | append_singleton ps p ih =>
    simp only [keys, List.map_append, List.map_cons, List.map_nil] at h
    obtain ⟨hps, -, hdisjoint⟩ := List.nodup_append.1 h
    have hnew : p.1 ∉ keys ps := fun hp => hdisjoint _ hp _ (List.mem_singleton_self _) rfl
    rw [ofList_append_singleton, ih hps, put_of_not_mem hnew]

/-- No entry comes from elsewhere. -/
theorem mem_of_mem_put {es : Entries α} {k : String} {v : α} {e : String × α}
    (h : e ∈ put es k v) : e = (k, v) ∨ e ∈ es := by
  induction es with
  | nil => exact Or.inl (List.mem_singleton.1 h)
  | cons d es ih =>
    rw [put] at h
    split at h
    · rcases List.mem_cons.1 h with rfl | h
      · exact Or.inl rfl
      · exact Or.inr (List.mem_cons_of_mem d h)
    · rcases List.mem_cons.1 h with rfl | h
      · exact Or.inr List.mem_cons_self
      · exact (ih h).imp_right (List.mem_cons_of_mem d)

theorem mem_of_mem_ofList {ps : List (String × α)} {e : String × α} (h : e ∈ ofList ps) :
    e ∈ ps := by
  induction ps using List.reverseRecOn with
  | nil => exact h
  | append_singleton ps p ih =>
    rw [ofList_append_singleton] at h
    rw [List.mem_append, List.mem_singleton]
    exact (mem_of_mem_put h).symm.imp_left ih

/-- Whether entries are what pairs come to: each key once, in the order in which the keys stand
there first, with the value that the key has last. -/
structure Collects (ps : List (String × α)) (es : Entries α) : Prop where
  nodup : (keys es).Nodup
  order : keys es = (keys ps).eraseDups
  last : ∀ k, get? es k = get? ps.reverse k

theorem collects_ofList (ps : List (String × α)) : Collects ps (ofList ps) := by
  refine ⟨nodup_keys_ofList ps, ?order, ?last⟩
  case order =>
    induction ps using List.reverseRecOn with
    | nil => rfl
    | append_singleton ps p ih =>
      have hkeys : keys (ps ++ [p]) = keys ps ++ [p.1] := List.map_append
      rw [ofList_append_singleton, keys_put, ih, hkeys, List.eraseDups_append]
      by_cases hp : p.1 ∈ keys ps
      · simp [hp, List.removeAll]
      · simp [hp, List.removeAll, List.eraseDups_cons]
  case last =>
    intro k
    induction ps using List.reverseRecOn with
    | nil => rfl
    | append_singleton ps p ih =>
      rw [ofList_append_singleton, List.reverse_append, List.reverse_singleton,
        List.singleton_append, get?_cons]
      split
      · rename_i hk
        rw [← hk, get?_put_self]
      · rename_i hk
        rw [get?_put_of_ne _ _ (Ne.symm hk), ih]

/-- There is an entry for every pair exactly if the keys are distinct. -/
theorem length_ofList_eq_iff {ps : List (String × α)} :
    (ofList ps).length = ps.length ↔ (keys ps).Nodup := by
  constructor
  · intro hlength
    have hcollects := collects_ofList ps
    have hsubset : keys (ofList ps) ⊆ keys ps := by
      intro k hk
      rw [hcollects.order] at hk
      exact List.mem_eraseDups.1 hk
    have hle : (keys ps).length ≤ (keys (ofList ps)).length := by simp [keys, hlength]
    have hperm := (hcollects.nodup.subperm hsubset).perm_of_length_le hle
    exact hperm.nodup_iff.1 hcollects.nodup
  · intro hnodup
    rw [ofList_of_nodup hnodup]

/-- With distinct keys a value is found exactly under the key it stands with. -/
theorem get?_eq_some_iff {es : Entries α} (h : (keys es).Nodup) {k : String} {v : α} :
    get? es k = some v ↔ (k, v) ∈ es := by
  induction es with
  | nil => simp [get?]
  | cons e es ih =>
    obtain ⟨hnew, hes⟩ := List.nodup_cons.1 h
    rw [get?_cons, List.mem_cons]
    split
    · rename_i hk
      subst hk
      -- the key stands nowhere else
      have hrest : (e.1, v) ∉ es := fun hmem => hnew (List.mem_map.2 ⟨_, hmem, rfl⟩)
      constructor
      · intro hv
        exact Or.inl (Prod.ext rfl (Option.some.inj hv).symm)
      · rintro (he | hmem)
        · rw [← he]
        · exact absurd hmem hrest
    · rename_i hk
      rw [ih hes]
      constructor
      · exact Or.inr
      · rintro (he | hmem)
        · exact absurd (congrArg Prod.fst he).symm hk
        · exact hmem

/-- Entries with distinct keys hold the same in any order. -/
theorem same_of_perm {es es' : Entries α} (hperm : es.Perm es') (h : (keys es).Nodup) :
    Same es es' := by
  intro k
  have h' : (keys es').Nodup := (hperm.map _).nodup_iff.1 h
  apply Option.ext
  intro v
  rw [get?_eq_some_iff h, get?_eq_some_iff h', hperm.mem_iff]

end QueryLoom.Entries
