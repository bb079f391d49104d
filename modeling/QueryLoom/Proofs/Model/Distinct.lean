import QueryLoom.Model

/-!
# Items kept once

`distinctAfter seen xs` keeps of a list what has not been seen, each item once and in order:

1. which items it keeps (`mem_distinctAfter`) and that it keeps none twice (`nodup_distinctAfter`);
2. how it goes through a list in two parts (`distinctAfter_append`), where what the first part gave
   counts as seen in the second;
3. that it is what is left of the list when the seen items and then all repeats are taken out
   (`distinctAfter_eq`).
-/

namespace QueryLoom

/-- An item that has not been seen is the first of those that are kept, and counts as seen in the
rest of the list. -/
theorem eraseDups_filter_cons {α : Type} [DecidableEq α] {seen seen' : List α} {x : α}
    (hx : x ∉ seen) (hseen : ∀ y, y ∈ seen' ↔ y = x ∨ y ∈ seen) (xs : List α) :
    ((x :: xs).filter (· ∉ seen)).eraseDups = x :: (xs.filter (· ∉ seen')).eraseDups := by
  rw [List.filter_cons_of_pos (by simpa using hx), List.eraseDups_cons, List.filter_filter]
  congr 2
  apply List.filter_congr
  intro y _
  rw [Bool.eq_iff_iff]
  simp [hseen]

theorem mem_distinctAfter {x : String} {seen xs : List String} :
    x ∈ distinctAfter seen xs ↔ x ∈ xs ∧ x ∉ seen := by
  induction xs generalizing seen with
  | nil => simp [distinctAfter]
  | cons y ys ih =>
    simp only [distinctAfter]
    split
    · rename_i hseen
      have hy : y ∈ seen := List.contains_iff_mem.1 hseen
      rw [ih, List.mem_cons]
      constructor
      · rintro ⟨hx, hnew⟩
        exact ⟨Or.inr hx, hnew⟩
      · rintro ⟨rfl | hx, hnew⟩
        · exact absurd hy hnew
        · exact ⟨hx, hnew⟩
    · rename_i hseen
      have hy : y ∉ seen := fun h => hseen (List.contains_iff_mem.2 h)
      simp only [List.mem_cons, ih, not_or]
      constructor
      · rintro (rfl | ⟨hx, _, hnew⟩)
        · exact ⟨Or.inl rfl, hy⟩
        · exact ⟨Or.inr hx, hnew⟩
      · rintro ⟨hx, hnew⟩
        by_cases hxy : x = y
        · exact Or.inl hxy
        · exact Or.inr ⟨hx.resolve_left hxy, hxy, hnew⟩

theorem mem_distinct {x : String} {xs : List String} : x ∈ distinct xs ↔ x ∈ xs := by
  simp [distinct, mem_distinctAfter]

theorem nodup_distinctAfter (seen xs : List String) : (distinctAfter seen xs).Nodup := by
  induction xs generalizing seen with
  | nil => exact List.nodup_nil
  | cons y ys ih =>
    simp only [distinctAfter]
    split
    · exact ih seen
    · refine List.nodup_cons.2 ⟨?_, ih _⟩
      intro hy
      exact (mem_distinctAfter.1 hy).2 List.mem_cons_self

/-- Only what has been seen matters, not in which order. -/
theorem distinctAfter_congr {seen seen' : List String} (h : ∀ x, x ∈ seen ↔ x ∈ seen')
    (xs : List String) : distinctAfter seen xs = distinctAfter seen' xs := by
  induction xs generalizing seen seen' with
  | nil => rfl
  | cons y ys ih =>
    have hy : seen.contains y = seen'.contains y := by
      rw [Bool.eq_iff_iff, List.contains_iff_mem, List.contains_iff_mem, h]
    have hcons : ∀ x, x ∈ y :: seen ↔ x ∈ y :: seen' := by
      intro x
      rw [List.mem_cons, List.mem_cons, h]
    simp only [distinctAfter, hy, ih h, ih hcons]

theorem distinctAfter_append (seen xs ys : List String) :
    distinctAfter seen (xs ++ ys) =
      distinctAfter seen xs ++ distinctAfter (seen ++ distinctAfter seen xs) ys := by
  induction xs generalizing seen with
  | nil => simp [distinctAfter]
  | cons x xs ih =>
    simp only [List.cons_append, distinctAfter]
    split
    · exact ih seen
    · -- the item counts as seen from here on, at the front instead of the end
      have hseen : ∀ y, y ∈ (x :: seen) ++ distinctAfter (x :: seen) xs ↔
          y ∈ seen ++ x :: distinctAfter (x :: seen) xs := by
        intro y
        simp only [List.mem_append, List.mem_cons]
        rw [or_assoc, or_left_comm]
      rw [ih, distinctAfter_congr hseen, List.cons_append]

theorem distinctAfter_eq (seen xs : List String) :
    distinctAfter seen xs = (xs.filter (· ∉ seen)).eraseDups := by
  induction xs generalizing seen with
  | nil => rfl
  | cons x xs ih =>
    by_cases hx : x ∈ seen
    · rw [distinctAfter, if_pos (List.contains_iff_mem.2 hx), ih,
        List.filter_cons_of_neg (by simpa using hx)]
    · rw [distinctAfter, if_neg (fun h => hx (List.contains_iff_mem.1 h)), ih,
        eraseDups_filter_cons hx fun _ => List.mem_cons]

theorem distinct_eq (xs : List String) : distinct xs = xs.eraseDups := by
  have hall : xs.filter (· ∉ ([] : List String)) = xs := List.filter_eq_self.2 (by simp)
  rw [distinct, distinctAfter_eq, hall]

/-- Unseen items that are all different are all kept. -/
theorem distinctAfter_of_nodup {seen xs : List String} (h : xs.Nodup) (hnew : ∀ x ∈ xs, x ∉ seen) :
    distinctAfter seen xs = xs := by
  induction xs generalizing seen with
  | nil => rfl
  | cons x xs ih =>
    rcases List.nodup_cons.1 h with ⟨hx, hxs⟩
    rcases List.forall_mem_cons.1 hnew with ⟨hfirst, hrest⟩
    rw [distinctAfter, if_neg (fun h => hfirst (List.contains_iff_mem.1 h)), ih hxs]
    intro y hy hmem
    rcases List.mem_cons.1 hmem with rfl | hmem
    · exact hx hy
    · exact hrest y hy hmem

theorem distinct_of_nodup {xs : List String} (h : xs.Nodup) : distinct xs = xs :=
  distinctAfter_of_nodup h fun _ _ => List.not_mem_nil

/-- Of seen items none is kept. -/
theorem distinctAfter_eq_nil {seen xs : List String} (h : ∀ x ∈ xs, x ∈ seen) :
    distinctAfter seen xs = [] := by
  rw [List.eq_nil_iff_forall_not_mem]
  intro x hx
  exact (mem_distinctAfter.1 hx).2 (h x (mem_distinctAfter.1 hx).1)

/-- A list without repeats stays one when unseen items are put after it. -/
theorem nodup_append_distinctAfter {seen : List String} (h : seen.Nodup) (xs : List String) :
    (seen ++ distinctAfter seen xs).Nodup := by
  refine List.nodup_append.2 ⟨h, nodup_distinctAfter seen xs, ?_⟩
  rintro x hx _ hnew rfl
  exact (mem_distinctAfter.1 hnew).2 hx

end QueryLoom
