import QueryLoom.Text.Pattern

/-!
# Ways of matching

What `Pattern.ways` lists for the shapes of patterns that are in use.

1. **Runs**: of the ways of taking characters of a class the first takes the longest run
   (`exists_runs_eq`), which ends where the class does (`run_append`).
2. **Sequences**: one character and then another pattern (`ways_one_seq`), a run that is closed by a
   character of another class (`ways_group_run_seq`), and a run that must not be empty
   (`head?_ways_group_run`).
-/

namespace QueryLoom.Text.Pattern

/-! ## Runs -/

/-- The first way of taking characters of a class takes the longest run. Every other one leaves a
character of the class in front. -/
theorem exists_runs_eq (p : Char → Bool) (cs : List Char) :
    ∃ shorter, runs p cs = { taken := cs.takeWhile p, rest := cs.dropWhile p } :: shorter ∧
      ∀ w ∈ shorter, ∃ c rest, w.rest = c :: rest ∧ p c = true := by
  induction cs with
  | nil => exact ⟨[], rfl, nofun⟩
  | cons c cs ih =>
    rw [runs]
    cases hc : p c with
    | false => exact ⟨[], by simp [hc], nofun⟩
    | true =>
      obtain ⟨shorter, hruns, hshorter⟩ := ih
      refine ⟨shorter.map (.cons c) ++ [{ taken := [], rest := c :: cs }], ?_, ?_⟩
      · simp [hc, hruns, Way.cons]
      · -- another way takes `c` and then goes on in another way, or takes nothing
        intro w hw
        rcases List.mem_append.1 hw with hw | hw
        · obtain ⟨v, hv, rfl⟩ := List.mem_map.1 hw
          exact hshorter v hv
        · rw [List.mem_singleton.1 hw]
          exact ⟨c, cs, rfl, hc⟩

/-- The longest run ends where the class does. -/
theorem run_append {p : Char → Bool} {run rest : List Char} (hrun : ∀ c ∈ run, p c = true)
    (hrest : ∀ c ∈ rest.head?, p c = false) :
    (run ++ rest).takeWhile p = run ∧ (run ++ rest).dropWhile p = rest := by
  rw [List.takeWhile_append_of_pos hrun, List.dropWhile_append_of_pos hrun]
  cases rest with
  | nil => simp
  | cons c rest => simp [hrest c rfl]

/-! ## Sequences -/

theorem ways_one_cons {p : Char → Bool} {c : Char} (h : p c = true) (cs : List Char) :
    (one p).ways (c :: cs) = [{ taken := [c], rest := cs }] := by
  rw [ways, if_pos h]

theorem ways_one_cons_of_not {p : Char → Bool} {c : Char} (h : p c = false) (cs : List Char) :
    (one p).ways (c :: cs) = [] := by
  rw [ways, h, if_neg Bool.false_ne_true]

/-- A character of a class and then another pattern. -/
theorem ways_one_seq {p : Char → Bool} {c : Char} (h : p c = true) (b : Pattern) (cs : List Char) :
    (seq (one p) b).ways (c :: cs) = (b.ways cs).map fun w => .cons c w := by
  rw [ways, ways_one_cons h, List.flatMap_singleton]
  rfl

theorem ways_one_seq_of_not {p : Char → Bool} {b : Pattern} {cs : List Char}
    (h : ∀ c ∈ cs.head?, p c = false) : (seq (one p) b).ways cs = [] := by
  rw [ways]
  cases cs with
  | nil => rfl
  | cons c cs =>
    rw [ways_one_cons_of_not (h c rfl)]
    rfl

/-- A run of one class in a group and then a character of another: only after the longest run can
there be such a character. -/
theorem ways_group_run_seq (number : Nat) {p q : Char → Bool} (h : ∀ c, p c = true → q c = false)
    (cs : List Char) :
    (seq (group number (many p)) (one q)).ways cs =
      ((one q).ways (cs.dropWhile p)).map fun v =>
        ⟨cs.takeWhile p ++ v.taken, (number, cs.takeWhile p) :: v.groups, v.rest⟩ := by
  obtain ⟨shorter, hruns, hshorter⟩ := exists_runs_eq p cs
  have hnone : (shorter.flatMap fun w =>
      ((one q).ways w.rest).map (Way.inGroup number w).append) = [] := by
    rw [List.flatMap_eq_nil_iff]
    intro w hw
    obtain ⟨c, rest, hrest, hc⟩ := hshorter w hw
    rw [hrest, ways_one_cons_of_not (h c hc), List.map_nil]
  rw [ways, ways, ways, hruns, List.flatMap_map, List.flatMap_cons]
  simp only [Way.inGroup] at hnone ⊢
  rw [hnone, List.append_nil]
  rfl

/-- A run of at least one character in a group. -/
theorem head?_ways_group_run (number : Nat) (p : Char → Bool) (cs : List Char) :
    ((group number (seq (one p) (many p))).ways cs).head? =
      if cs.takeWhile p = [] then none
      else some ⟨cs.takeWhile p, [(number, cs.takeWhile p)], cs.dropWhile p⟩ := by
  rw [ways, List.head?_map]
  cases cs with
  | nil => rfl
  | cons c cs =>
    cases hc : p c with
    | false =>
      rw [ways_one_seq_of_not (by simpa using hc)]
      simp [hc]
    | true =>
      obtain ⟨shorter, hruns, -⟩ := exists_runs_eq p cs
      rw [ways_one_seq hc, ways, hruns]
      simp [hc, Way.cons, Way.inGroup]

end QueryLoom.Text.Pattern
