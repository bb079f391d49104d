import QueryLoom.Text.Blank
import QueryLoom.Text.LetterCase

/-!
# Words in capitals

1. **Characters**: a blank is its own capital, and the capitals of any other character are some
   characters that are no blanks (`upperChar_of_isBlank`, `not_isBlank_of_mem_upperChar`,
   `upperChar_ne_nil`).
2. **Words**: a blank cuts a text into parts with words of their own (`words_append_cons`), so
   blanks at the ends of a text and blanks next to others do not matter to its words.
3. **Main statement**: the words of a text in capitals are the text's words in capitals
   (`words_upper`).
-/

namespace QueryLoom.Text

/-! ## Characters -/

/-- What holds of all ASCII characters holds of a character below 128. -/
theorem of_ascii {p : Char → Prop} (h : ∀ n : Fin 128, p (Char.ofNat n)) {c : Char}
    (hc : c.toNat < 128) : p c := by
  have := h ⟨c.toNat, hc⟩
  rwa [Char.ofNat_toNat] at this

theorem isBlank_eq_true_iff {c : Char} :
    isBlank c = true ↔ ∃ r ∈ blankRanges, r.1 ≤ c.toNat ∧ c.toNat ≤ r.2 := by
  simp [isBlank]

/-- Blanks have no other case. -/
theorem upperChar_of_isBlank {c : Char} (h : isBlank c = true) : upperChar c = [c] := by
  have hall : ∀ r ∈ blankRanges, ∀ n ∈ List.range' r.1 (r.2 + 1 - r.1),
      upperChar (Char.ofNat n) = [Char.ofNat n] := by decide +kernel
  obtain ⟨r, hr, hfirst, hlast⟩ := isBlank_eq_true_iff.1 h
  have hmem : c.toNat ∈ List.range' r.1 (r.2 + 1 - r.1) := by
    rw [List.mem_range'_1]
    omega
  have hcase := hall r hr c.toNat hmem
  rwa [Char.ofNat_toNat] at hcase

theorem toNat_ofNat_cases (n : Nat) : (Char.ofNat n).toNat = n ∨ (Char.ofNat n).toNat = 0 := by
  by_cases h : n.isValidChar
  · rw [Char.ofNat, dif_pos h]
    exact .inl rfl
  · rw [Char.ofNat, dif_neg h]
    exact .inr rfl

/-- No run of the mapping leads to a blank. -/
theorem not_isBlank_of_applyRuns {n m : Nat} (h : applyRuns upperRuns n = some m) :
    isBlank (Char.ofNat m) = false := by
  have hall : ∀ r ∈ upperRuns, ∀ b ∈ blankRanges,
      (r.last : Int) + r.offset < b.1 ∨ (b.2 : Int) < r.first + r.offset := by decide +kernel
  have hpos : ∀ b ∈ blankRanges, 0 < b.1 := by decide
  obtain ⟨r, hr, rfl⟩ := Option.map_eq_some_iff.1 h
  have hrun := List.find?_some hr
  simp only [Bool.and_eq_true, decide_eq_true_eq] at hrun
  cases hblank : isBlank (Char.ofNat ((n : Int) + r.offset).toNat) with
  | false => rfl
  | true =>
    obtain ⟨b, hb, hfirst, hlast⟩ := isBlank_eq_true_iff.1 hblank
    -- a run leads to numbers on one side of the blanks; a number that is no character counts as 0
    have hapart := hall r (List.mem_of_find?_eq_some hr) b hb
    have hbpos := hpos b hb
    rcases toNat_ofNat_cases ((n : Int) + r.offset).toNat with hn | hn <;> omega

/-- The capitals of a character that is no blank are no blanks. -/
theorem not_isBlank_of_mem_upperChar {c d : Char} (hc : isBlank c = false)
    (hd : d ∈ upperChar c) : isBlank d = false := by
  have hascii : ∀ n : Fin 128, isBlank (Char.ofNat n) = false →
      isBlank (Char.ofNat n).toUpper = false := by decide
  have hexpansions : ∀ e ∈ upperExpansions, ∀ n ∈ e.2, isBlank (Char.ofNat n) = false := by
    decide +kernel
  rw [upperChar] at hd
  split at hd
  · rename_i hlt
    rw [List.mem_singleton.1 hd]
    exact of_ascii (p := fun c => isBlank c = false → isBlank c.toUpper = false) hascii hlt hc
  · rw [mapCase] at hd
    split at hd
    · -- a character with several capitals
      rename_i e he
      obtain ⟨n, hn, rfl⟩ := List.mem_map.1 hd
      exact hexpansions e (List.mem_of_find?_eq_some he) n hn
    · split at hd
      · rename_i n hn
        rw [List.mem_singleton.1 hd]
        exact not_isBlank_of_applyRuns hn
      · -- a character that stays as it is
        rw [List.mem_singleton.1 hd]
        exact hc

theorem upperChar_ne_nil (c : Char) : upperChar c ≠ [] := by
  have hexpansions : ∀ e ∈ upperExpansions, e.2 ≠ [] := by decide +kernel
  rw [upperChar]
  split
  · exact List.cons_ne_nil _ _
  · rw [mapCase]
    split
    · rename_i e he
      exact fun hnil => hexpansions e (List.mem_of_find?_eq_some he) (List.map_eq_nil_iff.1 hnil)
    · split
      · exact List.cons_ne_nil _ _
      · exact List.cons_ne_nil _ _

/-! ## Words -/

/-- Whether a text has no blank. -/
def Solid (cs : List Char) : Prop := ∀ c ∈ cs, isBlank c = false

theorem Solid.not_mem {cs : List Char} (h : Solid cs) : ' ' ∉ cs := fun hmem =>
  absurd (h ' ' hmem) (by decide)

/-- A text is solid, or a solid text with a blank and another text after it. -/
theorem solid_induction {motive : List Char → Prop} (solid : ∀ w, Solid w → motive w)
    (cut : ∀ w b cs, Solid w → isBlank b = true → motive cs → motive (w ++ b :: cs))
    (cs : List Char) : motive cs := by
  -- with a solid text that was read before
  have hafter : ∀ w, Solid w → motive (w ++ cs) := by
    induction cs with
    | nil =>
      intro w hw
      rw [List.append_nil]
      exact solid w hw
    | cons c cs ih =>
      intro w hw
      cases hc : isBlank c with
      | true => exact cut w c cs hw hc (ih [] nofun)
      | false =>
        have hlonger : Solid (w ++ [c]) := by
          simpa [Solid, or_imp, forall_and, hc] using hw
        simpa using ih (w ++ [c]) hlonger
  exact hafter [] nofun

theorem words_cons_of_isBlank {c : Char} (h : isBlank c = true) (cs : List Char) :
    words (c :: cs) = words cs := by
  rw [words.eq_def]
  exact if_pos h

theorem words_singleton {c : Char} (h : isBlank c = false) : words [c] = [[c]] := by
  rw [words.eq_def]
  simp [h]

theorem words_cons_cons_of_isBlank {c b : Char} (hc : isBlank c = false) (hb : isBlank b = true)
    (cs : List Char) : words (c :: b :: cs) = [c] :: words cs := by
  rw [words.eq_def]
  simp [hc, hb, words_cons_of_isBlank]

/-- The first word goes on for as long as there are no blanks. -/
theorem words_cons_cons {c d : Char} (hc : isBlank c = false) (hd : isBlank d = false)
    (cs : List Char) :
    ∃ w ws, words (d :: cs) = w :: ws ∧ words (c :: d :: cs) = (c :: w) :: ws := by
  have hne : words (d :: cs) ≠ [] := by
    rw [words.eq_def]
    simp only [hd, Bool.false_eq_true, if_false]
    repeat' split
    all_goals exact List.cons_ne_nil _ _
  obtain ⟨w, ws, hws⟩ := List.exists_cons_of_ne_nil hne
  refine ⟨w, ws, hws, ?_⟩
  rw [words.eq_def]
  simp only [hc, hd, hws, Bool.false_eq_true, if_false]

/-- A blank cuts a text into parts with words of their own. -/
theorem words_append_cons (cs : List Char) {b : Char} (hb : isBlank b = true) (rest : List Char) :
    words (cs ++ b :: rest) = words cs ++ words rest := by
  induction cs with
  | nil => exact words_cons_of_isBlank hb rest
  | cons c cs ih =>
    cases hc : isBlank c with
    | true => rw [List.cons_append, words_cons_of_isBlank hc, words_cons_of_isBlank hc, ih]
    | false =>
      cases cs with
      | nil =>
        rw [List.cons_append, List.nil_append, words_cons_cons_of_isBlank hc hb, words_singleton hc,
          List.singleton_append]
      | cons d cs =>
        rw [List.cons_append] at ih
        cases hd : isBlank d with
        | true =>
          rw [words_cons_of_isBlank hd, words_cons_of_isBlank hd] at ih
          rw [List.cons_append, List.cons_append, words_cons_cons_of_isBlank hc hd,
            words_cons_cons_of_isBlank hc hd, ih, List.cons_append]
        | false =>
          obtain ⟨w, ws, hwords, hlonger⟩ := words_cons_cons hc hd cs
          obtain ⟨v, vs, hwords', hlonger'⟩ := words_cons_cons hc hd (cs ++ b :: rest)
          -- the first word is the same with and without the rest
          rw [hwords, hwords', List.cons_append] at ih
          obtain ⟨rfl, rfl⟩ := List.cons.inj ih
          rw [List.cons_append, List.cons_append, hlonger, hlonger', List.cons_append]

theorem words_of_solid {w : List Char} (hne : w ≠ []) (hw : Solid w) : words w = [w] := by
  induction w with
  | nil => exact absurd rfl hne
  | cons c w ih =>
    obtain ⟨hc, hrest⟩ := List.forall_mem_cons.1 hw
    cases w with
    | nil => exact words_singleton hc
    | cons d w =>
      have hd := (List.forall_mem_cons.1 hrest).1
      obtain ⟨v, vs, hwords, hlonger⟩ := words_cons_cons hc hd w
      rw [ih (List.cons_ne_nil _ _) hrest] at hwords
      obtain ⟨rfl, rfl⟩ := List.cons.inj hwords
      exact hlonger

/-- A text of blanks has no words. -/
theorem words_of_blanks {cs : List Char} (h : ∀ c ∈ cs, isBlank c = true) : words cs = [] := by
  induction cs with
  | nil => rfl
  | cons c cs ih =>
    obtain ⟨hc, hcs⟩ := List.forall_mem_cons.1 h
    rw [words_cons_of_isBlank hc, ih hcs]

/-- Words have no blanks. -/
theorem solid_of_mem_words {cs w : List Char} (h : w ∈ words cs) : Solid w := by
  induction cs using solid_induction with
  | solid v hv =>
    by_cases hne : v = []
    · rw [hne] at h
      cases h
    · rw [words_of_solid hne hv, List.mem_singleton] at h
      rwa [h]
  | cut v b cs hv hb ih =>
    rw [words_append_cons v hb, List.mem_append] at h
    by_cases hne : v = []
    · rw [hne] at h
      exact ih (h.resolve_left nofun)
    · rw [words_of_solid hne hv, List.mem_singleton] at h
      rcases h with rfl | h
      · exact hv
      · exact ih h

/-! ## Blanks at the ends and next to others -/

theorem words_blanks_append {front : List Char} (h : ∀ c ∈ front, isBlank c = true)
    (cs : List Char) : words (front ++ cs) = words cs := by
  induction front with
  | nil => rfl
  | cons b front ih =>
    obtain ⟨hb, hfront⟩ := List.forall_mem_cons.1 h
    rw [List.cons_append, words_cons_of_isBlank hb, ih hfront]

theorem words_append_blanks (cs : List Char) {back : List Char}
    (h : ∀ c ∈ back, isBlank c = true) : words (cs ++ back) = words cs := by
  cases back with
  | nil => rw [List.append_nil]
  | cons b back =>
    obtain ⟨hb, hback⟩ := List.forall_mem_cons.1 h
    rw [words_append_cons cs hb, words_of_blanks hback, List.append_nil]

/-- Blanks between two texts cut them apart as one does. -/
theorem words_append_blanks_append (cs rest : List Char) {gap : List Char} (hne : gap ≠ [])
    (h : ∀ c ∈ gap, isBlank c = true) : words (cs ++ gap ++ rest) = words cs ++ words rest := by
  obtain ⟨b, gap, rfl⟩ := List.exists_cons_of_ne_nil hne
  obtain ⟨hb, hgap⟩ := List.forall_mem_cons.1 h
  rw [List.append_assoc, List.cons_append, words_append_cons cs hb, words_blanks_append hgap]

/-! ## Capitals -/

theorem upper_append (cs ds : List Char) : upper (cs ++ ds) = upper cs ++ upper ds :=
  List.flatMap_append

theorem upper_cons_of_isBlank {b : Char} (h : isBlank b = true) (cs : List Char) :
    upper (b :: cs) = b :: upper cs := by
  rw [upper, List.flatMap_cons, upperChar_of_isBlank h]
  rfl

theorem upper_intercalate (ws : List (List Char)) :
    upper ([' '].intercalate ws) = [' '].intercalate (ws.map upper) := by
  induction ws with
  | nil => rfl
  | cons w ws ih =>
    cases ws with
    | nil => simp [List.intercalate]
    | cons v ws =>
      rw [List.map_cons, List.map_cons, List.intercalate_cons_cons, List.intercalate_cons_cons,
        upper_append, upper_append, ih]
      rfl

theorem solid_upper {w : List Char} (h : Solid w) : Solid (upper w) := by
  intro d hd
  obtain ⟨c, hc, hd⟩ := List.mem_flatMap.1 hd
  exact not_isBlank_of_mem_upperChar (h c hc) hd

theorem upper_eq_nil_iff {cs : List Char} : upper cs = [] ↔ cs = [] := by
  constructor
  · intro h
    cases cs with
    | nil => rfl
    | cons c cs =>
      rw [upper, List.flatMap_cons] at h
      exact absurd (List.append_eq_nil_iff.1 h).1 (upperChar_ne_nil c)
  · rintro rfl
    rfl

theorem words_upper_of_solid {w : List Char} (h : Solid w) :
    words (upper w) = (words w).map upper := by
  by_cases hne : w = []
  · rw [hne]
    rfl
  · rw [words_of_solid hne h, words_of_solid (mt upper_eq_nil_iff.1 hne) (solid_upper h)]
    rfl

/-- The words of a text in capitals are the words of the text in capitals. -/
theorem words_upper (cs : List Char) : words (upper cs) = (words cs).map upper := by
  induction cs using solid_induction with
  | solid w hw => exact words_upper_of_solid hw
  | cut w b cs hw hb ih =>
    rw [upper_append, upper_cons_of_isBlank hb, words_append_cons _ hb, words_append_cons _ hb,
      List.map_append, words_upper_of_solid hw, ih]

end QueryLoom.Text
