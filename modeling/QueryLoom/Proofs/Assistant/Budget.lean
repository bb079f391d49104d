import Mathlib.Data.List.DropRight
import QueryLoom.Assistant.Briefing

/-!
# Briefings within a budget

1. **Trimming**: a longer text is trimmed to a longer one (`Text.trim_prefix_trim`).
2. **Tiers**: `Briefing.tiers` are the sections that say something, the most important first, and
   `LongestRun` is the longest run of them that fits a budget with all its parts.
3. **Assembly**: the tiers taken are the longest run (`longestRun_extend`). A larger budget only
   adds to what is taken (`extend_prefix_extend`, `assemble_prefix_assemble`).
4. **Main statements**: `Briefing.text_fits` says what a briefing holds, `Briefing.text_extends`
   compares two budgets.
-/

namespace QueryLoom

/-! ## Trimming -/

namespace Text

theorem trimStart_prefix_trimStart {cs ds : List Char} (h : cs <+: ds) :
    trimStart cs <+: trimStart ds := by
  obtain ⟨rest, rfl⟩ := h
  rw [trimStart, trimStart, List.dropWhile_append]
  split
  · rename_i hblank
    rw [List.isEmpty_iff.1 hblank]
    exact List.nil_prefix
  · exact List.prefix_append _ _

theorem trimEnd_isPrefix (cs : List Char) : trimEnd cs <+: cs := List.rdropWhile_prefix isBlank cs

/-- What follows a text either leaves its last blanks at the end or puts them inside. -/
theorem trimEnd_prefix_trimEnd {cs ds : List Char} (h : cs <+: ds) : trimEnd cs <+: trimEnd ds := by
  obtain ⟨rest, rfl⟩ := h
  have hcut : trimEnd (cs ++ rest) = trimEnd cs ∨ trimEnd (cs ++ rest) = cs ++ trimEnd rest := by
    rw [trimEnd, List.reverse_append, List.dropWhile_append]
    split
    · exact Or.inl rfl
    · right
      rw [List.reverse_append, List.reverse_reverse, trimEnd]
  rcases hcut with hcut | hcut
  · exact hcut.symm ▸ List.prefix_refl (trimEnd cs)
  · rw [hcut]
    exact (trimEnd_isPrefix cs).trans (List.prefix_append _ _)

theorem trim_prefix_trim {cs ds : List Char} (h : cs <+: ds) : trim cs <+: trim ds :=
  trimEnd_prefix_trimEnd (trimStart_prefix_trimStart h)

theorem length_trim_le (cs : List Char) : (trim cs).length ≤ cs.length :=
  (trimEnd_isPrefix _).length_le.trans (List.dropWhile_suffix _).length_le

end Text

namespace Briefing

/-! ## Tiers -/

/-- The tiers that say something, the most important first. -/
def tiers (b : Briefing) : List String :=
  [b.modelTier, b.metadataTier, b.metricsTier, b.registryTier, b.samplesTier].filter (· ≠ "")

/-- A briefing of some tiers before it is trimmed: the header, then each tier on a new line. -/
def draft (ts : List String) : String := lines (header :: ts)

/-- Whether tiers fit a budget one after the other: the drafts of all their first parts are within
it. -/
def Fits (budget : Nat) (ts : List String) : Prop :=
  ∀ part, part <+: ts → (draft part).length ≤ budget

/-- Whether a list is the longest run of tiers, from the first one on, that fits a budget. -/
structure LongestRun (budget : Nat) (tiers run : List String) : Prop where
  leading : run <+: tiers
  fits : Fits budget run
  longest : ∀ run', run' <+: tiers → Fits budget run' → run' <+: run

variable {b : Briefing} {budget budget' : Nat}

theorem lines_ne_empty {l : String} (hl : l ≠ "") (ls : List String) : lines (l :: ls) ≠ "" := by
  cases ls with
  | nil => simpa [lines] using hl
  | cons l' ls => simp [lines, String.intercalate_cons_cons, hl]

/-- The first tier always says something. -/
theorem tiers_eq (b : Briefing) : b.tiers = b.modelTier :: b.laterTiers := by
  have hmodel : b.modelTier ≠ "" := lines_ne_empty (by decide) _
  rw [tiers, List.filter_cons_of_pos (by simpa using hmodel)]
  rfl

theorem lines_append (l : String) (ls : List String) (last : String) :
    lines (l :: (ls ++ [last])) = lines (l :: ls) ++ "\n" ++ last := by
  induction ls generalizing l with
  | nil => simp [lines, String.intercalate_cons_cons]
  | cons l' ls ih =>
    simp only [lines] at ih
    simp only [lines, List.cons_append, String.intercalate_cons_cons, ih, String.append_assoc]

theorem toList_draft_append (ts : List String) (t : String) :
    (draft (ts ++ [t])).toList = (draft ts).toList ++ '\n' :: t.toList := by
  rw [draft, lines_append]
  simp [draft]

theorem Fits.append {ts : List String} {t : String} (h : Fits budget ts)
    (ht : (draft (ts ++ [t])).length ≤ budget) : Fits budget (ts ++ [t]) := by
  intro part hpart
  rcases List.prefix_concat_iff.1 hpart with rfl | hpart
  · exact ht
  · exact h part hpart

theorem toList_draft_singleton (t : String) :
    (draft [t]).toList = header.toList ++ '\n' :: t.toList := by
  rw [← List.nil_append [t], toList_draft_append]
  rfl

/-- A draft with a tier is no shorter than the header alone. -/
theorem fits_singleton {t : String} (h : (draft [t]).length ≤ budget) : Fits budget [t] := by
  have hheader : Fits budget [] := by
    intro part hpart
    rw [List.prefix_nil.1 hpart]
    refine le_trans ?_ h
    rw [← String.length_toList (s := draft [t]), toList_draft_singleton, List.length_append]
    exact Nat.le_add_right _ _
  exact hheader.append h

/-! ## Assembly -/

/-- Tiers are taken up to the first that does not fit. -/
theorem longestRun_extend {taken : List String} (h : Fits budget taken) (rest : List String) :
    ∃ run, LongestRun budget (taken ++ rest) run ∧
      extend budget (draft taken).toList (rest.map String.toList) = (draft run).toList := by
  induction rest generalizing taken with
  | nil =>
    refine ⟨taken, ⟨?_, h, ?_⟩, rfl⟩
    · exact List.prefix_append _ _
    · intro run' hleading _
      rwa [List.append_nil] at hleading
  | cons t rest ih =>
    rw [List.map_cons, extend, ← toList_draft_append, String.length_toList]
    split
    · rename_i ht
      obtain ⟨run, hrun, htext⟩ := ih (h.append ht)
      rw [List.append_assoc, List.singleton_append] at hrun
      exact ⟨run, hrun, htext⟩
    · rename_i ht
      refine ⟨taken, ⟨List.prefix_append _ _, h, ?_⟩, rfl⟩
      intro run' hleading hfits
      -- a longer run would have the tier in it that does not fit
      have hnext : taken ++ [t] <+: taken ++ t :: rest := ⟨rest, by simp⟩
      rcases List.prefix_or_prefix_of_prefix hleading hnext with hshort | hlong
      · rcases List.prefix_concat_iff.1 hshort with rfl | hshort
        · exact absurd (hfits _ (List.prefix_refl _)) ht
        · exact hshort
      · exact absurd (hfits _ hlong) ht

/-- The last tier would fit, but it comes after one that does not. -/
example : extend 5 ['a'] [['b'], ['c', 'c', 'c'], ['d']] = ['a', '\n', 'b'] := by decide

theorem prefix_extend (text : List Char) (ts : List (List Char)) : text <+: extend budget text ts := by
  induction ts generalizing text with
  | nil => exact List.prefix_refl text
  | cons t ts ih =>
    rw [extend]
    split
    · exact (List.prefix_append _ _).trans (ih _)
    · exact List.prefix_refl text

/-- A larger budget lets more tiers in. -/
theorem extend_prefix_extend (h : budget ≤ budget') (text : List Char) (ts : List (List Char)) :
    extend budget text ts <+: extend budget' text ts := by
  induction ts generalizing text with
  | nil => exact List.prefix_refl text
  | cons t ts ih =>
    by_cases ht : (text ++ '\n' :: t).length ≤ budget
    · rw [extend, extend, if_pos ht, if_pos (ht.trans h)]
      exact ih _
    · rw [extend, if_neg ht]
      exact prefix_extend text _

theorem assemble_prefix_assemble (h : budget ≤ budget') (header first : List Char)
    (later : List (List Char)) :
    assemble budget header first later <+: assemble budget' header first later := by
  by_cases hfirst : (header ++ '\n' :: first).length ≤ budget
  · rw [assemble, assemble, if_pos hfirst, if_pos (hfirst.trans h)]
    exact extend_prefix_extend h _ _
  · rw [assemble, assemble, if_neg hfirst]
    split
    · exact (List.take_prefix _ _).trans (prefix_extend _ _)
    · exact List.take_prefix_take_left h

theorem length_extend_le {text : List Char} (h : text.length ≤ budget) (ts : List (List Char)) :
    (extend budget text ts).length ≤ budget := by
  induction ts generalizing text with
  | nil => exact h
  | cons t ts ih =>
    rw [extend]
    split
    · rename_i ht
      exact ih ht
    · exact h

theorem length_assemble_le (budget : Nat) (header first : List Char) (later : List (List Char)) :
    (assemble budget header first later).length ≤ budget := by
  rw [assemble]
  split
  · rename_i hfirst
    exact length_extend_le hfirst later
  · exact List.length_take_le _ _

/-! ## Main statements -/

theorem toList_text (b : Briefing) :
    b.text.toList = Text.trim (assemble b.budget header.toList b.modelTier.toList
      (b.laterTiers.map String.toList)) :=
  String.toList_ofList

/-- A briefing has no more characters than its budget. If the header and the first tier are within
the budget, it is the header with the longest run of tiers that fits, trimmed at the ends: no tier
is cut, and none comes after one that did not fit. Otherwise it is what the budget holds of the
header and the first tier, trimmed at the ends. -/
theorem text_fits (b : Briefing) :
    b.text.length ≤ b.budget ∧ b.tiers.head? = some b.modelTier ∧
    if (draft [b.modelTier]).length ≤ b.budget then
      ∃ run, LongestRun b.budget b.tiers run ∧ b.text.toList = Text.trim (draft run).toList
    else b.text.toList = Text.trim ((draft [b.modelTier]).toList.take b.budget) := by
  refine ⟨?_, ?_, ?_⟩
  · rw [← String.length_toList, toList_text]
    exact (Text.length_trim_le _).trans (length_assemble_le _ _ _ _)
  · rw [tiers_eq]
    rfl
  · rw [toList_text, assemble, ← toList_draft_singleton, String.length_toList]
    split
    · rename_i hfirst
      obtain ⟨run, hrun, htext⟩ := longestRun_extend (fits_singleton hfirst) b.laterTiers
      rw [List.singleton_append, ← tiers_eq] at hrun
      exact ⟨run, hrun, congrArg Text.trim htext⟩
    · rfl

/-- With a larger budget a briefing goes on where the one with the smaller budget ends. -/
theorem text_extends (b : Briefing) {n n' : Nat} (h : n ≤ n') :
    ∃ rest, ({ b with budget := n' } : Briefing).text = { b with budget := n }.text ++ rest := by
  have hassemble := assemble_prefix_assemble h header.toList b.modelTier.toList
    (b.laterTiers.map String.toList)
  obtain ⟨rest, hrest⟩ := Text.trim_prefix_trim hassemble
  refine ⟨String.ofList rest, ?_⟩
  rw [← String.toList_inj, String.toList_append, String.toList_ofList, toList_text, toList_text]
  exact hrest.symm

/-- At a budget that ends with the line break of the header, the break is trimmed off; with more
characters it comes back. -/
theorem text_extends_header :
    let b : Briefing := {}
    19 ≤ 24 ∧ { b with budget := 19 }.text = "# SEMANTIC CONTEXT" ∧
      { b with budget := 24 }.text = "# SEMANTIC CONTEXT\n\n## A" ∧
      ∃ rest, ({ b with budget := 24 } : Briefing).text = { b with budget := 19 }.text ++ rest := by
  intro b
  exact ⟨by decide, by decide, by decide, text_extends b (by decide)⟩

end Briefing

end QueryLoom
