import QueryLoom.Join
import QueryLoom.Proofs.Text.Words

/-!
# Kinds of joins in words

A kind of join is read by taking endings off a text in capitals with single blanks.

1. **Endings**: a text ends in a blank and a word exactly if that word is the last of its pieces
   between blanks and not the only one (`Text.splitOn_append_word`, `Text.exists_of_splitOn`).
2. **Pieces**: what is left of a text without such endings is a word exactly if the pieces are that
   word and then those of the endings (`Text.dropEndings_dropEnding_eq_iff`).
3. **Main statement**: `JoinKind.Spells` is the grammar of kinds in words, and
   `JoinKind.parse_spells` says that exactly the texts with such words in capitals are read.
-/

namespace QueryLoom

/-! ## Endings -/

namespace Text

variable {t x : List Char}

theorem splitOn_append_word (front : List Char) (hx : ' ' ∉ x) :
    (front ++ ' ' :: x).splitOn ' ' = front.splitOn ' ' ++ [x] := by
  rw [List.splitOn_append_cons_self, List.splitOn_eq_singleton hx]

theorem intercalate_append_word {ws : List (List Char)} (hne : ws ≠ []) (x : List Char) :
    [' '].intercalate (ws ++ [x]) = [' '].intercalate ws ++ ' ' :: x := by
  induction ws with
  | nil => exact absurd rfl hne
  | cons w ws ih =>
    cases ws with
    | nil => simp [List.intercalate]
    | cons v ws =>
      rw [List.cons_append, List.intercalate_cons_of_ne_nil (by simp), ih (List.cons_ne_nil _ _),
        List.intercalate_cons_of_ne_nil (List.cons_ne_nil _ _)]
      simp only [List.append_assoc]

/-- A text whose last piece is a word, and not its only piece, ends in a blank and that word. -/
theorem exists_of_splitOn {ws : List (List Char)} (hne : ws ≠ []) (hx : ' ' ∉ x)
    (h : t.splitOn ' ' = ws ++ [x]) : ∃ front, t = front ++ ' ' :: x ∧ front.splitOn ' ' = ws := by
  have ht : t = [' '].intercalate ws ++ ' ' :: x := by
    rw [← intercalate_append_word hne, ← h, List.intercalate_splitOn]
  refine ⟨[' '].intercalate ws, ht, ?_⟩
  rw [ht, splitOn_append_word _ hx] at h
  exact List.append_cancel_right h

/-! ## Pieces -/

theorem dropEndings_eq_iff {k : List Char} (hk : ' ' ∉ k) (hx : ' ' ∉ x) :
    dropEndings (' ' :: x) t = k ↔ ∃ n, t.splitOn ' ' = k :: List.replicate n x := by
  constructor
  · intro h
    -- by the length of the text, which an ending makes shorter
    induction hlength : t.length using Nat.strongRecOn generalizing t with
    | ind m ih =>
      by_cases hends : (' ' :: x) <:+ t
      · obtain ⟨front, rfl⟩ := hends
        rw [dropEndings_append] at h
        have hshorter : front.length < m := by
          rw [← hlength, List.length_append, List.length_cons]
          omega
        obtain ⟨n, hn⟩ := ih front.length hshorter h rfl
        refine ⟨n + 1, ?_⟩
        rw [splitOn_append_word front hx, hn, List.replicate_succ', List.cons_append]
      · rw [dropEndings_of_not hends] at h
        exact ⟨0, by rw [h, List.splitOn_eq_singleton hk]; rfl⟩
  · rintro ⟨n, hn⟩
    induction n generalizing t with
    | zero =>
      have ht : t = k := by
        have hjoined : [' '].intercalate (t.splitOn ' ') = t := List.intercalate_splitOn ' '
        rw [← hjoined, hn]
        simp [List.intercalate]
      have hends : ¬ (' ' :: x) <:+ t := by
        intro hends
        exact hk (ht ▸ hends.subset List.mem_cons_self)
      rw [dropEndings_of_not hends, ht]
    | succ n ih =>
      rw [List.replicate_succ', ← List.cons_append] at hn
      obtain ⟨front, rfl, hfront⟩ := exists_of_splitOn (List.cons_ne_nil _ _) hx hn
      rw [dropEndings_append]
      exact ih hfront

/-- An ending of another word is taken off first. -/
theorem dropEndings_dropEnding_eq_iff {k y : List Char} (hk : ' ' ∉ k) (hx : ' ' ∉ x)
    (hy : ' ' ∉ y) (hne : x ≠ y) :
    dropEndings (' ' :: x) (dropEnding (' ' :: y) t) = k ↔
      ∃ n, t.splitOn ' ' = k :: List.replicate n x ∨
        t.splitOn ' ' = k :: (List.replicate n x ++ [y]) := by
  by_cases hends : (' ' :: y) <:+ t
  · obtain ⟨front, rfl⟩ := hends
    rw [dropEnding_append, dropEndings_eq_iff hk hx, splitOn_append_word front hy]
    apply exists_congr
    intro n
    -- the last piece is `y`, not `x`, and not the only one
    have hother : front.splitOn ' ' ++ [y] ≠ k :: List.replicate n x := by
      intro h
      cases n with
      | zero =>
        have hnil : front.splitOn ' ' = [] := List.append_inj_left' h rfl
        exact List.splitOn_ne_nil _ _ hnil
      | succ n =>
        rw [List.replicate_succ', ← List.cons_append] at h
        have hlast := List.append_inj_right' h rfl
        exact hne (List.cons.inj hlast).1.symm
    rw [or_iff_right hother, ← List.cons_append, List.append_left_inj]
  · rw [dropEnding_of_not hends, dropEndings_eq_iff hk hx]
    apply exists_congr
    intro n
    -- pieces that end in `y` would give the text that ending
    have hother : t.splitOn ' ' ≠ k :: (List.replicate n x ++ [y]) := by
      intro h
      rw [← List.cons_append] at h
      obtain ⟨front, rfl, -⟩ := exists_of_splitOn (List.cons_ne_nil _ _) hy h
      exact hends (List.suffix_append _ _)
    rw [or_iff_left hother]

end Text

/-! ## Kinds -/

namespace JoinKind

/-- Whether words are the keyword of a kind, then any number of `OUTER`, then at most one `JOIN`. -/
def Spells (k : JoinKind) (ws : List String) : Prop :=
  ∃ n, ws = k.keyword :: List.replicate n "OUTER" ∨
    ws = k.keyword :: (List.replicate n "OUTER" ++ ["JOIN"])

/-- The words of a text in capitals. -/
def capitals (s : String) : List String :=
  (Text.words s.toList).map fun w => String.ofList (Text.upper w)

theorem ofKeyword?_eq_some_iff {s : String} {k : JoinKind} :
    ofKeyword? s = some k ↔ s = k.keyword := by
  constructor
  · intro h
    unfold ofKeyword? at h
    repeat' split at h
    all_goals first
      | cases h
        assumption
      | cases h
  · rintro rfl
    cases k <;> rfl

theorem not_mem_keyword (k : JoinKind) : ' ' ∉ k.keyword.toList := by
  cases k <;> decide

/-- The pieces of a normalized text are the words of the text in capitals. -/
theorem splitOn_normalized {s : String} (h : Text.words s.toList ≠ []) :
    (normalized s).splitOn ' ' = (Text.words s.toList).map Text.upper := by
  rw [normalized, Text.upper_intercalate]
  refine List.splitOn_intercalate ' ' ?_ (mt List.map_eq_nil_iff.1 h)
  intro w hw
  obtain ⟨v, hv, rfl⟩ := List.mem_map.1 hw
  exact (Text.solid_upper (Text.solid_of_mem_words hv)).not_mem

theorem capitals_eq_iff {s : String} {ws : List String} :
    capitals s = ws ↔ (Text.words s.toList).map Text.upper = ws.map String.toList := by
  have hcapitals : capitals s = ((Text.words s.toList).map Text.upper).map String.ofList := by
    rw [List.map_map]
    rfl
  rw [hcapitals]
  constructor
  · rintro rfl
    simp [Function.comp_def]
  · intro h
    rw [h]
    simp [Function.comp_def]

/-- What is left without the endings is a keyword exactly if the words spell its kind. -/
theorem parse?_eq_some_iff {s : String} {k : JoinKind} :
    parse? s = some k ↔ Spells k (capitals s) := by
  have hpieces : parse? s = some k ↔
      ∃ n, (normalized s).splitOn ' ' =
          k.keyword.toList :: List.replicate n "OUTER".toList ∨
        (normalized s).splitOn ' ' =
          k.keyword.toList :: (List.replicate n "OUTER".toList ++ ["JOIN".toList]) := by
    rw [← Text.dropEndings_dropEnding_eq_iff (not_mem_keyword k) (by decide) (by decide)
      (by decide), parse?, ofKeyword?_eq_some_iff, ← String.toList_inj, String.toList_ofList]
    rfl
  rw [hpieces, Spells]
  apply exists_congr
  intro n
  rw [capitals_eq_iff, capitals_eq_iff]
  by_cases hnone : Text.words s.toList = []
  · -- a text without words is left as one empty piece
    have hsplit : (normalized s).splitOn ' ' = [[]] := by
      rw [normalized, hnone]
      rfl
    have hkeyword : [] ≠ k.keyword.toList := by cases k <;> decide
    rw [hsplit, hnone]
    simp [hkeyword]
  · rw [splitOn_normalized hnone]
    simp

theorem parse_sql (k : JoinKind) : parse k.sql = .ok k := by
  have hspells : Spells k (capitals k.sql) := by
    refine ⟨0, .inr ?_⟩
    cases k <;> decide
  rw [parse, parse?_eq_some_iff.2 hspells]
  rfl

/-- The kind that is read depends on the words in capitals only. -/
theorem parse?_congr {s t : String} (h : capitals s = capitals t) : parse? s = parse? t := by
  apply Option.ext
  intro k
  rw [parse?_eq_some_iff, parse?_eq_some_iff, h]

theorem capitals_of_toUpper_eq {s t : String} (h : Text.toUpper s = Text.toUpper t) :
    capitals s = capitals t := by
  have hupper : Text.upper s.toList = Text.upper t.toList := String.ofList_injective h
  rw [capitals_eq_iff, ← Text.words_upper, hupper, Text.words_upper, ← capitals_eq_iff]

theorem capitals_of_words_eq {s t : String} (h : Text.words s.toList = Text.words t.toList) :
    capitals s = capitals t := by
  rw [capitals, capitals, h]

/-! ## Main statement -/

/-- Whether a text has only blanks. -/
def IsBlankText (s : String) : Prop := ∀ c ∈ s.toList, Text.isBlank c = true

/-- A text is read as a kind exactly if its words in capitals spell that kind, and refused with the
text itself if they spell none. So texts that are the same in capitals are read alike, blanks at the
ends and blanks next to others do not matter, and every kind is read from its SQL. -/
theorem parse_spells (s : String) :
    (∀ k, parse s = .ok k ↔ Spells k (capitals s)) ∧
    (∀ e, parse s = .error e ↔ e = .joinKind s ∧ ∀ k, ¬ Spells k (capitals s)) ∧
    (∀ t, Text.toUpper t = Text.toUpper s → parse? t = parse? s) ∧
    (∀ front back, IsBlankText front → IsBlankText back →
      parse? (front ++ s ++ back) = parse? s) ∧
    (∀ front gap back, s = front ++ gap ++ back → gap ≠ "" → IsBlankText gap →
      ∀ gap', gap' ≠ "" → IsBlankText gap' → parse? (front ++ gap' ++ back) = parse? s) ∧
    ∀ k : JoinKind, parse k.sql = .ok k := by
  refine ⟨?read, ?refused, ?letters, ?ends, ?gaps, parse_sql⟩
  case read =>
    intro k
    rw [← parse?_eq_some_iff, parse]
    cases parse? s <;> simp
  case refused =>
    intro e
    simp only [← parse?_eq_some_iff, parse]
    cases parse? s <;> simp [eq_comm]
  case letters =>
    intro t h
    exact parse?_congr (capitals_of_toUpper_eq h)
  case ends =>
    intro front back hfront hback
    apply parse?_congr (capitals_of_words_eq _)
    rw [String.toList_append, String.toList_append, List.append_assoc,
      Text.words_blanks_append hfront, Text.words_append_blanks _ hback]
  case gaps =>
    rintro front gap back rfl hne hgap gap' hne' hgap'
    have hwords {g : String} (hg : g ≠ "") (hblank : IsBlankText g) :
        Text.words (front ++ g ++ back).toList =
          Text.words front.toList ++ Text.words back.toList := by
      rw [String.toList_append, String.toList_append]
      exact Text.words_append_blanks_append _ _ (mt String.toList_eq_nil_iff.1 hg) hblank
    apply parse?_congr (capitals_of_words_eq _)
    rw [hwords hne hgap, hwords hne' hgap']

end JoinKind

end QueryLoom
