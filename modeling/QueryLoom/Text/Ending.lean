/-!
# Endings of texts

1. `dropEnding` takes an ending off a text that has it.
2. `dropEndings` takes it off again for as long as the text has it: an ending that is there does not
   matter (`dropEndings_append`), and without one the text stays as it is (`dropEndings_of_not`).
-/

namespace QueryLoom.Text

/-- A text without an ending, if it has that ending. -/
def dropEnding (ending cs : List Char) : List Char :=
  if ending.isSuffixOf cs then cs.take (cs.length - ending.length) else cs

theorem dropEnding_append (cs ending : List Char) : dropEnding ending (cs ++ ending) = cs := by
  rw [dropEnding, if_pos (List.isSuffixOf_iff_suffix.2 (List.suffix_append _ _)),
    List.length_append, Nat.add_sub_cancel, List.take_left]

theorem dropEnding_of_not {ending cs : List Char} (h : ¬ ending <:+ cs) :
    dropEnding ending cs = cs := by
  rw [dropEnding, if_neg (mt List.isSuffixOf_iff_suffix.1 h)]

/-- A text without all the copies of an ending that it ends in: seen from the back, each copy is
dropped when it is whole. -/
def dropEndings (ending : List Char) : List Char → List Char
  | [] => []
  | c :: cs =>
    let rest := dropEndings ending cs
    if c :: rest = ending then [] else c :: rest

theorem dropEndings_of_not {ending cs : List Char} (h : ¬ ending <:+ cs) :
    dropEndings ending cs = cs := by
  induction cs with
  | nil => rfl
  | cons c cs ih =>
    have hrest : dropEndings ending cs = cs :=
      ih fun hends => h (hends.trans (List.suffix_cons c cs))
    have hne : c :: cs ≠ ending := fun heq => h (heq ▸ List.suffix_refl _)
    rw [dropEndings, hrest, if_neg hne]

theorem dropEndings_self (ending : List Char) : dropEndings ending ending = [] := by
  cases ending with
  | nil => rfl
  | cons c rest =>
    have hshorter : ¬ (c :: rest) <:+ rest := fun hends =>
      Nat.not_succ_le_self _ hends.length_le
    rw [dropEndings, dropEndings_of_not hshorter, if_pos rfl]

theorem dropEndings_append (ending cs : List Char) :
    dropEndings ending (cs ++ ending) = dropEndings ending cs := by
  induction cs with
  | nil => exact dropEndings_self ending
  | cons c cs ih => rw [List.cons_append, dropEndings, dropEndings, ih]

end QueryLoom.Text
