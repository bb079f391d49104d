import QueryLoom.Aggregation
import QueryLoom.Proofs.Sql.Lexing
import QueryLoom.Proofs.Text.Words

/-!
# Keywords of aggregate functions

The keyword of an aggregate function is the only text of a request that stands in SQL without
quotes. Every function that is read from a text has a bare word for a keyword (`isWord_keyword`):
a keyword that is not one of the five is an ASCII identifier, and capitals keep it one. The
function is read again from its keyword (`parse?_keyword`). `parse_canonical` says which texts are
read, and as what.
-/

namespace QueryLoom.Aggregation

open Sql Text

theorem isIdentifier_eq (cs : List Char) : isIdentifier cs = isWord cs := by
  cases cs <;> rfl

/-- The characters of words are ASCII characters. -/
theorem toNat_lt_of_isWordChar {c : Char} (h : isWordChar c = true) : c.toNat < 128 := by
  have hlt : ∀ b : Char, b.toNat < 128 → c.toNat ≤ b.toNat → c.toNat < 128 :=
    fun b hb hc => Nat.lt_of_le_of_lt hc hb
  rcases isWordChar_iff.1 h with hstart | hdigit
  · rcases isWordStart_iff.1 hstart with hupper | hlower | rfl
    · exact hlt 'Z' (by decide) (isUpper_iff_toNat.1 hupper).2
    · exact hlt 'z' (by decide) (isLower_iff_toNat.1 hlower).2
    · decide
  · exact hlt '9' (by decide) (Char.isDigit_iff_toNat.1 hdigit).2

theorem isWordChar_of_isWordStart {c : Char} (h : isWordStart c = true) : isWordChar c = true :=
  isWordChar_iff.2 (Or.inl h)

/-- The capital of a character that a word begins with is a capital letter or an underscore. -/
theorem toUpper_of_isWordStart {c : Char} (h : isWordStart c = true) :
    c.toUpper.isUpper = true ∨ c.toUpper = '_' := by
  have hall : ∀ n : Fin 128, isWordStart (Char.ofNat n) = true →
      (Char.ofNat n).toUpper.isUpper = true ∨ (Char.ofNat n).toUpper = '_' := by decide
  have hascii := toNat_lt_of_isWordChar (isWordChar_of_isWordStart h)
  exact of_ascii (p := fun c => isWordStart c = true →
    c.toUpper.isUpper = true ∨ c.toUpper = '_') hall hascii h

theorem toUpper_of_isWordChar {c : Char} (h : isWordChar c = true) :
    c.toUpper.isUpper = true ∨ c.toUpper.isDigit = true ∨ c.toUpper = '_' := by
  have hall : ∀ n : Fin 128, isWordChar (Char.ofNat n) = true →
      (Char.ofNat n).toUpper.isUpper = true ∨ (Char.ofNat n).toUpper.isDigit = true ∨
        (Char.ofNat n).toUpper = '_' := by decide
  exact of_ascii (p := fun c => isWordChar c = true →
    c.toUpper.isUpper = true ∨ c.toUpper.isDigit = true ∨ c.toUpper = '_') hall
    (toNat_lt_of_isWordChar h) h

theorem isWordStart_toUpper {c : Char} (h : isWordStart c = true) :
    isWordStart c.toUpper = true :=
  isWordStart_iff.2 ((toUpper_of_isWordStart h).imp_right .inr)

theorem isWordChar_toUpper {c : Char} (h : isWordChar c = true) : isWordChar c.toUpper = true := by
  rw [isWordChar_iff, isWordStart_iff]
  rcases toUpper_of_isWordChar h with hupper | hdigit | hunderscore
  · exact .inl (.inl hupper)
  · exact .inr hdigit
  · exact .inl (.inr (.inr hunderscore))

theorem upperChar_eq {c : Char} (h : isWordChar c = true) : Text.upperChar c = [c.toUpper] := by
  rw [Text.upperChar, if_pos (toNat_lt_of_isWordChar h)]

theorem upper_eq_map {cs : List Char} (h : ∀ c ∈ cs, isWordChar c = true) :
    Text.upper cs = cs.map Char.toUpper := by
  rw [Text.upper, List.flatMap_congr fun c hc => upperChar_eq (h c hc), ← List.map_eq_flatMap]

theorem isWordChar_of_isWord {cs : List Char} (h : isWord cs = true) :
    ∀ c ∈ cs, isWordChar c = true := by
  cases cs with
  | nil => simp [isWord] at h
  | cons c cs =>
    simp only [isWord, Bool.and_eq_true, List.all_eq_true] at h
    exact List.forall_mem_cons.2 ⟨isWordChar_of_isWordStart h.1, h.2⟩

/-- A word stays a word in capitals. -/
theorem isWord_upper {cs : List Char} (h : isWord cs = true) : isWord (Text.upper cs) = true := by
  rw [upper_eq_map (isWordChar_of_isWord h)]
  cases cs with
  | nil => simp [isWord] at h
  | cons c cs =>
    simp only [isWord, List.map_cons, Bool.and_eq_true, List.all_eq_true, List.mem_map] at h ⊢
    refine ⟨isWordStart_toUpper h.1, ?_⟩
    rintro x ⟨y, hy, rfl⟩
    exact isWordChar_toUpper (h.2 y hy)

theorem toUpper_toUpper {c : Char} (h : isWordChar c = true) : c.toUpper.toUpper = c.toUpper := by
  have hall : ∀ n : Fin 128, (Char.ofNat n).toUpper.toUpper = (Char.ofNat n).toUpper := by decide
  exact of_ascii (p := fun c => c.toUpper.toUpper = c.toUpper) hall (toNat_lt_of_isWordChar h)

/-- A word in capitals has capitals for its capitals. -/
theorem upper_upper {cs : List Char} (h : isWord cs = true) :
    Text.upper (Text.upper cs) = Text.upper cs := by
  rw [upper_eq_map (isWordChar_of_isWord (isWord_upper h)), upper_eq_map (isWordChar_of_isWord h),
    List.map_map]
  exact List.map_congr_left fun c hc => toUpper_toUpper (isWordChar_of_isWord h c hc)

/-! ## Texts that are read -/

/-- The keywords of the five functions. -/
def fiveKeywords : List String := ["SUM", "COUNT", "AVG", "MIN", "MAX"]

/-- Whether a text begins with a character of one class and goes on in characters of another. -/
def IsSpelled (first next : Char → Prop) (s : String) : Prop :=
  ∃ c cs, s.toList = c :: cs ∧ first c ∧ ∀ d ∈ cs, next d

/-- Whether a text is an identifier of ASCII letters, digits and underscores. -/
def IsIdentifier : String → Prop :=
  IsSpelled (fun c => c.isUpper ∨ c.isLower ∨ c = '_')
    fun c => c.isUpper ∨ c.isLower ∨ c.isDigit ∨ c = '_'

/-- Whether a text is such an identifier in capitals. -/
def IsCapitalIdentifier : String → Prop :=
  IsSpelled (fun c => c.isUpper ∨ c = '_') fun c => c.isUpper ∨ c.isDigit ∨ c = '_'

theorem isIdentifier_iff {s : String} : isIdentifier s.toList = true ↔ IsIdentifier s := by
  rw [isIdentifier_eq, IsIdentifier, IsSpelled]
  cases s.toList with
  | nil => simp [isWord]
  | cons c cs =>
    have hnext (d : Char) : isWordChar d = true ↔
        d.isUpper = true ∨ d.isLower = true ∨ d.isDigit = true ∨ d = '_' := by
      rw [isWordChar_iff, isWordStart_iff, or_assoc, or_assoc, or_comm (a := d = '_')]
    simp only [isWord, Bool.and_eq_true, List.all_eq_true, isWordStart_iff, hnext]
    constructor
    · rintro ⟨hc, hcs⟩
      exact ⟨c, cs, rfl, hc, hcs⟩
    · rintro ⟨_, _, heq, hc, hcs⟩
      cases heq
      exact ⟨hc, hcs⟩

/-- Capitals of an identifier are one in capitals. -/
theorem isCapitalIdentifier_upper {cs : List Char} (h : isWord cs = true) :
    IsCapitalIdentifier (String.ofList (Text.upper cs)) := by
  rw [upper_eq_map (isWordChar_of_isWord h)]
  cases cs with
  | nil => cases h
  | cons c cs =>
    simp only [isWord, Bool.and_eq_true, List.all_eq_true] at h
    refine ⟨c.toUpper, cs.map Char.toUpper, String.toList_ofList, toUpper_of_isWordStart h.1, ?_⟩
    intro d hd
    obtain ⟨e, he, rfl⟩ := List.mem_map.1 hd
    exact toUpper_of_isWordChar (h.2 e he)

theorem isCapitalIdentifier_of_mem_fiveKeywords {k : String} (h : k ∈ fiveKeywords) :
    IsCapitalIdentifier k := by
  have hall : ∀ k ∈ fiveKeywords, isWord k.toList = true ∧ Text.toUpper k = k := by decide
  obtain ⟨hword, hupper⟩ := hall k h
  rw [← hupper]
  exact isCapitalIdentifier_upper hword

theorem ofKeyword?_eq_some_iff {k : String} {a : Aggregation} :
    ofKeyword? k = some a ↔ a.keyword = k ∧ a.isCustom = false := by
  constructor
  · intro h
    unfold ofKeyword? at h
    repeat' split at h
    all_goals first
      | cases h
        exact ⟨Eq.symm ‹_›, rfl⟩
      | cases h
  · rintro ⟨rfl, hcustom⟩
    cases a with
    | custom _ => cases hcustom
    | _ => rfl

theorem ofKeyword?_eq_none_iff {k : String} : ofKeyword? k = none ↔ k ∉ fiveKeywords := by
  unfold ofKeyword? fiveKeywords
  repeat' split
  all_goals simp [*]

theorem mem_fiveKeywords_of_ofKeyword? {k : String} {a : Aggregation} (h : ofKeyword? k = some a) :
    k ∈ fiveKeywords := by
  by_contra hnot
  rw [ofKeyword?_eq_none_iff.2 hnot] at h
  cases h

/-- A text is read as one of the five functions, or as a custom one if it is an identifier. -/
theorem parse?_eq_some_iff {s : String} {a : Aggregation} :
    parse? s = some a ↔ a.keyword = Text.toUpper s ∧
      (Text.toUpper s ∈ fiveKeywords ∧ a.isCustom = false ∨
        Text.toUpper s ∉ fiveKeywords ∧ a.isCustom = true ∧ IsIdentifier s) := by
  rw [parse?]
  cases hfive : ofKeyword? (Text.toUpper s) with
  | some b =>
    have hmem := mem_fiveKeywords_of_ofKeyword? hfive
    have hsame : b = a ↔ a.keyword = Text.toUpper s ∧ a.isCustom = false := by
      rw [← ofKeyword?_eq_some_iff, hfive, Option.some.injEq]
    simp [hmem, hsame]
  | none =>
    have hnot := ofKeyword?_eq_none_iff.1 hfive
    cases a with
    | custom k =>
      simp only [hnot, keyword, isCustom, false_and, not_false_iff, true_and, false_or]
      rw [Option.ite_none_right_eq_some, Option.some.injEq, custom.injEq, isIdentifier_iff,
        and_comm, eq_comm]
    | _ => simp [hnot, isCustom]

theorem exists_parse?_iff {s : String} :
    (∃ a, parse? s = some a) ↔ Text.toUpper s ∈ fiveKeywords ∨ IsIdentifier s := by
  simp only [parse?_eq_some_iff]
  constructor
  · rintro ⟨a, -, ⟨hfive, -⟩ | ⟨-, -, hid⟩⟩
    · exact .inl hfive
    · exact .inr hid
  · intro h
    cases hfive : ofKeyword? (Text.toUpper s) with
    | some a =>
      obtain ⟨hkeyword, hcustom⟩ := ofKeyword?_eq_some_iff.1 hfive
      exact ⟨a, hkeyword, .inl ⟨mem_fiveKeywords_of_ofKeyword? hfive, hcustom⟩⟩
    | none =>
      have hnot := ofKeyword?_eq_none_iff.1 hfive
      exact ⟨.custom (Text.toUpper s), rfl, .inr ⟨hnot, rfl, h.resolve_left hnot⟩⟩

/-! ## Functions that were read -/

/-- A function that was read, from a keyword or from JSON. -/
def IsRead (a : Aggregation) : Prop :=
  (∃ s, parse? s = some a) ∨ ∃ d, decoder d = .ok a

/-- JSON holds functions as keywords. -/
theorem isRead_iff {a : Aggregation} : a.IsRead ↔ ∃ s, parse? s = some a := by
  constructor
  · rintro (h | ⟨d, hd⟩)
    · exact h
    · simp only [decoder, Json.Decoder.parsed, parse] at hd
      cases hs : Json.Decoder.string d with
      | error e => simp [hs, bind, Except.bind] at hd
      | ok s =>
        refine ⟨s, ?_⟩
        cases hp : parse? s with
        | none => simp [hs, hp, bind, Except.bind, Except.mapError] at hd
        | some b => simpa [hs, hp, bind, Except.bind, Except.mapError] using hd
  · exact Or.inl

/-- A custom function that was read has an identifier in capitals for a keyword, and none of the
five. -/
theorem exists_of_isRead_custom {k : String} (h : (custom k).IsRead) :
    ∃ s, isWord s.toList = true ∧ k = Text.toUpper s ∧ ofKeyword? k = none := by
  obtain ⟨s, hs⟩ := isRead_iff.1 h
  obtain ⟨hkeyword, ⟨-, hfive⟩ | ⟨hnot, -, hid⟩⟩ := parse?_eq_some_iff.1 hs
  · -- one of the five is not a custom function
    cases hfive
  · have hk : k = Text.toUpper s := hkeyword
    rw [← isIdentifier_iff, isIdentifier_eq] at hid
    rw [← hk, ← ofKeyword?_eq_none_iff] at hnot
    exact ⟨s, hid, hk, hnot⟩

/-- The keyword of a function that was read is a bare word. -/
theorem isWord_keyword {a : Aggregation} (h : a.IsRead) : isWord a.keyword.toList = true := by
  cases a with
  | custom k =>
    obtain ⟨s, hs, rfl, -⟩ := exists_of_isRead_custom h
    rw [keyword, Text.toUpper, String.toList_ofList]
    exact isWord_upper hs
  | _ => decide

/-- A function that was read is read again from its keyword. -/
theorem parse?_keyword {a : Aggregation} (h : a.IsRead) : parse? a.keyword = some a := by
  cases a with
  | custom k =>
    obtain ⟨s, hs, hk, hfive⟩ := exists_of_isRead_custom h
    -- the keyword is its own capitals
    have hcapitals : Text.toUpper k = k := by
      rw [hk, Text.toUpper, Text.toUpper, String.toList_ofList, upper_upper hs]
    have hword := isWord_keyword h
    rw [keyword, ← isIdentifier_eq] at hword
    simp only [parse?, keyword, hcapitals, hfive, hword, if_true]
  | _ => decide

/-! ## Main statement -/

/-- A text is read exactly if in capitals it is the keyword of one of the five functions, or it is
an ASCII identifier itself; it is refused with the text itself otherwise. The keyword of what is
read is the text in capitals, an identifier in capitals that the same is read from again, and the
function is a custom one exactly if that is none of the five keywords. -/
theorem parse_canonical (s : String) :
    ((∃ a, parse s = .ok a) ↔ Text.toUpper s ∈ fiveKeywords ∨ IsIdentifier s) ∧
    (∀ a, parse s = .ok a →
      a.keyword = Text.toUpper s ∧ IsCapitalIdentifier a.keyword ∧
      (a.isCustom = true ↔ a.keyword ∉ fiveKeywords) ∧ parse a.keyword = .ok a) ∧
    ∀ e, parse s = .error e ↔
      e = .aggregation s ∧ Text.toUpper s ∉ fiveKeywords ∧ ¬ IsIdentifier s := by
  have hok (t : String) (a : Aggregation) : parse t = .ok a ↔ parse? t = some a := by
    rw [parse]
    cases parse? t <;> simp
  refine ⟨?accepted, ?canonical, ?refused⟩
  case accepted =>
    rw [← exists_parse?_iff]
    exact exists_congr (hok s)
  case canonical =>
    intro a ha
    rw [hok] at ha
    obtain ⟨hkeyword, hkind⟩ := parse?_eq_some_iff.1 ha
    have hback : parse a.keyword = .ok a := (hok _ a).2 (parse?_keyword (isRead_iff.2 ⟨s, ha⟩))
    refine ⟨hkeyword, ?_, ?_, hback⟩
    · rw [hkeyword]
      rcases hkind with ⟨hfive, -⟩ | ⟨-, -, hid⟩
      · exact isCapitalIdentifier_of_mem_fiveKeywords hfive
      · rw [← isIdentifier_iff, isIdentifier_eq] at hid
        exact isCapitalIdentifier_upper hid
    · rw [hkeyword]
      rcases hkind with ⟨hfive, hcustom⟩ | ⟨hfive, hcustom, -⟩ <;> simp [hfive, hcustom]
  case refused =>
    intro e
    rw [parse, ← not_or, ← exists_parse?_iff]
    cases parse? s <;> simp [eq_comm]

end QueryLoom.Aggregation
