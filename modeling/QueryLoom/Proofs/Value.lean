import QueryLoom.Proofs.Json.Floats
import QueryLoom.Proofs.Request.Parts

/-!
# Cell values in JSON keep their kind

1. **One number**: `Numeral.IsInt64` says which numerals are integers of a cell. What a numeral
   denotes decides what the text of a number is decoded as (`decoder_text_of_spells`).
2. **Large numbers**: `refusedFrom` is spelled by a text that is refused (`exists_refused`).
3. **Main statement**: `json_keeps_kind` says which texts of numbers are integers and which are
   floats, and that integers, texts, nulls and finite floats come back as what they were.
-/

namespace QueryLoom

open Json

/-! ## One number -/

/-- An integer without fraction and exponent, other than a zero with a minus sign, that fits 64
signed bits. -/
def Json.Numeral.IsInt64 (n : Numeral) : Prop :=
  n.fraction = [] ∧ n.exponent = none ∧ ¬ (n.negative = true ∧ n.wholeValue = 0) ∧
    -2 ^ 63 ≤ n.wholeValue ∧ n.wholeValue ≤ 2 ^ 63 - 1

theorem Json.Spells.ofText {cs : List Char} {n : Numeral} (h : Spells cs n) :
    Document.ofText (String.ofList cs) = ⟨numberDraft n, false⟩ := by
  rw [Document.ofText, String.toList_ofList, h.reads.scan]
  rfl

namespace Value

/-- What a number is decoded as: an integer only if it fits 64 signed bits. -/
theorem decoder_text_of_spells {cs : List Char} {n : Numeral} (h : Spells cs n) :
    decoder.text (String.ofList cs) =
      match n.value? with
      | none => .error (.broken .malformed)
      | some (.real x) => .ok (.real x)
      | some (.integer i) =>
        if Int64.minValue.toInt ≤ i ∧ i ≤ Int64.maxValue.toInt then .ok (.integer (Int64.ofInt i))
        else .ok (.real (Float.ofInt i)) := by
  rw [Decoder.text, h.ofText, Decoder.document, numberDraft]
  cases n.value? with
  | none => rfl
  | some v =>
    cases v with
    | real x => rfl
    | integer i =>
      have hany : Decoder.any (.number (.integer i)) = .ok (.number (.integer i)) := rfl
      simp only [decoder, hany, bind, Except.bind, ofJson?]
      by_cases hrange : Int64.minValue.toInt ≤ i ∧ i ≤ Int64.maxValue.toInt
      · rw [if_pos hrange, if_pos hrange]
        rfl
      · rw [if_neg hrange, if_neg hrange]
        rfl

/-- The digits of an integer of 64 signed bits fit 64 bits without a sign. -/
theorem decodes_of_isInt64 {cs : List Char} {n : Numeral} (h : Spells cs n) (hn : n.IsInt64) :
    ∃ i : Int64, i.toInt = n.wholeValue ∧ decoder.text (String.ofList cs) = .ok (.integer i) := by
  obtain ⟨hfraction, hexponent, hzero, hmin, hmax⟩ := hn
  have hlow : Int64.minValue.toInt = -2 ^ 63 := by decide
  have hhigh : Int64.maxValue.toInt = 2 ^ 63 - 1 := by decide
  have hsize : UInt64.size = 2 ^ 64 := by decide
  have hdigits : Nat.ofDigitChars 10 n.whole 0 < UInt64.size := by
    rw [Numeral.wholeValue] at hmin hmax
    split at hmin
    · omega
    · next hpositive =>
      rw [if_neg hpositive] at hmax
      omega
  have hvalue := Numeral.value?_integer hfraction hexponent hdigits fun hnegative =>
    ⟨fun heq => hzero ⟨hnegative, heq⟩, hlow ▸ hmin⟩
  refine ⟨Int64.ofInt n.wholeValue, Int64.toInt_ofInt_of_le (by omega) (by omega), ?_⟩
  rw [decoder_text_of_spells h, hvalue]
  exact if_pos ⟨by omega, by omega⟩

/-- Every other number is decoded as a float or refused for its size. -/
theorem decodes_of_not_isInt64 {cs : List Char} {n : Numeral} (h : Spells cs n)
    (hn : ¬ n.IsInt64) :
    (∃ x, decoder.text (String.ofList cs) = .ok (.real x)) ∨
      refusedFrom ≤ n.magnitude ∧
        decoder.text (String.ofList cs) = .error (.broken .malformed) := by
  rw [decoder_text_of_spells h]
  by_cases hliteral : n.fraction = [] ∧ n.exponent = none ∧
      Nat.ofDigitChars 10 n.whole 0 < UInt64.size
  · obtain ⟨hfraction, hexponent, hdigits⟩ := hliteral
    by_cases hsign : n.negative = true ∧
        (n.wholeValue = 0 ∨ n.wholeValue < Int64.minValue.toInt)
    · obtain ⟨x, hx⟩ := Numeral.value?_negative hfraction hexponent hdigits hsign.1 hsign.2
      exact .inl ⟨x, by rw [hx]⟩
    · have hvalue := Numeral.value?_integer hfraction hexponent hdigits fun hnegative =>
        ⟨fun hzero => hsign ⟨hnegative, .inl hzero⟩,
          not_lt.1 fun hlow => hsign ⟨hnegative, .inr hlow⟩⟩
      have hrange : ¬ (Int64.minValue.toInt ≤ n.wholeValue ∧
          n.wholeValue ≤ Int64.maxValue.toInt) := by
        rintro ⟨hmin, hmax⟩
        exact hn ⟨hfraction, hexponent, fun hzero => hsign ⟨hzero.1, .inl hzero.2⟩, hmin, hmax⟩
      refine .inl ⟨Float.ofInt n.wholeValue, ?_⟩
      rw [hvalue]
      exact if_neg hrange
  · rcases Numeral.value?_real hliteral with ⟨x, hx⟩ | ⟨hnone, hlarge⟩
    · exact .inl ⟨x, by rw [hx]⟩
    · exact .inr ⟨hlarge, by rw [hnone]⟩

/-! ## Large numbers -/

theorem refuses_of_value? {cs : List Char} {n : Numeral} (h : Spells cs n) (hn : n.value? = none) :
    decoder.text (String.ofList cs) = .error (.broken .malformed) := by
  rw [decoder_text_of_spells h, hn]

/-- The bound itself is refused: its digits, which lie just above the middle between two floats, are
rounded upwards. -/
theorem exists_refused : ∃ (cs : List Char) (n : Numeral), Spells cs n ∧ n.magnitude = refusedFrom ∧
    decoder.text (String.ofList cs) = .error (.broken .malformed) := by
  have hwhole : SpellsWhole ('1' :: "7976931348623156225".toList) :=
    .digits (by decide) (Decimal.isDigits_of_all (by decide))
  have hexponent : SpellsExponent "e289".toList (some (false, "289".toList)) :=
    .unsigned (by decide) (Decimal.isDigits_of_all (by decide))
  have hspells : Spells (Decimal.Layout.signed false ("17976931348623156225".toList ++
      ([] ++ "e289".toList)))
      ⟨false, "17976931348623156225".toList, [], some (false, "289".toList)⟩ :=
    .mk hwhole .absent hexponent
  refine ⟨_, _, hspells, ?_, refuses_of_value? hspells (by decide +kernel)⟩
  rw [Numeral.magnitude_eq (c := 17976931348623156225) (e := 289) (by decide) (by decide),
    refusedFrom, zpow_ofNat]
  rfl

/-! ## Main statement -/

/-- The text of a number is decoded as an integer if it is an integer without fraction and exponent,
other than `-0`, that fits 64 signed bits, and then as exactly this integer. Every other number is
decoded as a float if it is below `1.7976931348623156225e308`, and is either decoded as a float or
refused if it is not; the bound is the least number that is refused. Integers, texts and nulls come
back as the same value. A finite float comes back as a float. -/
theorem json_keeps_kind :
    (∀ (cs : List Char) (n : Numeral), Spells cs n →
      (n.IsInt64 → ∃ i : Int64, i.toInt = n.wholeValue ∧
        decoder.text (String.ofList cs) = .ok (.integer i)) ∧
      (¬ n.IsInt64 → n.magnitude < refusedFrom →
        ∃ x, decoder.text (String.ofList cs) = .ok (.real x)) ∧
      (¬ n.IsInt64 → refusedFrom ≤ n.magnitude →
        (∃ x, decoder.text (String.ofList cs) = .ok (.real x)) ∨
          decoder.text (String.ofList cs) = .error (.broken .malformed))) ∧
    (∃ (cs : List Char) (n : Numeral), Spells cs n ∧ n.magnitude = refusedFrom ∧
      decoder.text (String.ofList cs) = .error (.broken .malformed)) ∧
    (∀ v : Value, (∀ x, v ≠ .real x) → decoder.text v.toJson.compact = .ok v) ∧
    ∀ x : Float, x.isFinite = true →
      ∃ y, decoder.text (Value.real x).toJson.compact = .ok (.real y) := by
  refine ⟨fun cs n h => ⟨decodes_of_isInt64 h, ?_, ?_⟩, exists_refused, ?_, ?_⟩
  · intro hn hsmall
    exact (decodes_of_not_isInt64 h hn).resolve_right fun hrefused => hrefused.1.not_gt hsmall
  · intro hn _
    exact (decodes_of_not_isInt64 h hn).imp_right And.right
  · intro v hv
    exact (Value.decodes hv).text_compact (Value.fits hv 0) (by decide)
  · intro x hx
    obtain ⟨n, y, hspells, -, hy⟩ := exists_spells_floatText hx
    have htext : (Value.real x).toJson.compact = String.ofList (floatText x) := rfl
    refine ⟨y, ?_⟩
    rw [htext, decoder_text_of_spells hspells, hy]

/-- The digits of `2 ^ 63` spell it, with and without a sign. -/
theorem spells_limit (negative : Bool) :
    Spells (Decimal.Layout.signed negative "9223372036854775808".toList)
      ⟨negative, "9223372036854775808".toList, [], none⟩ := by
  have hwhole : SpellsWhole ('9' :: "223372036854775808".toList) :=
    .digits (by decide) (Decimal.isDigits_of_all (by decide))
  exact .mk hwhole .absent .absent

theorem magnitude_limit_lt :
    Numeral.magnitude ⟨false, "9223372036854775808".toList, [], none⟩ < refusedFrom := by
  have hvalue : Numeral.magnitude ⟨false, "9223372036854775808".toList, [], none⟩ =
      (9223372036854775808 : Nat) * 10 ^ (0 : Int) := Numeral.magnitude_eq (by decide) rfl
  rw [hvalue]
  exact lt_of_lt_of_le (by norm_num) (pow_le_refusedFrom (by decide : 19 ≤ 308))

/-- The least integer, the float next to the greatest one, a text and a float that is whole. -/
theorem json_keeps_kind_limits :
    (∃ i : Int64, i.toInt = -2 ^ 63 ∧
      decoder.text "-9223372036854775808" = .ok (.integer i)) ∧
    (∃ x, decoder.text "9223372036854775808" = .ok (.real x)) ∧
    decoder.text (Value.text "1").toJson.compact = .ok (.text "1") ∧
    ∃ y, decoder.text (Value.real 1.0).toJson.compact = .ok (.real y) := by
  obtain ⟨hnumber, -, hvalue, hreal⟩ := json_keeps_kind
  have hlarge : ¬ Numeral.IsInt64 ⟨false, "9223372036854775808".toList, [], none⟩ :=
    fun h => absurd h.2.2.2.2 (by decide)
  exact ⟨(hnumber _ _ (spells_limit true)).1 ⟨rfl, rfl, by decide, by decide, by decide⟩,
    (hnumber _ _ (spells_limit false)).2.1 hlarge magnitude_limit_lt, hvalue _ nofun,
    hreal 1.0 (by decide)⟩

/-- One digit, a fraction and `e308`. -/
theorem spells_e308 (ds : List Char) (hds : Decimal.IsDigits ds) :
    Spells ('1' :: '.' :: (ds ++ "e308".toList))
      ⟨false, ['1'], ds, some (false, "308".toList)⟩ := by
  have hwhole : SpellsWhole ['1'] := .digits (by decide) (Decimal.isDigits_of_all (by decide))
  have hexponent : SpellsExponent "e308".toList (some (false, "308".toList)) :=
    .unsigned (by decide) (Decimal.isDigits_of_all (by decide))
  have hspells : Spells (Decimal.Layout.signed false (['1'] ++ ('.' :: ds ++ "e308".toList)))
      ⟨false, ['1'], ds, some (false, "308".toList)⟩ :=
    .mk hwhole (.present hds) hexponent
  exact hspells

/-- A number that is no greater than the greatest float and is refused nonetheless. Without the
zeros at the end of its fraction the same number is decoded as a float. -/
theorem json_refuses_finite :
    let n : Numeral := ⟨false, ['1'], "7976931348623157000".toList, some (false, "308".toList)⟩
    let n' : Numeral := ⟨false, ['1'], "7976931348623157".toList, some (false, "308".toList)⟩
    Spells "1.7976931348623157000e308".toList n ∧ ¬ n.IsInt64 ∧
      (∃ (x : Float) (w : ℚ), x.isFinite = true ∧ Decimal.HasMagnitude x w ∧ n.magnitude ≤ w) ∧
      decoder.text "1.7976931348623157000e308" = .error (.broken .malformed) ∧
      Spells "1.7976931348623157e308".toList n' ∧ n'.magnitude = n.magnitude ∧
      ∃ x, decoder.text "1.7976931348623157e308" = .ok (.real x) := by
  intro n n'
  have hspells : Spells "1.7976931348623157000e308".toList n :=
    spells_e308 "7976931348623157000".toList (Decimal.isDigits_of_all (by decide))
  have hspells' : Spells "1.7976931348623157e308".toList n' :=
    spells_e308 "7976931348623157".toList (Decimal.isDigits_of_all (by decide))
  have hvalue : n.magnitude = (17976931348623157000 : Nat) * 10 ^ (289 : Int) :=
    Numeral.magnitude_eq (by decide) (by decide)
  have hvalue' : n'.magnitude = (17976931348623157 : Nat) * 10 ^ (292 : Int) :=
    Numeral.magnitude_eq (by decide) (by decide)
  have hsame : n'.magnitude = n.magnitude := by
    have hpow : (10 : ℚ) ^ (292 : Int) = 10 ^ 3 * 10 ^ (289 : Int) := by
      rw [← zpow_natCast, ← zpow_add₀ (by norm_num)]
      rfl
    rw [hvalue, hvalue', hpow, ← mul_assoc]
    norm_num
  have hgreatest : Decimal.HasMagnitude (Float.ofBits 0x7FEFFFFFFFFFFFFF)
      ((2 ^ 53 - 1 : Nat) * 2 ^ (971 : Int)) :=
    ⟨.positive, 2 ^ 53 - 1, 971, by decide, rfl, by decide, by decide, rfl⟩
  have hle : n.magnitude ≤ (2 ^ 53 - 1 : Nat) * 2 ^ (971 : Int) := by
    have hnat : 17976931348623157000 * 10 ^ 289 ≤ (2 ^ 53 - 1) * 2 ^ 971 := by decide +kernel
    rw [hvalue]
    exact_mod_cast hnat
  have hmarked' : n'.IsMarked := .inr (Option.some_ne_none _)
  obtain ⟨x, hx⟩ := hmarked'.exists_real (.inr (by decide +kernel : n'.value?.isSome = true))
  have hmarked : n.IsMarked := .inr (Option.some_ne_none _)
  refine ⟨hspells, fun hn => hmarked.elim (absurd hn.1) (absurd hn.2.1),
    ⟨_, _, by decide +kernel, hgreatest, hle⟩, refuses_of_value? hspells (by decide +kernel),
    hspells', hsame, x, ?_⟩
  exact (decoder_text_of_spells hspells').trans (by rw [hx])

end Value

end QueryLoom
