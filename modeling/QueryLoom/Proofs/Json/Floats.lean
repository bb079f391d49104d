import QueryLoom.Proofs.Decimal.Written
import QueryLoom.Proofs.Json.Magnitude
import QueryLoom.Proofs.Json.Spelling

/-!
# Floats in JSON stay floats

1. **Texts**: the text of a decimal, with a point or with an exponent, spells a numeral of its value
   (`exists_spells_positional`, `spells_scientific`). There is always a fraction or an exponent.
2. **The greatest float**: the shortest decimal of a float is below `refusedFrom`, except for the
   greatest one, whose numeral is looked at by itself (`isSome_value?_greatest`).
3. **Main statement**: `exists_spells_floatText` says that the text of every finite float spells a
   numeral that denotes a float.
-/

namespace QueryLoom.Json

open Decimal
open Decimal.Layout (signed positional exponentText)

/-! ## Texts -/

/-- Whether a numeral cannot be taken for an integer. -/
def Numeral.IsMarked (n : Numeral) : Prop := n.fraction ≠ [] ∨ n.exponent ≠ none

theorem spellsWhole_front {d : Char} {ds es : List Char} (hd : d ≠ '0')
    (hds : ∀ c ∈ d :: ds, c.isDigit = true) (hes : ∀ c ∈ es, c.isDigit = true) (n : Nat) :
    SpellsWhole ((d :: ds).take (n + 1) ++ es) := by
  rw [List.take_succ_cons, List.cons_append]
  refine .digits hd ⟨List.cons_ne_nil _ _, ?_⟩
  have hothers : ∀ c ∈ ds.take n, c.isDigit = true := fun c hc =>
    hds c (List.mem_cons_of_mem d (List.mem_of_mem_take hc))
  exact List.forall_mem_cons.2
    ⟨hds d List.mem_cons_self, List.forall_mem_append.2 ⟨hothers, hes⟩⟩

theorem SpellsWhole.isDigit {cs : List Char} (h : SpellsWhole cs) : ∀ c ∈ cs, c.isDigit = true := by
  cases h with
  | zero => exact (isDigits_natural 0).2
  | digits _ hds => exact hds.2

/-- A numeral with a point has the value of its text. -/
theorem magnitude_point {negative : Bool} {whole ds : List Char}
    (hwhole : ∀ c ∈ whole, c.isDigit = true) (hds : ∀ c ∈ ds, c.isDigit = true) :
    (Numeral.mk negative whole ds none).magnitude = plainValue (whole ++ '.' :: ds) := by
  rw [plainValue_point hwhole hds, Numeral.magnitude]
  simp only [Numeral.exponentValue]
  rw [zero_sub, zpow_neg, zpow_natCast, div_eq_mul_inv]

/-- A point with a zero after it does not change the value. -/
theorem magnitude_pointZero {negative : Bool} {whole : List Char}
    (hwhole : ∀ c ∈ whole, c.isDigit = true) :
    (Numeral.mk negative whole ['0'] none).magnitude = plainValue whole := by
  have hlast : Nat.ofDigitChars 10 (whole ++ ['0']) 0 = Nat.ofDigitChars 10 whole 0 * 10 := by
    rw [Nat.ofDigitChars_append, Nat.ofDigitChars_cons, Nat.mul_comm]
    rfl
  rw [plainValue_whole hwhole, Numeral.magnitude]
  simp only [Numeral.exponentValue, hlast, List.length_singleton]
  push_cast
  rw [zpow_neg_one, mul_assoc, mul_inv_cancel₀ (by norm_num), mul_one]

theorem spells_point {whole ds : List Char} (hwhole : SpellsWhole whole) (hds : IsDigits ds) :
    Spells (whole ++ '.' :: ds) ⟨false, whole, ds, none⟩ := by
  have hspells : Spells (signed false (whole ++ ('.' :: ds ++ []))) ⟨false, whole, ds, none⟩ :=
    .mk hwhole (.present hds) .absent
  rwa [List.append_nil] at hspells

/-- A decimal with a point among or around its digits. -/
theorem exists_spells_positional {c : Nat} (hc : 0 < c) (e : Int) :
    ∃ n, Spells (positional true (natural c) (e + (natural c).length)) n ∧ n.negative = false ∧
      n.fraction ≠ [] ∧ n.magnitude = c * 10 ^ e := by
  have hvalue := Layout.plainValue_positional c e
  generalize e + ((natural c).length : Int) = whole at *
  have hzero := SpellsWhole.zero.isDigit
  have hdigits := isDigits_natural c
  match whole with
  | .ofNat 0 =>
    exact ⟨_, spells_point .zero hdigits, rfl, hdigits.1,
      (magnitude_point hzero hdigits.2).trans hvalue⟩
  | .negSucc k =>
    have hall : IsDigits (List.replicate (k + 1) '0' ++ natural c) :=
      (isDigits_zeros k.succ_pos).append hdigits.2
    exact ⟨_, spells_point .zero hall, rfl, hall.1, (magnitude_point hzero hall.2).trans hvalue⟩
  | .ofNat (k + 1) =>
    obtain ⟨d, ds, hds, hd⟩ := exists_natural_of_pos hc
    have hzeros : ∀ b ∈ List.replicate (k + 1 - (natural c).length) '0', b.isDigit = true :=
      fun _ => isDigit_of_mem_zeros
    have hfront : SpellsWhole ((natural c).take (k + 1) ++
        List.replicate (k + 1 - (natural c).length) '0') := by
      rw [hds] at hdigits hzeros ⊢
      exact spellsWhole_front hd hdigits.2 hzeros k
    simp only [positional] at hvalue ⊢
    generalize (natural c).take (k + 1) ++ List.replicate (k + 1 - (natural c).length) '0' =
      front at *
    by_cases hrest : ((natural c).drop (k + 1)).isEmpty = true
    · -- no digit is left for after the point
      have hone : IsDigits ['0'] := isDigits_natural 0
      simp only [hrest, if_true, Bool.false_eq_true, if_false, List.append_nil] at hvalue ⊢
      exact ⟨_, spells_point hfront hone, rfl, hone.1,
        (magnitude_pointZero hfront.isDigit).trans hvalue⟩
    · have hback : IsDigits ((natural c).drop (k + 1)) :=
        ⟨fun hnil => hrest (List.isEmpty_iff.2 hnil),
          fun b hb => hdigits.2 b (List.mem_of_mem_drop hb)⟩
      rw [if_neg hrest] at hvalue ⊢
      exact ⟨_, spells_point hfront hback, rfl, hback.1,
        (magnitude_point hfront.isDigit hback.2).trans hvalue⟩

/-- The numeral of a decimal with one digit before the point and an exponent. -/
def Numeral.scientific (c : Nat) (e : Int) : Numeral where
  whole := (natural c).take 1
  fraction := (natural c).drop 1
  exponent := some (decide (e < 0), natural e.natAbs)

theorem spellsExponent_exponentText (e : Int) :
    SpellsExponent (exponentText 1 e) (some (decide (e < 0), natural e.natAbs)) := by
  have hdigits := isDigits_natural e.natAbs
  have hlength : 1 - (natural e.natAbs).length = 0 := by
    have := List.length_pos_of_ne_nil hdigits.1
    omega
  simp only [exponentText, hlength, List.replicate_zero, List.nil_append]
  by_cases he : e < 0
  · rw [if_pos he, decide_eq_true he]
    exact .signed (by decide) (by decide) hdigits
  · rw [if_neg he, decide_eq_false he]
    exact .signed (by decide) (by decide) hdigits

theorem spells_scientific {c : Nat} (hc : 0 < c) (e : Int) :
    Spells (positional false (natural c) 1 ++ exponentText 1 e) (.scientific c e) := by
  obtain ⟨d, ds, hds, hd⟩ := exists_natural_of_pos hc
  have hdigits := (isDigits_natural c).2
  rw [Numeral.scientific, hds] at *
  have hwhole : SpellsWhole [d] :=
    .digits hd ⟨List.cons_ne_nil _ _, fun b hb => hdigits b (List.mem_of_mem_take (i := 1) hb)⟩
  have hexponent := spellsExponent_exponentText e
  cases ds with
  | nil =>
    have hspells : Spells (signed false ([d] ++ ([] ++ exponentText 1 e)))
        ⟨false, [d], [], some (decide (e < 0), natural e.natAbs)⟩ :=
      .mk hwhole .absent hexponent
    exact hspells
  | cons d' ds =>
    have hfraction : IsDigits (d' :: ds) :=
      ⟨List.cons_ne_nil _ _, fun b hb => hdigits b (List.mem_cons_of_mem d hb)⟩
    have htext : positional false (d :: d' :: ds) 1 = [d] ++ '.' :: (d' :: ds) := by
      have hnone : 1 - (d :: d' :: ds).length = 0 := by simp
      show [d] ++ List.replicate (1 - (d :: d' :: ds).length) '0' ++ '.' :: (d' :: ds) = _
      rw [hnone]
      rfl
    have hspells : Spells (signed false ([d] ++ ('.' :: (d' :: ds) ++ exponentText 1 e)))
        ⟨false, [d], d' :: ds, some (decide (e < 0), natural e.natAbs)⟩ :=
      .mk hwhole (.present hfraction) hexponent
    rw [htext, List.append_assoc]
    exact hspells

theorem magnitude_scientific (c : Nat) (e : Int) :
    (Numeral.scientific c (e + (natural c).length - 1)).magnitude = c * 10 ^ e := by
  have hlength : 1 ≤ (natural c).length := List.length_pos_of_ne_nil (isDigits_natural c).1
  have hvalue (k : Int) : (Numeral.scientific c k).exponentValue = k := by
    have habs : Nat.ofDigitChars 10 (natural k.natAbs) 0 = k.natAbs :=
      Nat.ofDigitChars_ten_toDigits
    simp only [Numeral.exponentValue, Numeral.scientific, habs, decide_eq_true_eq]
    split <;> omega
  have hdigits : Nat.ofDigitChars 10 (natural c) 0 = c := Nat.ofDigitChars_ten_toDigits
  rw [Numeral.magnitude, hvalue]
  simp only [Numeral.scientific, List.take_append_drop, List.length_drop, hdigits]
  congr 2
  omega

/-- A decimal as it is written in JSON. -/
theorem exists_spells_digits {d : Digits} (hd : 0 < d.coefficient) :
    ∃ n, Spells (floatLayout.digits d) n ∧ n.negative = false ∧ n.IsMarked ∧
      n.magnitude = d.toRat := by
  simp only [Layout.digits]
  split
  · obtain ⟨n, hspells, hnegative, hfraction, hvalue⟩ := exists_spells_positional hd d.exponent
    exact ⟨n, hspells, hnegative, .inl hfraction, hvalue⟩
  · exact ⟨_, spells_scientific hd _, rfl, .inr (Option.some_ne_none _), magnitude_scientific _ _⟩

theorem Spells.signed {cs : List Char} {n : Numeral} (h : Spells cs n) (hn : n.negative = false)
    (negative : Bool) : Spells (signed negative cs) { n with negative := negative } := by
  obtain ⟨hwhole, hfraction, hexponent⟩ := h
  cases hn
  exact .mk hwhole hfraction hexponent

/-! ## The greatest float -/

theorem Numeral.IsMarked.exists_real {n : Numeral} (h : n.IsMarked)
    (hsome : n.magnitude < refusedFrom ∨ n.value?.isSome) : ∃ x, n.value? = some (.real x) := by
  have hliteral : ¬ (n.fraction = [] ∧ n.exponent = none ∧
      Nat.ofDigitChars 10 n.whole 0 < UInt64.size) := by
    rintro ⟨hfraction, hexponent, -⟩
    exact h.elim (fun hne => hne hfraction) fun hne => hne hexponent
  rcases Numeral.value?_real hliteral with hreal | ⟨hnone, hlarge⟩
  · exact hreal
  · exfalso
    rcases hsome with hlt | hsome
    · exact hlt.not_ge hlarge
    · rw [hnone] at hsome
      cases hsome

/-- What rounds to a positive float is positive. -/
theorem coefficient_pos {b : Binary} (hb : b.IsCanonical) : 0 < b.shortest.coefficient := by
  refine Nat.pos_of_ne_zero fun hzero => ?_
  have hlow := hb.rounds_shortest.le.1
  have hmargin : (b.margin : ℚ) ≤ 2 := by
    have hle : b.margin ≤ 2 := by
      rw [Binary.margin]
      split <;> decide
    exact_mod_cast hle
  have hmantissa : (1 : ℚ) ≤ b.mantissa := by exact_mod_cast hb.pos
  have hpos : (0 : ℚ) < (4 * b.mantissa - b.margin) * b.quarter :=
    mul_pos (by linarith) b.quarter_pos
  rw [Binary.toRat_low hb.pos, Digits.toRat, hzero, Nat.cast_zero, zero_mul] at hlow
  exact hlow.not_gt hpos

/-- Below the greatest float all that rounds to a float is below the bound. -/
theorem high_lt_refusedFrom {b : Binary} (hb : b.IsCanonical) (hlast : b.exponent ≤ 971)
    (h : b.exponent = 971 → b.mantissa ≤ 2 ^ 53 - 2) : b.high.toRat < refusedFrom := by
  have hbound : ((2 : ℚ) ^ 55 - 6) * 2 ^ 969 < refusedFrom := by
    have hnat : 2 ^ 55 * 2 ^ 969 < 17976931348623156225 * 10 ^ 289 + 6 * 2 ^ 969 := by
      decide +kernel
    have hrat : (2 : ℚ) ^ 55 * 2 ^ 969 < 17976931348623156225 * 10 ^ 289 + 6 * 2 ^ 969 := by
      exact_mod_cast hnat
    rw [refusedFrom, sub_mul]
    exact sub_lt_iff_lt_add.2 hrat
  refine lt_of_le_of_lt ?_ hbound
  rw [Binary.toRat_high, Binary.quarter]
  rcases hlast.lt_or_eq with hlt | heq
  · have hmantissa : 4 * (b.mantissa : ℚ) + 2 ≤ 2 * (2 ^ 55 - 6) := by
      have hlt := hb.lt
      have hle : 4 * b.mantissa + 2 + 12 ≤ 2 * 2 ^ 55 := by omega
      have hle : 4 * (b.mantissa : ℚ) + 2 + 12 ≤ 2 * 2 ^ 55 := by exact_mod_cast hle
      linarith
    have hplace : (2 : ℚ) ^ (b.exponent - 2) ≤ 2 ^ (968 : Int) :=
      zpow_le_zpow_right₀ (by norm_num) (by omega)
    rw [zpow_ofNat] at hplace
    have hsplit : (2 : ℚ) ^ 969 = 2 * 2 ^ 968 := by rw [← pow_succ']
    calc (4 * (b.mantissa : ℚ) + 2) * 2 ^ (b.exponent - 2)
        ≤ 2 * (2 ^ 55 - 6) * 2 ^ 968 :=
          mul_le_mul hmantissa hplace (zpow_nonneg (by norm_num) _) (by norm_num)
      _ = (2 ^ 55 - 6) * 2 ^ 969 := by rw [hsplit, mul_left_comm, mul_assoc]
  · have hmantissa : 4 * (b.mantissa : ℚ) + 2 ≤ 2 ^ 55 - 6 := by
      have hle := h heq
      have hle : 4 * b.mantissa + 2 + 6 ≤ 2 ^ 55 := by omega
      have hle : 4 * (b.mantissa : ℚ) + 2 + 6 ≤ 2 ^ 55 := by exact_mod_cast hle
      linarith
    have hplace : (2 : ℚ) ^ (b.exponent - 2) = 2 ^ 969 := by
      rw [heq]
      exact zpow_natCast 2 969
    rw [hplace]
    exact mul_le_mul_of_nonneg_right hmantissa (by positivity)

theorem shortest_of_findSome? {b : Binary} {c : Nat} {e : Int}
    (h : ((List.range 17).findSome? fun k => b.onGrid (b.value.decade - (k + 1 : Nat))) =
      some ⟨c, e⟩) (hc : c % 10 ≠ 0) : b.shortest = ⟨c, e⟩ := by
  rw [Binary.shortest]
  simp only [h]
  rw [Digits.normal, dif_neg fun hzero => hc hzero.1]

/-- The greatest float. -/
def greatest : Binary := ⟨2 ^ 53 - 1, 971, false⟩

theorem shortest_greatest : greatest.shortest = ⟨17976931348623157, 292⟩ :=
  shortest_of_findSome? (by decide +kernel) (by decide)

theorem digits_greatest :
    floatLayout.digits ⟨17976931348623157, 292⟩ =
      positional false (natural 17976931348623157) 1 ++ exponentText 1 308 := by
  decide

/-- Its seventeen digits are not refused. -/
theorem isSome_value?_greatest (negative : Bool) :
    ({ Numeral.scientific 17976931348623157 308 with negative := negative }).value?.isSome := by
  revert negative
  decide +kernel

theorem eq_greatest {b : Binary} (hb : b.IsCanonical) (hlast : b.exponent = 971)
    (h : 2 ^ 53 - 2 < b.mantissa) : b = greatest := by
  have hlt := hb.lt
  obtain ⟨m, e, narrow⟩ := b
  dsimp only at hlast h hlt
  have hwide : narrow = false := by
    rw [← Bool.not_eq_true]
    intro hnarrow
    obtain ⟨hmantissa, -⟩ := hb.narrow.1 hnarrow
    dsimp only at hmantissa
    omega
  have hmantissa : m = 2 ^ 53 - 1 := by omega
  rw [greatest, hlast, hwide, hmantissa]

/-! ## Main statement -/

theorem exists_spells_shortest {b : Binary} (hb : b.IsCanonical) (hlast : b.exponent ≤ 971)
    (negative : Bool) :
    ∃ n x, Spells (signed negative (floatLayout.digits b.shortest)) n ∧ n.IsMarked ∧
      n.value? = some (.real x) := by
  by_cases hgreat : b.exponent = 971 ∧ 2 ^ 53 - 2 < b.mantissa
  · have hmarked : Numeral.IsMarked
        { Numeral.scientific 17976931348623157 308 with negative := negative } :=
      .inr (Option.some_ne_none _)
    have hspells := (spells_scientific (c := 17976931348623157) (by decide) 308).signed rfl negative
    obtain ⟨x, hx⟩ := hmarked.exists_real (.inr (isSome_value?_greatest negative))
    rw [eq_greatest hb hgreat.1 hgreat.2, shortest_greatest, digits_greatest]
    exact ⟨_, x, hspells, hmarked, hx⟩
  · have hsmall : b.high.toRat < refusedFrom :=
      high_lt_refusedFrom hb hlast fun heq => not_lt.1 fun hlt => hgreat ⟨heq, hlt⟩
    obtain ⟨n, hspells, hnegative, hmarked, hvalue⟩ := exists_spells_digits (coefficient_pos hb)
    have hlt : n.magnitude < refusedFrom := by
      rw [hvalue]
      exact hb.rounds_shortest.le.2.trans_lt hsmall
    have hmarked : Numeral.IsMarked { n with negative := negative } := hmarked
    obtain ⟨x, hx⟩ := hmarked.exists_real (.inl hlt)
    exact ⟨_, x, hspells.signed hnegative negative, hmarked, hx⟩

/-- The exponents of floats end below that of infinity. -/
theorem exponent_le {x : Float} {negative : Bool} {b : Binary}
    (h : Parts.ofFloat x = .finite negative b) : b.exponent ≤ 971 := by
  have hfinite : (Parts.ofBits x.toBits.toNat).isFinite = true := by
    rw [← Parts.ofFloat, h]
    rfl
  rcases Parts.ofBits_cases hfinite with ⟨-, -, hparts⟩ | ⟨-, -, hparts⟩ | ⟨-, hlast, hparts⟩
  · rw [← Parts.ofFloat, h] at hparts
    cases hparts
  · rw [← Parts.ofFloat, h] at hparts
    cases hparts
    show (-1074 : Int) ≤ 971
    decide
  · rw [← Parts.ofFloat, h] at hparts
    cases hparts
    dsimp only
    omega

/-- The text of a finite float spells a numeral with a fraction or an exponent, and this denotes a
float. -/
theorem exists_spells_floatText {x : Float} (hx : x.isFinite = true) :
    ∃ n y, Spells (floatText x) n ∧ n.IsMarked ∧ n.value? = some (.real y) := by
  have hparts : (Parts.ofFloat x).isFinite = true := (Parts.isFinite_ofFloat x).trans hx
  rw [floatText, if_pos hx, Layout.write]
  cases h : Parts.ofFloat x with
  | nan =>
    rw [h] at hparts
    cases hparts
  | infinite negative =>
    rw [h] at hparts
    cases hparts
  | zero negative =>
    have hspells := (spells_point .zero (isDigits_natural 0)).signed rfl negative
    have htext : floatLayout.parts Binary.shortest (.zero negative) =
        signed negative (['0'] ++ '.' :: natural 0) := by
      cases negative <;> decide
    have hmarked : Numeral.IsMarked ⟨negative, ['0'], natural 0, none⟩ :=
      .inl (isDigits_natural 0).1
    have hzero : Numeral.magnitude ⟨negative, ['0'], natural 0, none⟩ = 0 := zero_mul _
    obtain ⟨y, hy⟩ := hmarked.exists_real (.inl (hzero.trans_lt refusedFrom_pos))
    rw [htext]
    exact ⟨_, y, hspells, hmarked, hy⟩
  | finite negative b =>
    exact exists_spells_shortest (Parts.isCanonical_ofFloat h) (exponent_le h) negative

end QueryLoom.Json
