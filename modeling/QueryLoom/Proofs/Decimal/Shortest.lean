import Mathlib.Algebra.Order.Field.Power
import Mathlib.Data.Rat.Cast.Order
import Mathlib.Tactic.FieldSimp
import Mathlib.Tactic.Linarith
import Mathlib.Tactic.Positivity
import Mathlib.Tactic.Ring
import QueryLoom.Decimal.Shortest

/-!
# Shortest decimals identify binary numbers

1. **Quotients**: `Ratio.toRat` is the rational number that a quotient stands for.
2. **Rounding intervals**: `Binary.Rounds` says which rational numbers round to a binary number. It
   is what `Binary.reads` decides (`Binary.reads_iff`).
3. **Disjointness**: a rational number rounds to at most one of the numbers that floats hold
   (`Binary.IsCanonical.eq_of_rounds`).
4. **Seventeen digits**: the grid of seventeen digits is fine enough for every such number, so that
   `Binary.shortest` always gives a decimal that rounds back (`Binary.IsCanonical.rounds_shortest`).
-/

namespace QueryLoom.Decimal

/-! ## Quotients -/

namespace Ratio

/-- The rational number. -/
def toRat (r : Ratio) : ℚ := r.num / r.den

theorem den_shift_pos {r : Ratio} (h : 0 < r.den) (k : Int) : 0 < (r.shift k).den := by
  cases k with
  | ofNat n => exact h
  | negSucc n => exact Nat.mul_pos h (Nat.pow_pos (by decide))

theorem toRat_shift (r : Ratio) (k : Int) : (r.shift k).toRat = r.toRat * 10 ^ k := by
  cases k with
  | ofNat n =>
    rw [shift, toRat, toRat, Int.ofNat_eq_natCast, zpow_natCast, Nat.pow_eq]
    push_cast
    ring
  | negSucc n =>
    rw [shift, toRat, toRat, zpow_negSucc, Nat.pow_eq]
    push_cast
    rw [← div_eq_mul_inv, div_div]

theorem le_natCast_iff {r : Ratio} (h : 0 < r.den) (d : Nat) :
    r.toRat ≤ d ↔ r.num ≤ d * r.den := by
  have hden : (0 : ℚ) < r.den := Nat.cast_pos.2 h
  rw [toRat, div_le_iff₀ hden, ← Nat.cast_mul, Nat.cast_le]

theorem natCast_le_iff {r : Ratio} (h : 0 < r.den) (d : Nat) :
    (d : ℚ) ≤ r.toRat ↔ d * r.den ≤ r.num := by
  have hden : (0 : ℚ) < r.den := Nat.cast_pos.2 h
  rw [toRat, le_div_iff₀ hden, ← Nat.cast_mul, Nat.cast_le]

end Ratio

theorem lt_pow_digitCount (n : Nat) : n < 10 ^ digitCount n :=
  (Nat.length_toDigits_le_iff (by decide) Nat.length_toDigits_pos).1 le_rfl

theorem pow_digitCount_le {n : Nat} (h : 0 < n) : 10 ^ (digitCount n - 1) ≤ n := by
  by_contra hlt
  rw [not_le] at hlt
  rcases Nat.eq_zero_or_pos (digitCount n - 1) with hzero | hpos
  · rw [hzero, pow_zero] at hlt
    omega
  · have hle := (Nat.length_toDigits_le_iff (by decide) hpos).2 hlt
    have hcount : digitCount n = (Nat.toDigits 10 n).length := rfl
    omega

/-- A number is not below the decade that precedes its own. -/
theorem Ratio.pow_decade_le {r : Ratio} (hnum : 0 < r.num) (hden : 0 < r.den) :
    (10 : ℚ) ^ (r.decade - 1) ≤ r.toRat := by
  have hden' : (0 : ℚ) < r.den := Nat.cast_pos.2 hden
  rw [decade, toRat, le_div_iff₀ hden']
  split
  · next hle =>
    -- at least one: the whole part has the digits
    have hpos : 0 < r.num / r.den := Nat.div_pos hle hden
    have hcount : 0 < digitCount (r.num / r.den) := Nat.length_toDigits_pos
    have hexponent : ((digitCount (r.num / r.den) : Nat) : Int) - 1 =
        ((digitCount (r.num / r.den) - 1 : Nat) : Int) := by
      omega
    have hwhole : 10 ^ (digitCount (r.num / r.den) - 1) * r.den ≤ r.num :=
      (Nat.le_div_iff_mul_le hden).1 (pow_digitCount_le hpos)
    rw [hexponent, zpow_natCast]
    exact_mod_cast hwhole
  · -- below one: the whole part of the inverse has them
    have hlt := lt_pow_digitCount ((r.den - 1) / r.num)
    rw [Nat.div_lt_iff_lt_mul hnum] at hlt
    have hle : r.den ≤ 10 ^ digitCount ((r.den - 1) / r.num) * r.num := by omega
    have hexponent : (1 - (digitCount ((r.den - 1) / r.num) : Int)) - 1 =
        -(digitCount ((r.den - 1) / r.num) : Int) := by
      omega
    rw [hexponent, zpow_neg, zpow_natCast, inv_mul_le_iff₀ (by positivity)]
    exact_mod_cast hle

/-! ## Rounding intervals -/

namespace Binary

theorem toRat_quarters (m : Nat) (e : Int) : (quarters m e).toRat = m * 2 ^ (e - 2) := by
  rw [quarters]
  split
  · next n hn =>
    rw [hn, Ratio.toRat, Int.ofNat_eq_natCast, zpow_natCast, Nat.shiftLeft_eq]
    push_cast
    rw [div_one]
  · next n hn =>
    rw [hn, Ratio.toRat, zpow_negSucc, Nat.shiftLeft_eq, one_mul]
    push_cast
    rw [div_eq_mul_inv]

theorem den_quarters_pos (m : Nat) (e : Int) : 0 < (quarters m e).den := by
  rw [quarters]
  split
  · exact Nat.one_pos
  · rw [Nat.shiftLeft_eq, one_mul]
    exact Nat.two_pow_pos _

/-- A quarter of the last binary place. -/
def quarter (b : Binary) : ℚ := 2 ^ (b.exponent - 2)

theorem quarter_pos (b : Binary) : 0 < b.quarter := zpow_pos (by norm_num) _

theorem toRat_value (b : Binary) : b.value.toRat = 4 * b.mantissa * b.quarter := by
  rw [value, toRat_quarters, quarter]
  push_cast
  rfl

theorem toRat_high (b : Binary) : b.high.toRat = (4 * b.mantissa + 2) * b.quarter := by
  rw [high, toRat_quarters, quarter]
  push_cast
  rfl

/-- The quarters from the number down to the lower end of its interval. -/
def margin (b : Binary) : Nat := if b.narrowBelow then 1 else 2

theorem toRat_low {b : Binary} (h : 0 < b.mantissa) :
    b.low.toRat = (4 * b.mantissa - b.margin) * b.quarter := by
  have hmargin : (if b.narrowBelow then 4 * b.mantissa - 1 else 4 * b.mantissa - 2) =
      4 * b.mantissa - b.margin := by
    rw [margin]
    split <;> rfl
  have hle : b.margin ≤ 4 * b.mantissa := by
    rw [margin]
    split <;> omega
  rw [low, hmargin, toRat_quarters, quarter, Nat.cast_sub hle]
  push_cast
  rfl

/-- Whether a rational number rounds to the binary number. The ends of the interval do if the
mantissa is even. -/
def Rounds (b : Binary) (x : ℚ) : Prop :=
  if b.mantissa % 2 = 0 then b.low.toRat ≤ x ∧ x ≤ b.high.toRat
  else b.low.toRat < x ∧ x < b.high.toRat

theorem Rounds.le {b : Binary} {x : ℚ} (h : b.Rounds x) : b.low.toRat ≤ x ∧ x ≤ b.high.toRat := by
  rw [Rounds] at h
  split at h
  · exact h
  · exact ⟨h.1.le, h.2.le⟩

theorem Rounds.lt {b : Binary} {x : ℚ} (h : b.Rounds x) (hodd : b.mantissa % 2 = 1) :
    b.low.toRat < x ∧ x < b.high.toRat := by
  rwa [Rounds, if_neg (by omega)] at h

theorem rounds_of_lt {b : Binary} {x : ℚ} (hlow : b.low.toRat < x) (hhigh : x < b.high.toRat) :
    b.Rounds x := by
  rw [Rounds]
  split
  · exact ⟨hlow.le, hhigh.le⟩
  · exact ⟨hlow, hhigh⟩

/-- Comparisons with a shifted quotient. -/
theorem toRat_shift_neg_le (r : Ratio) (d : Nat) (e : Int) :
    (r.shift (-e)).toRat ≤ d ↔ r.toRat ≤ d * 10 ^ e := by
  have hpow : (0 : ℚ) < 10 ^ e := zpow_pos (by norm_num) _
  rw [Ratio.toRat_shift, zpow_neg, ← div_eq_mul_inv, div_le_iff₀ hpow]

theorem le_toRat_shift_neg (r : Ratio) (d : Nat) (e : Int) :
    (d : ℚ) ≤ (r.shift (-e)).toRat ↔ d * 10 ^ e ≤ r.toRat := by
  have hpow : (0 : ℚ) < 10 ^ e := zpow_pos (by norm_num) _
  rw [Ratio.toRat_shift, zpow_neg, ← div_eq_mul_inv, le_div_iff₀ hpow]

/-- A decimal is found to read back exactly if it rounds to the number. -/
theorem reads_iff (b : Binary) (d : Nat) (e : Int) :
    b.reads d e = true ↔ b.Rounds (d * 10 ^ e) := by
  have hlow : 0 < (b.low.shift (-e)).den := Ratio.den_shift_pos (den_quarters_pos _ _) _
  have hhigh : 0 < (b.high.shift (-e)).den := Ratio.den_shift_pos (den_quarters_pos _ _) _
  rw [reads, Rounds]
  simp only [beq_iff_eq]
  split
  · rw [Bool.and_eq_true, decide_eq_true_eq, decide_eq_true_eq, ← Ratio.le_natCast_iff hlow,
      ← Ratio.natCast_le_iff hhigh, toRat_shift_neg_le, le_toRat_shift_neg]
  · rw [Bool.and_eq_true, decide_eq_true_eq, decide_eq_true_eq, ← not_le, ← not_le,
      ← Ratio.natCast_le_iff hlow, ← Ratio.le_natCast_iff hhigh, toRat_shift_neg_le,
      le_toRat_shift_neg, not_le, not_le]

/-! ## Disjointness -/

/-- The numbers that floats hold: fifty-three bits, the first of which is set if the exponent is not
the least one. -/
structure IsCanonical (b : Binary) : Prop where
  pos : 0 < b.mantissa
  lt : b.mantissa < 2 ^ 53
  least : -1074 ≤ b.exponent
  normal : -1074 < b.exponent → 2 ^ 52 ≤ b.mantissa
  narrow : b.narrowBelow = true ↔ b.mantissa = 2 ^ 52 ∧ -1074 < b.exponent

/-- Two intervals meet at most at an end, which belongs to one of them only if a mantissa is odd. -/
theorem not_rounds_of_le {b b' : Binary} (hle : b.high.toRat ≤ b'.low.toRat)
    (hodd : b.high.toRat < b'.low.toRat ∨ b.mantissa % 2 = 1 ∨ b'.mantissa % 2 = 1) {x : ℚ}
    (h : b.Rounds x) : ¬ b'.Rounds x := by
  intro h'
  have hhigh := h.le.2
  have hlow := h'.le.1
  rcases hodd with hlt | hodd | hodd
  · linarith
  · linarith [(h.lt hodd).2]
  · linarith [(h'.lt hodd).1]

variable {b b' : Binary} (hb : b.IsCanonical) (hb' : b'.IsCanonical)

include hb hb'

/-- Under one exponent the intervals stand in the order of the mantissas. -/
theorem not_rounds_of_mantissa_lt (hexponent : b.exponent = b'.exponent)
    (hlt : b.mantissa < b'.mantissa) {x : ℚ} (h : b.Rounds x) : ¬ b'.Rounds x := by
  have hmargin : b'.margin = 2 := by
    rw [margin, if_neg]
    intro hnarrow
    obtain ⟨hmantissa, hnormal⟩ := hb'.narrow.1 hnarrow
    have hle := hb.normal (hexponent ▸ hnormal)
    omega
  have hquarter : b'.quarter = b.quarter := by rw [quarter, quarter, hexponent]
  have hpos := b.quarter_pos
  have hstep : (b.mantissa : ℚ) + 1 ≤ b'.mantissa := by exact_mod_cast hlt
  have hhigh := b.toRat_high
  have hlow := toRat_low hb'.pos
  rw [hmargin, hquarter] at hlow
  push_cast at hlow
  refine not_rounds_of_le ?_ ?_ h
  · rw [hhigh, hlow]
    exact mul_le_mul_of_nonneg_right (by linarith) hpos.le
  · rcases Nat.lt_or_ge (b.mantissa + 1) b'.mantissa with hfar | hnext
    · left
      have hfar : (b.mantissa : ℚ) + 2 ≤ b'.mantissa := by exact_mod_cast hfar
      rw [hhigh, hlow]
      exact mul_lt_mul_of_pos_right (by linarith) hpos
    · right
      omega

/-- The intervals of a greater exponent stand above those of a lesser one. -/
theorem not_rounds_of_exponent_lt (hlt : b.exponent < b'.exponent) {x : ℚ} (h : b.Rounds x) :
    ¬ b'.Rounds x := by
  have hpos := b.quarter_pos
  have hquarter : 2 * b.quarter ≤ b'.quarter := by
    have hexponent : b.exponent - 2 + 1 ≤ b'.exponent - 2 := by omega
    rw [quarter, quarter, mul_comm, ← zpow_add_one₀ (by norm_num)]
    exact zpow_le_zpow_right₀ (by norm_num) hexponent
  have hnormal : 2 ^ 52 ≤ b'.mantissa := hb'.normal (lt_of_le_of_lt hb.least hlt)
  -- the lower end is nearest at a power of two, where the gap is halved
  have hends : 2 ^ 54 - 1 ≤ 4 * (b'.mantissa : ℚ) - b'.margin := by
    have hsum : 2 ^ 54 + b'.margin ≤ 4 * b'.mantissa + 1 := by
      rw [margin]
      split
      · omega
      · next hwide =>
        have hne : b'.mantissa ≠ 2 ^ 52 := fun heq =>
          hwide (hb'.narrow.2 ⟨heq, lt_of_le_of_lt hb.least hlt⟩)
        omega
    have hsum : (2 : ℚ) ^ 54 + b'.margin ≤ 4 * b'.mantissa + 1 := by exact_mod_cast hsum
    linarith
  have hlow : (2 ^ 55 - 2) * b.quarter ≤ b'.low.toRat := by
    rw [toRat_low hb'.pos]
    calc (2 ^ 55 - 2) * b.quarter = (2 ^ 54 - 1) * (2 * b.quarter) := by ring
      _ ≤ (2 ^ 54 - 1) * b'.quarter := by
        exact mul_le_mul_of_nonneg_left hquarter (by norm_num)
      _ ≤ (4 * b'.mantissa - b'.margin) * b'.quarter :=
        mul_le_mul_of_nonneg_right hends b'.quarter_pos.le
  have hlt := hb.lt
  refine not_rounds_of_le ?_ ?_ h
  · refine le_trans ?_ hlow
    have hmantissa : (b.mantissa : ℚ) + 1 ≤ 2 ^ 53 := by exact_mod_cast hlt
    rw [toRat_high]
    exact mul_le_mul_of_nonneg_right (by linarith) hpos.le
  · rcases Nat.mod_two_eq_zero_or_one b.mantissa with heven | hodd
    · left
      refine lt_of_lt_of_le ?_ hlow
      have hmantissa : b.mantissa + 2 ≤ 2 ^ 53 := by omega
      have hmantissa : (b.mantissa : ℚ) + 2 ≤ 2 ^ 53 := by exact_mod_cast hmantissa
      rw [toRat_high]
      exact mul_lt_mul_of_pos_right (by linarith) hpos
    · exact .inr (.inl hodd)

/-- A rational number rounds to one number only. -/
theorem IsCanonical.eq_of_rounds {x : ℚ} (h : b.Rounds x) (h' : b'.Rounds x) : b = b' := by
  rcases lt_trichotomy b.exponent b'.exponent with hlt | hexponent | hlt
  · exact absurd h' (not_rounds_of_exponent_lt hb hb' hlt h)
  · rcases lt_trichotomy b.mantissa b'.mantissa with hlt | hmantissa | hlt
    · exact absurd h' (not_rounds_of_mantissa_lt hb hb' hexponent hlt h)
    · have hnarrow : b.narrowBelow = b'.narrowBelow := by
        rw [Bool.eq_iff_iff, hb.narrow, hb'.narrow, hmantissa, hexponent]
      cases b
      cases b'
      simp_all
    · exact absurd h (not_rounds_of_mantissa_lt hb' hb hexponent.symm hlt h')
  · exact absurd h (not_rounds_of_exponent_lt hb' hb hlt h')

omit hb'

/-! ## Seventeen digits -/

/-- What is within half a unit of the seventeenth digit rounds to the number. -/
theorem rounds_of_near {x : ℚ} (h : |x - b.value.toRat| ≤ b.value.toRat / (2 * 10 ^ 16)) :
    b.Rounds x := by
  have hpos := b.quarter_pos
  have hlt : (b.mantissa : ℚ) < 2 ^ 53 := by exact_mod_cast hb.lt
  -- half a unit of the digit in quarters of the last binary place
  have hunit : b.value.toRat / (2 * 10 ^ 16) = b.mantissa / (5 * 10 ^ 15) * b.quarter := by
    rw [toRat_value]
    ring
  have hmargin : (b.mantissa : ℚ) / (5 * 10 ^ 15) < b.margin := by
    rw [div_lt_iff₀ (by norm_num), margin]
    split
    · next hnarrow =>
      have hmantissa : (b.mantissa : ℚ) = 2 ^ 52 := by exact_mod_cast (hb.narrow.1 hnarrow).1
      rw [hmantissa]
      norm_num
    · refine hlt.trans ?_
      norm_num
  have hupper : (b.mantissa : ℚ) / (5 * 10 ^ 15) < 2 := by
    rw [div_lt_iff₀ (by norm_num)]
    refine hlt.trans ?_
    norm_num
  rw [hunit, abs_le] at h
  have hbelow := mul_lt_mul_of_pos_right hmargin hpos
  have habove := mul_lt_mul_of_pos_right hupper hpos
  refine rounds_of_lt ?_ ?_
  · rw [toRat_low hb.pos]
    linarith [b.toRat_value]
  · rw [toRat_high]
    linarith [b.toRat_value]

omit hb

/-- The neighbour found on a grid reads back. -/
theorem reads_of_onGrid {e : Int} {d : Digits} (h : b.onGrid e = some d) :
    b.reads d.coefficient d.exponent = true := by
  simp only [onGrid] at h
  split at h
  · next hup =>
    cases h
    rw [Bool.and_eq_true] at hup
    exact hup.1
  · split at h
    · next hbelow =>
      cases h
      exact hbelow
    · cases h

/-- The multiple of `10 ^ e` up to the number. -/
def floorOn (b : Binary) (e : Int) : Nat :=
  (b.value.shift (-e)).num / (b.value.shift (-e)).den

/-- A neighbour is found if one of the two reads back. -/
theorem isSome_onGrid {e : Int}
    (h : b.reads (b.floorOn e) e = true ∨ b.reads (b.floorOn e + 1) e = true) :
    (b.onGrid e).isSome := by
  rw [floorOn] at h
  simp only [onGrid]
  split
  · rfl
  · next hup =>
    split
    · rfl
    · next hbelow =>
      exfalso
      rcases h with hreads | hreads
      · exact hbelow hreads
      · simp [hreads, hbelow] at hup

theorem floorOn_le (b : Binary) (e : Int) :
    b.floorOn e * 10 ^ e ≤ b.value.toRat ∧ b.value.toRat ≤ (b.floorOn e + 1 : Nat) * 10 ^ e := by
  have hden : 0 < (b.value.shift (-e)).den := Ratio.den_shift_pos (den_quarters_pos _ _) _
  rw [← le_toRat_shift_neg, ← toRat_shift_neg_le, Ratio.natCast_le_iff hden,
    Ratio.le_natCast_iff hden]
  refine ⟨Nat.div_mul_le_self _ _, (Nat.lt_mul_of_div_lt (Nat.lt_succ_self _) hden).le⟩

include hb

/-- On the grid of seventeen digits a neighbour reads back. -/
theorem isSome_onGrid_decade : (b.onGrid (b.value.decade - 17)).isSome := by
  have hnum : 0 < b.value.num := by
    rw [value, quarters]
    have hmantissa : 0 < 4 * b.mantissa := Nat.mul_pos (by decide) hb.pos
    split
    · rw [Nat.shiftLeft_eq]
      exact Nat.mul_pos hmantissa (Nat.two_pow_pos _)
    · exact hmantissa
  have hdecade := Ratio.pow_decade_le hnum (den_quarters_pos _ _)
  generalize htop : b.value.decade = top at hdecade
  have hgrid : (10 : ℚ) ^ (top - 17) / 2 ≤ b.value.toRat / (2 * 10 ^ 16) := by
    have hsplit : (10 : ℚ) ^ (top - 1) = 10 ^ (top - 17) * 10 ^ 16 := by
      rw [← zpow_natCast, ← zpow_add₀ (by norm_num)]
      congr 1
      omega
    rw [hsplit] at hdecade
    rw [div_le_div_iff₀ (by norm_num) (by norm_num)]
    linarith
  obtain ⟨hbelow, habove⟩ := b.floorOn_le (top - 17)
  have hnext : ((b.floorOn (top - 17) + 1 : Nat) : ℚ) * 10 ^ (top - 17) =
      b.floorOn (top - 17) * 10 ^ (top - 17) + 10 ^ (top - 17) := by
    push_cast
    ring
  refine isSome_onGrid ?_
  rw [reads_iff, reads_iff]
  -- the nearer neighbour is at most half a step away
  rcases le_total (b.value.toRat - b.floorOn (top - 17) * 10 ^ (top - 17))
    (10 ^ (top - 17) / 2) with hnear | hfar
  · left
    refine rounds_of_near hb ?_
    rw [abs_le]
    constructor <;> linarith
  · right
    refine rounds_of_near hb ?_
    rw [hnext] at habove ⊢
    rw [abs_le]
    constructor <;> linarith

end Binary

/-- The rational number. -/
def Digits.toRat (d : Digits) : ℚ := d.coefficient * 10 ^ d.exponent

theorem Digits.toRat_normal (c : Nat) (e : Int) : (Digits.normal c e).toRat = c * 10 ^ e := by
  induction c, e using Digits.normal.induct with
  | case1 c e h ih =>
    have hten : c = c / 10 * 10 := by omega
    rw [Digits.normal, dif_pos h, ih, zpow_add_one₀ (by norm_num)]
    conv_rhs => rw [hten]
    push_cast
    ring
  | case2 c e h =>
    rw [Digits.normal, dif_neg h]
    rfl

/-- The shortest decimal rounds back. -/
theorem Binary.IsCanonical.rounds_shortest {b : Binary} (hb : b.IsCanonical) :
    b.Rounds b.shortest.toRat := by
  have hsome : ((List.range 17).findSome? fun k =>
      b.onGrid (b.value.decade - (k + 1 : Nat))).isSome := by
    rw [List.findSome?_isSome_iff]
    exact ⟨16, by decide, isSome_onGrid_decade hb⟩
  obtain ⟨d, hd⟩ := Option.isSome_iff_exists.1 hsome
  obtain ⟨k, -, hgrid⟩ := List.exists_of_findSome?_eq_some hd
  have hreads := reads_of_onGrid hgrid
  rw [reads_iff] at hreads
  rw [shortest]
  simp only [hd]
  rw [Digits.toRat_normal]
  exact hreads

end QueryLoom.Decimal
