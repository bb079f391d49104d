import QueryLoom.Proofs.Decimal.Rounding
import QueryLoom.Proofs.Json.Numeral

/-!
# Which numbers in JSON are too large

1. **Digits**: digits that are taken into a significand, with a zero for each one left over, never
   exceed the value of all digits (`takes_takeDigits`, `taken_le`).
2. **Scaling**: a significand times a power of ten is a float if it is below `refusedFrom`
   (`isSome_scaled`). Both factors are rounded before they are multiplied, so that the bound is
   below the greatest float. Only powers from `10 ^ 289` on can bring a significand there; four of
   them need their own figures (`isInf_ofNat_mul_of_roundsBelow`).
3. **Numerals**: a numeral without fraction and exponent that fits 64 bits denotes what it says
   (`value?_integer`, `value?_negative`). All others denote floats, if they are not refused
   (`value?_real`).
-/

namespace QueryLoom.Json

open Decimal

/-! ## Digits -/

/-- What is taken of digits, and how many are left over. -/
structure Takes (significand : Nat) (cs : List Char) (taken dropped : Nat) : Prop where
  length : dropped ≤ cs.length
  lt : taken < UInt64.size
  le : taken * 10 ^ dropped ≤ Nat.ofDigitChars 10 cs significand
  /-- Digits are left over only if the next one does not fit. -/
  full : 0 < dropped → UInt64.size * 10 ^ (dropped - 1) ≤ Nat.ofDigitChars 10 cs significand
  none : dropped = cs.length → taken = significand
  all : dropped = 0 → taken = Nat.ofDigitChars 10 cs significand

theorem ofDigitChars_cons_digitValue (c : Char) (cs : List Char) (significand : Nat) :
    Nat.ofDigitChars 10 (c :: cs) significand =
      Nat.ofDigitChars 10 cs (significand * 10 + digitValue c) := by
  rw [Nat.ofDigitChars_cons, Nat.mul_comm, digitValue]

theorem mul_pow_le_ofDigitChars (cs : List Char) (significand : Nat) :
    significand * 10 ^ cs.length ≤ Nat.ofDigitChars 10 cs significand := by
  rw [Nat.ofDigitChars_eq_ofDigitChars_zero, Nat.mul_comm]
  exact Nat.le_add_right _ _

theorem takes_takeDigits {significand : Nat} (h : significand < UInt64.size) (cs : List Char) :
    Takes significand cs (takeDigits significand cs).1 (takeDigits significand cs).2 := by
  induction cs generalizing significand with
  | nil =>
    exact ⟨le_rfl, h, (Nat.mul_one significand).le, fun hpos => absurd hpos (Nat.lt_irrefl 0),
      fun _ => rfl, fun _ => rfl⟩
  | cons c cs ih =>
    simp only [takeDigits]
    split
    · next hfits =>
      obtain ⟨hlength, hlt, hle, hfull, hnone, hall⟩ := ih hfits
      rw [← ofDigitChars_cons_digitValue] at hle hfull hall
      refine ⟨Nat.le_succ_of_le hlength, hlt, hle, hfull, ?_, hall⟩
      intro hdropped
      rw [List.length_cons] at hdropped
      omega
    · next hfull =>
      refine ⟨le_rfl, h, mul_pow_le_ofDigitChars (c :: cs) significand, ?_, fun _ => rfl,
        fun hzero => absurd hzero (Nat.succ_ne_zero _)⟩
      intro _
      rw [ofDigitChars_cons_digitValue, Nat.add_sub_cancel]
      exact (Nat.mul_le_mul_right _ (Nat.le_of_not_lt hfull)).trans (mul_pow_le_ofDigitChars cs _)

/-- What is taken of the digits before and after a point. Digits after the point may still be taken
when some before it are left over. -/
theorem taken_le {whole fraction : List Char} {high dropped significand unused : Nat}
    (hwhole : Takes 0 whole high dropped) (hfraction : Takes high fraction significand unused) :
    significand * 10 ^ (dropped + unused) ≤ Nat.ofDigitChars 10 (whole ++ fraction) 0 := by
  rw [Nat.ofDigitChars_append]
  have hshift := mul_pow_le_ofDigitChars fraction (Nat.ofDigitChars 10 whole 0)
  rcases Nat.eq_zero_or_pos dropped with rfl | hdropped
  · rw [Nat.zero_add, ← hwhole.all rfl]
    exact hfraction.le
  · refine le_trans ?_ hshift
    rcases hfraction.length.eq_or_lt with hnone | hsome
    · -- nothing is taken after the point
      rw [hfraction.none hnone, hnone, pow_add, ← mul_assoc]
      exact Nat.mul_le_mul_right _ hwhole.le
    · -- what is taken has at most as many digits as the first that are left over allow
      have hpow : 10 ^ (dropped + unused) ≤ 10 ^ (dropped - 1) * 10 ^ fraction.length := by
        rw [← pow_add]
        exact Nat.pow_le_pow_right (by decide) (by omega)
      calc significand * 10 ^ (dropped + unused)
          ≤ UInt64.size * (10 ^ (dropped - 1) * 10 ^ fraction.length) :=
            Nat.mul_le_mul hfraction.lt.le hpow
        _ = UInt64.size * 10 ^ (dropped - 1) * 10 ^ fraction.length := (mul_assoc _ _ _).symm
        _ ≤ Nat.ofDigitChars 10 whole 0 * 10 ^ fraction.length :=
            Nat.mul_le_mul_right _ (hwhole.full hdropped)

/-! ## Scaling -/

/-- The least number that is refused for its size. The greatest float is above it. -/
def refusedFrom : ℚ := 17976931348623156225 * 10 ^ 289

theorem refusedFrom_pos : 0 < refusedFrom := mul_pos (by norm_num) (by positivity)

theorem refusedFrom_lt : refusedFrom < 2 ^ 1024 - 2 ^ 970 := by
  have hnat : 17976931348623156225 * 10 ^ 289 + 2 ^ 970 < 2 ^ 1024 := by decide +kernel
  have hrat : (17976931348623156225 : ℚ) * 10 ^ 289 + 2 ^ 970 < 2 ^ 1024 := by exact_mod_cast hnat
  exact lt_sub_iff_add_lt.2 hrat

theorem pow_le_refusedFrom {k : Nat} (h : k ≤ 308) : (10 : ℚ) ^ k ≤ refusedFrom := by
  have hsplit : (10 : ℚ) ^ 308 = 10 ^ 19 * 10 ^ 289 := by rw [← pow_add]
  calc (10 : ℚ) ^ k ≤ 10 ^ 308 := pow_le_pow_right₀ (by norm_num) h
    _ ≤ refusedFrom := by
      rw [hsplit, refusedFrom]
      exact mul_le_mul_of_nonneg_right (by norm_num) (by positivity)

theorem refusedFrom_le_pow {k : Nat} (h : 308 < k) : refusedFrom ≤ (10 : ℚ) ^ k := by
  have hsplit : (10 : ℚ) ^ 309 = 10 ^ 20 * 10 ^ 289 := by rw [← pow_add]
  calc refusedFrom ≤ 10 ^ 309 := by
        rw [hsplit, refusedFrom]
        exact mul_le_mul_of_nonneg_right (by norm_num) (by positivity)
    _ ≤ 10 ^ k := pow_le_pow_right₀ (by norm_num) h

theorem exists_powerOfTen {k : Nat} (h : k ≤ 308) :
    ∃ b, HasMagnitude (powerOfTen k) b ∧ RoundsTo (10 ^ k) b := by
  have hlt : ((1 : Nat) : ℚ) * 10 ^ k < 2 ^ 1024 - 2 ^ 970 := by
    rw [Nat.cast_one, one_mul]
    exact (pow_le_refusedFrom h).trans_lt refusedFrom_lt
  obtain ⟨b, hb, hround⟩ := exists_ofScientific Nat.one_pos hlt
  rw [Nat.cast_one, one_mul] at hround
  exact ⟨b, hb, hround⟩

theorem exists_ofNat {n : Nat} (hpos : 0 < n) (h : (n : ℚ) < refusedFrom) :
    ∃ a, HasMagnitude (Float.ofNat n) a ∧ RoundsTo n a := by
  have hlt : (n : ℚ) * 10 ^ 0 < 2 ^ 1024 - 2 ^ 970 := by
    rw [pow_zero, mul_one]
    exact h.trans refusedFrom_lt
  obtain ⟨a, ha, hround⟩ := exists_ofScientific hpos hlt
  rw [pow_zero, mul_one] at hround
  exact ⟨a, ha, hround⟩

open Float.Model UnpackedFloat in
theorem isInf_ofNat_zero_mul {y : Float} {b : ℚ} (h : HasMagnitude y b) :
    (Float.ofNat 0 * y).isInf = false := by
  obtain ⟨sign, m, e, hm, hy, -⟩ := h
  have hzero : (Float.ofNat 0).toModel.unpack = .zero .positive := rfl
  have hprod : (Float.ofNat 0 * y).isInf = (Float.Model.pack (UnpackedFloat.mul .binary64
      (Float.ofNat 0).toModel.unpack y.toModel.unpack)).unpack.isInf := rfl
  rw [hprod, hzero, hy, UnpackedFloat.mul]
  cases Sign.positive * sign <;> rfl

/-- A product is a number if the factors, once rounded, have a product that rounds to one. -/
theorem isInf_ofNat_mul_of_lt {n k : Nat} {g h : ℚ} (hk : k ≤ 308)
    (hn : (n : ℚ) * 10 ^ k < refusedFrom) (hg : ∀ a, RoundsTo n a → a ≤ g)
    (hh : ∀ b, RoundsTo (10 ^ k) b → b ≤ h) (hlt : g * h < 2 ^ 1024 - 2 ^ 970) :
    (Float.ofNat n * powerOfTen k).isInf = false := by
  obtain ⟨b, hb, hroundb⟩ := exists_powerOfTen hk
  rcases Nat.eq_zero_or_pos n with rfl | hpos
  · exact isInf_ofNat_zero_mul hb
  · have hle : (n : ℚ) ≤ n * 10 ^ k :=
      le_mul_of_one_le_right (Nat.cast_nonneg n) (one_le_pow₀ (by norm_num))
    obtain ⟨a, ha, hrounda⟩ := exists_ofNat hpos (hle.trans_lt hn)
    have hone := one_le_mul_of_one_le_of_one_le hrounda.one_le hroundb.one_le
    have hprod : a * b ≤ g * h :=
      mul_le_mul (hg a hrounda) (hh b hroundb) (zero_le_one.trans hroundb.one_le)
        (zero_le_one.trans (hrounda.one_le.trans (hg a hrounda)))
    obtain ⟨w, hw, -⟩ := ha.mul hb hone (hprod.trans_lt hlt)
    exact hw.isInf

/-- Far enough below the bound it does not matter how the factors are rounded. -/
theorem isInf_ofNat_mul_of_le {n k : Nat} (hk : k ≤ 308)
    (hn : n * 10 ^ k ≤ 1797693134862315 * 10 ^ 293) :
    (Float.ofNat n * powerOfTen k).isInf = false := by
  have hn : (n : ℚ) * 10 ^ k ≤ 1797693134862315 * 10 ^ 293 := by exact_mod_cast hn
  have hbelow : (1797693134862315 : ℚ) * 10 ^ 293 < refusedFrom := by
    have hsplit : (10 : ℚ) ^ 293 = 10 ^ 4 * 10 ^ 289 := by rw [← pow_add]
    rw [refusedFrom, hsplit, ← mul_assoc]
    exact mul_lt_mul_of_pos_right (by norm_num) (by positivity)
  refine isInf_ofNat_mul_of_lt hk (hn.trans_lt hbelow) (fun _ ha => ha.le) (fun _ hb => hb.le) ?_
  have hnat : 1797693134862315 * 10 ^ 293 * (2 ^ 53 + 1) ^ 2 + 2 ^ 970 * 2 ^ 106 <
      2 ^ 1024 * 2 ^ 106 := by
    decide +kernel
  have hrat : (1797693134862315 : ℚ) * 10 ^ 293 * (2 ^ 53 + 1) ^ 2 + 2 ^ 970 * 2 ^ 106 <
      2 ^ 1024 * 2 ^ 106 := by
    exact_mod_cast hnat
  have hfactor : ((1 : ℚ) + 1 / 2 ^ 53) * (1 + 1 / 2 ^ 53) = (2 ^ 53 + 1) ^ 2 / 2 ^ 106 := by
    norm_num
  rw [mul_mul_mul_comm, hfactor, ← mul_div_assoc, div_lt_iff₀ (by positivity), sub_mul,
    lt_sub_iff_add_lt]
  refine lt_of_le_of_lt (add_le_add_left ?_ _) hrat
  exact mul_le_mul_of_nonneg_right hn (by positivity)

/-- Whether `10 ^ k` is rounded to no more than `m' * 2 ^ e'`, and the product of this and
`m * 2 ^ e` to a number. Both are floats, the second with an even mantissa. -/
def roundsBelow (k m e m' e' : Nat) : Bool :=
  (2 ^ 52 ≤ m && m < 2 ^ 53 && m % 2 = 0) && (2 ^ 52 ≤ m' && m' < 2 ^ 53) &&
    2 * 10 ^ k < (2 * m' + 1) * 2 ^ e' && m * 2 ^ e * (m' * 2 ^ e') + 2 ^ 970 < 2 ^ 1024

/-- Near the bound it does: a significand that is rounded to no more than `m * 2 ^ e` has a product
that is a number. -/
theorem isInf_ofNat_mul_of_roundsBelow {n k m e m' e' : Nat} (hk : k ≤ 308)
    (hn : (n : ℚ) * 10 ^ k < refusedFrom) (h : roundsBelow k m e m' e' = true)
    (hround : 2 * n ≤ (2 * m + 1) * 2 ^ e) : (Float.ofNat n * powerOfTen k).isInf = false := by
  simp only [roundsBelow, Bool.and_eq_true, decide_eq_true_eq] at h
  obtain ⟨⟨⟨⟨⟨hmin, hmax⟩, heven⟩, hmin', hmax'⟩, hround'⟩, hlt⟩ := h
  refine isInf_ofNat_mul_of_lt hk hn (g := m * 2 ^ e) (h := m' * 2 ^ e') ?_ ?_ ?_
  · intro a ha
    have hround : 2 * (n : ℚ) ≤ (2 * m + 1) * 2 ^ e := by exact_mod_cast hround
    have hle : (n : ℚ) ≤ (m + 1 / 2) * 2 ^ e := by linarith
    rw [← zpow_natCast] at hle ⊢
    exact ha.next m e hmin hmax (hle.lt_or_eq.imp_right fun heq => ⟨heven, heq⟩)
  · intro b hb
    have hround' : 2 * (10 : ℚ) ^ k < (2 * m' + 1) * 2 ^ e' := by exact_mod_cast hround'
    have hlt : (10 : ℚ) ^ k < (m' + 1 / 2) * 2 ^ e' := by linarith
    rw [← zpow_natCast 2 e'] at hlt ⊢
    exact hb.next m' e' hmin' hmax' (.inl hlt)
  · have hlt : (m : ℚ) * 2 ^ e * (m' * 2 ^ e') + 2 ^ 970 < 2 ^ 1024 := by exact_mod_cast hlt
    exact lt_sub_iff_add_lt.2 hlt

theorem isInf_ofNat_mul {n k : Nat} (hn : n < UInt64.size) (hk : k ≤ 308)
    (h : (n : ℚ) * 10 ^ k < refusedFrom) : (Float.ofNat n * powerOfTen k).isInf = false := by
  have hsize : UInt64.size = 18446744073709551616 := rfl
  rcases Nat.lt_or_ge k 289 with hsmall | hlarge
  · apply isInf_ofNat_mul_of_le hk
    calc n * 10 ^ k ≤ UInt64.size * 10 ^ 288 :=
          Nat.mul_le_mul hn.le (Nat.pow_le_pow_right (by decide) (by omega))
      _ ≤ 1797693134862315 * 10 ^ 293 := by decide +kernel
  · -- the number is below the bound in units of `10 ^ 289`
    obtain ⟨j, rfl⟩ := Nat.le.dest hlarge
    have hunits : n * 10 ^ j < 17976931348623156225 := by
      rw [refusedFrom, Nat.add_comm, pow_add, ← mul_assoc] at h
      exact_mod_cast lt_of_mul_lt_mul_right h (by positivity)
    match j with
    | 0 =>
      have hrounds : roundsBelow 289 8777798510069900 11 4621297602213964 908 := by decide +kernel
      exact isInf_ofNat_mul_of_roundsBelow hk h hrounds (by omega)
    | 1 =>
      have hrounds : roundsBelow 290 7022238808055920 8 5776622002767455 911 := by decide +kernel
      exact isInf_ofNat_mul_of_roundsBelow hk h hrounds (by omega)
    | 2 =>
      have hrounds : roundsBelow 291 5617791046444736 5 7220777503459318 914 := by decide +kernel
      exact isInf_ofNat_mul_of_roundsBelow hk h hrounds (by omega)
    | 3 =>
      have hrounds : roundsBelow 292 8988465674311578 1 4512985939662074 918 := by decide +kernel
      exact isInf_ofNat_mul_of_roundsBelow hk h hrounds (by omega)
    | i + 4 =>
      apply isInf_ofNat_mul_of_le hk
      have hsplit : n * 10 ^ (289 + (i + 4)) = n * 10 ^ i * 10 ^ 293 := by
        rw [mul_assoc, ← pow_add]
        congr 2
        omega
      rw [hsplit]
      refine Nat.mul_le_mul_right _ ?_
      rw [pow_add, ← mul_assoc] at hunits
      omega

theorem isSome_scaled {significand : Nat} {e : Int} (hsize : significand < UInt64.size)
    (h : (significand : ℚ) * 10 ^ e < refusedFrom) : (scaled? significand e).isSome := by
  cases e with
  | negSucc k => rfl
  | ofNat k =>
    rw [Int.ofNat_eq_natCast, zpow_natCast] at h
    simp only [scaled?]
    by_cases hk : k ≤ 308
    · rw [if_pos hk, isInf_ofNat_mul hsize hk h]
      rfl
    · rw [if_neg hk]
      rcases Nat.eq_zero_or_pos significand with rfl | hpos
      · rfl
      · -- no natural is small enough to make up for such a power
        have hone : (1 : ℚ) ≤ significand := by exact_mod_cast hpos
        have hle : refusedFrom ≤ significand * 10 ^ k :=
          (refusedFrom_le_pow (by omega)).trans (le_mul_of_one_le_left (by positivity) hone)
        exact absurd h hle.not_gt

/-! ## Numerals -/

namespace Numeral

/-- The digits before the point with their sign. -/
def wholeValue (n : Numeral) : Int :=
  if n.negative then -Nat.ofDigitChars 10 n.whole 0 else Nat.ofDigitChars 10 n.whole 0

/-- The exact value of a numeral without its sign. -/
def magnitude (n : Numeral) : ℚ :=
  Nat.ofDigitChars 10 (n.whole ++ n.fraction) 0 * 10 ^ (n.exponentValue - n.fraction.length)

variable {n : Numeral}

theorem magnitude_eq {c : Nat} {e : Int}
    (hc : Nat.ofDigitChars 10 (n.whole ++ n.fraction) 0 = c)
    (he : n.exponentValue - n.fraction.length = e) : n.magnitude = c * 10 ^ e := by
  rw [magnitude, hc, he]

theorem value?_integer (hfraction : n.fraction = []) (hexponent : n.exponent = none)
    (h : Nat.ofDigitChars 10 n.whole 0 < UInt64.size)
    (hsign : n.negative = true → n.wholeValue ≠ 0 ∧ Int64.minValue.toInt ≤ n.wholeValue) :
    n.value? = some (.integer n.wholeValue) := by
  simp only [value?, hfraction, hexponent, takeDigits_of_lt _ h, List.isEmpty_nil,
    Option.isNone_none, beq_self_eq_true, Bool.and_self, if_true]
  cases hnegative : n.negative with
  | false => simp [wholeValue, hnegative]
  | true =>
    obtain ⟨hzero, hmin⟩ := hsign hnegative
    simp only [wholeValue, hnegative, if_true] at hzero hmin ⊢
    simp only [Bool.not_true, Bool.false_eq_true, if_false, Bool.and_eq_true, decide_eq_true_eq]
    rw [if_pos (by omega)]

/-- A zero with a sign, or what is below the least integer of 64 bits. -/
theorem value?_negative (hfraction : n.fraction = []) (hexponent : n.exponent = none)
    (h : Nat.ofDigitChars 10 n.whole 0 < UInt64.size) (hnegative : n.negative = true)
    (hlow : n.wholeValue = 0 ∨ n.wholeValue < Int64.minValue.toInt) :
    ∃ x, n.value? = some (.real x) := by
  simp only [wholeValue, hnegative, if_true] at hlow
  simp only [value?, hfraction, hexponent, takeDigits_of_lt _ h, hnegative, List.isEmpty_nil,
    Option.isNone_none, beq_self_eq_true, Bool.and_self, if_true, Bool.not_true,
    Bool.false_eq_true, if_false, Bool.and_eq_true, decide_eq_true_eq]
  rw [if_neg (by omega)]
  exact ⟨_, rfl⟩

/-- All other numerals denote floats, unless they are too large. -/
theorem value?_real (h : ¬ (n.fraction = [] ∧ n.exponent = none ∧
      Nat.ofDigitChars 10 n.whole 0 < UInt64.size)) :
    (∃ x, n.value? = some (.real x)) ∨ n.value? = none ∧ refusedFrom ≤ n.magnitude := by
  have hwhole := takes_takeDigits (by decide : 0 < UInt64.size) n.whole
  have hfraction := takes_takeDigits hwhole.lt n.fraction
  have hle := taken_le hwhole hfraction
  have hliteral : (n.fraction.isEmpty && n.exponent.isNone && (takeDigits 0 n.whole).2 == 0) =
      false := by
    rw [Bool.eq_false_iff]
    intro hall
    simp only [Bool.and_eq_true, List.isEmpty_iff, Option.isNone_iff_eq_none, beq_iff_eq] at hall
    obtain ⟨⟨hnil, hnone⟩, hzero⟩ := hall
    exact h ⟨hnil, hnone, hwhole.all hzero ▸ hwhole.lt⟩
  simp only [value?, hliteral, Bool.false_eq_true, if_false]
  generalize takeDigits 0 n.whole = high at *
  generalize takeDigits high.1 n.fraction = low at *
  have hvalue : (low.1 : ℚ) *
      10 ^ (high.2 - (n.fraction.length - low.2 : Nat) + n.exponentValue : Int) ≤ n.magnitude := by
    have hshift : (high.2 - (n.fraction.length - low.2 : Nat) + n.exponentValue : Int) =
        (high.2 + low.2 : Nat) + (n.exponentValue - n.fraction.length) := by
      have := hfraction.length
      omega
    have hle : (low.1 : ℚ) * 10 ^ (high.2 + low.2) ≤
        Nat.ofDigitChars 10 (n.whole ++ n.fraction) 0 := by
      exact_mod_cast hle
    rw [hshift, zpow_add₀ (by norm_num), zpow_natCast, ← mul_assoc, magnitude]
    exact mul_le_mul_of_nonneg_right hle (zpow_nonneg (by norm_num) _)
  cases hscaled : scaled? low.1 (high.2 - (n.fraction.length - low.2 : Nat) + n.exponentValue) with
  | some x => exact .inl ⟨_, rfl⟩
  | none =>
    refine .inr ⟨rfl, ?_⟩
    by_contra hlt
    have hsome := isSome_scaled hfraction.lt (hvalue.trans_lt (not_le.1 hlt))
    rw [hscaled] at hsome
    cases hsome

end Numeral

end QueryLoom.Json
