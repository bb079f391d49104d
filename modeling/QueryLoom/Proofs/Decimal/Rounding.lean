import Mathlib

/-!
# Rounded products of floats

How far a product of 64-bit floats is from the product of their values, and when it is a number at
all. Only floats that are at least one are looked at, so that none is below the normal numbers.

1. **Cut mantissas**: `Cuts` says which number an extended mantissa stands for. One place after the
   other is cut off (`Cuts.shiftRight`), then rounding adds at most a half (`Cuts.rounded_le`), and
   nothing at all to an even number of units and a half (`Cuts.rounded_le_of_even`).
2. **Rounding**: `Magnitude` says that an unpacked float is normal and of which magnitude it is,
   `RoundsTo` how large it can be after rounding (`exists_rounded`). What fits the format comes back
   when it is packed (`Magnitude.pack`).
3. **Floats**: products (`exists_mul`), naturals of fifty-three bits (`exists_toFloat`) and decimals
   without a fraction (`exists_ofScientific`).
-/

namespace QueryLoom.Decimal

open Float.Model UnpackedFloat

/-! ## Cut mantissas -/

/-- An extended mantissa is the whole part of a number. One of its bits is set only if something was
cut off, the round bit only if it was a half or more, and both only if it was more than a half. -/
structure Cuts (em : ExtendedMantissa) (x : ℚ) : Prop where
  le : (em.mantissa : ℚ) ≤ x
  lt : x < em.mantissa + 1
  some : em.roundBit = true ∨ em.stickyBit = true → em.mantissa < x
  half : em.roundBit = true → em.mantissa + 1 / 2 ≤ x
  more : em.roundBit = true → em.stickyBit = true → em.mantissa + 1 / 2 < x

theorem cuts_exact (m : Nat) : Cuts (.ofMantissaAndAccuracy m .exact) m where
  le := le_rfl
  lt := lt_add_one _
  some := fun h => h.elim nofun nofun
  half := nofun
  more := nofun

theorem Cuts.shiftRightOne {em : ExtendedMantissa} {x : ℚ} (h : Cuts em x) :
    Cuts em.shiftRightOne (x / 2) := by
  have hparts : (em.mantissa : ℚ) = 2 * (em.mantissa / 2 : Nat) + (em.mantissa % 2 : Nat) := by
    exact_mod_cast (Nat.div_add_mod em.mantissa 2).symm
  have hbit : ((em.mantissa % 2 : Nat) : ℚ) ≤ 1 := by
    exact_mod_cast Nat.le_of_lt_succ (Nat.mod_lt _ two_pos)
  have hnonneg : (0 : ℚ) ≤ (em.mantissa % 2 : Nat) := Nat.cast_nonneg _
  -- the bit cut off becomes the round bit, and the two before it the sticky bit
  have hodd (hround : em.shiftRightOne.roundBit = true) : ((em.mantissa % 2 : Nat) : ℚ) = 1 := by
    have hodd : em.mantissa % 2 ≠ 0 := bne_iff_ne.1 hround
    have hodd : em.mantissa % 2 = 1 := by omega
    rw [hodd, Nat.cast_one]
  have hsome (hsticky : em.shiftRightOne.stickyBit = true) : (em.mantissa : ℚ) < x :=
    h.some (Bool.or_eq_true_iff.1 hsticky)
  have hle := h.le
  have hlt := h.lt
  refine ⟨?_, ?_, ?_, ?_, ?_⟩
  · show ((em.mantissa / 2 : Nat) : ℚ) ≤ x / 2
    linarith
  · show x / 2 < ((em.mantissa / 2 : Nat) : ℚ) + 1
    linarith
  · show _ → ((em.mantissa / 2 : Nat) : ℚ) < x / 2
    rintro (hround | hsticky)
    · linarith [hodd hround]
    · linarith [hsome hsticky]
  · intro hround
    show ((em.mantissa / 2 : Nat) : ℚ) + 1 / 2 ≤ x / 2
    linarith [hodd hround]
  · intro hround hsticky
    show ((em.mantissa / 2 : Nat) : ℚ) + 1 / 2 < x / 2
    linarith [hodd hround, hsome hsticky]

theorem Cuts.shiftRight {em : ExtendedMantissa} {x : ℚ} (h : Cuts em x) (n : Nat) :
    Cuts (em >>> n) (x / 2 ^ n) := by
  induction n with
  | zero =>
    rw [pow_zero, div_one]
    exact h
  | succ n ih =>
    rw [pow_succ, ← div_div]
    exact ih.shiftRightOne

theorem roundedMantissa_bounds (em : ExtendedMantissa) :
    em.mantissa ≤ em.roundedMantissa ∧ em.roundedMantissa ≤ em.mantissa + 1 ∧
      (em.roundBit = false → em.roundedMantissa = em.mantissa) := by
  obtain ⟨m, round, sticky⟩ := em
  cases round with
  | false =>
    have hround : ExtendedMantissa.roundedMantissa ⟨m, false, sticky⟩ = m := by cases sticky <;> rfl
    rw [hround]
    exact ⟨le_rfl, Nat.le_succ m, fun _ => rfl⟩
  | true =>
    refine ⟨?_, ?_, nofun⟩
    · cases sticky with
      | false => exact Nat.le_add_right m (m % 2)
      | true => exact Nat.le_succ m
    · cases sticky with
      | false => exact Nat.add_le_add_left (Nat.le_of_lt_succ (Nat.mod_lt m two_pos)) m
      | true => exact le_rfl

theorem Cuts.rounded_le {em : ExtendedMantissa} {x : ℚ} (h : Cuts em x) :
    (em.roundedMantissa : ℚ) ≤ x + 1 / 2 := by
  obtain ⟨-, hup, hdown⟩ := roundedMantissa_bounds em
  cases hbit : em.roundBit with
  | false =>
    rw [hdown hbit]
    linarith [h.le]
  | true =>
    have hup : (em.roundedMantissa : ℚ) ≤ em.mantissa + 1 := by exact_mod_cast hup
    linarith [h.half hbit]

/-- A half goes to the even neighbour. -/
theorem roundedMantissa_of_even {em : ExtendedMantissa} (hsticky : em.stickyBit = false)
    (heven : em.mantissa % 2 = 0) : em.roundedMantissa = em.mantissa := by
  obtain ⟨m, round, sticky⟩ := em
  obtain rfl : sticky = false := hsticky
  cases round with
  | false => rfl
  | true =>
    have hround : ExtendedMantissa.roundedMantissa ⟨m, true, false⟩ = m + m % 2 := rfl
    rw [hround, show m % 2 = 0 from heven]
    rfl

theorem Cuts.rounded_le_of_even {em : ExtendedMantissa} {x : ℚ} (h : Cuts em x) {n : Nat}
    (heven : n % 2 = 0) (hx : x ≤ n + 1 / 2) : em.roundedMantissa ≤ n := by
  obtain ⟨-, hup, hdown⟩ := roundedMantissa_bounds em
  have hfloor : (em.mantissa : ℚ) < n + 1 := by linarith [h.le]
  have hfloor : em.mantissa < n + 1 := by exact_mod_cast hfloor
  rcases (Nat.le_of_lt_succ hfloor).lt_or_eq with hlt | rfl
  · exact hup.trans hlt
  · cases hround : em.roundBit with
    | false => exact (hdown hround).le
    | true =>
      have hsticky : em.stickyBit = false := by
        rw [← Bool.not_eq_true]
        exact fun hsticky => (h.more hround hsticky).not_ge hx
      exact (roundedMantissa_of_even hsticky heven).le

/-! ## Rounding -/

/-- An unpacked float is normal and has the magnitude `w`. -/
def Magnitude (u : UnpackedFloat) (w : ℚ) : Prop :=
  ∃ (sign : Sign) (m : Nat) (e : Int) (h : 0 < m),
    u = .finite sign m e h ∧ 2 ^ 52 ≤ m ∧ m < 2 ^ 53 ∧ (m : ℚ) * 2 ^ e = w

/-- How large the result `w` of rounding is if what was rounded is at most `v`. No float is passed
by less than half a unit of its own, nor by just a half if its mantissa `n` is even. -/
structure RoundsTo (v w : ℚ) : Prop where
  one_le : 1 ≤ w
  le : w ≤ v * (1 + 1 / 2 ^ 53)
  next : ∀ (n : Nat) (e : Int), 2 ^ 52 ≤ n → n < 2 ^ 53 →
    v < (n + 1 / 2) * 2 ^ e ∨ n % 2 = 0 ∧ v = (n + 1 / 2) * 2 ^ e → w ≤ n * 2 ^ e

theorem RoundsTo.mono {v v' w : ℚ} (h : RoundsTo v w) (hle : v ≤ v') : RoundsTo v' w where
  one_le := h.one_le
  le := h.le.trans (mul_le_mul_of_nonneg_right hle (by norm_num))
  next := by
    intro n e hmin hmax hv
    apply h.next n e hmin hmax
    rcases hle.lt_or_eq with hlt | rfl
    · exact .inl (hlt.trans_le (hv.elim le_of_lt fun heq => heq.2.le))
    · exact hv

/-- What does not round to the next power of two after the greatest float stays below it. -/
theorem RoundsTo.lt {v w : ℚ} (h : RoundsTo v w) (hv : v < 2 ^ 1024 - 2 ^ 970) : w < 2 ^ 1024 := by
  have hunit : (0 : ℚ) < 2 ^ (971 : Int) := zpow_pos (by norm_num) _
  have htop : (2 : ℚ) ^ 1024 = 2 ^ 53 * 2 ^ (971 : Int) := by rw [zpow_ofNat, ← pow_add]
  have hgap : (2 : ℚ) ^ 970 = 1 / 2 * 2 ^ (971 : Int) := by
    rw [zpow_ofNat, pow_succ 2 970, mul_left_comm]
    norm_num
  have hgreatest : ((2 ^ 53 - 1 : Nat) : ℚ) = 2 ^ 53 - 1 := by norm_num
  have hle : w ≤ (2 ^ 53 - 1 : Nat) * 2 ^ (971 : Int) := by
    refine h.next _ _ (by decide) (by decide) (.inl (hv.trans_eq ?_))
    rw [htop, hgap, hgreatest, ← sub_mul]
    norm_num
  refine hle.trans_lt ?_
  rw [htop, hgreatest]
  exact mul_lt_mul_of_pos_right (sub_one_lt _) hunit

/-- A natural of at most fifty-three bits, moved to the left until it has as many. -/
theorem exists_mantissa {n : Nat} (h : 0 < n) (hlt : n < 2 ^ 53) :
    ∃ k, n.log2 + 1 + k = 53 ∧ 2 ^ 52 ≤ n * 2 ^ k ∧ n * 2 ^ k < 2 ^ 53 ∧
      ((n * 2 ^ k : Nat) : ℚ) * 2 ^ (-k : Int) = n := by
  have hlog : n.log2 < 53 := (Nat.log2_lt h.ne').2 hlt
  obtain ⟨k, hk⟩ := Nat.le.dest (by omega : n.log2 + 1 ≤ 53)
  refine ⟨k, hk, ?_, ?_, ?_⟩
  · have hsum : 52 = n.log2 + k := by omega
    rw [hsum, pow_add]
    exact Nat.mul_le_mul_right _ (Nat.log2_self_le h.ne')
  · rw [← hk, pow_add]
    exact Nat.mul_lt_mul_of_pos_right Nat.lt_log2_self (Nat.two_pow_pos k)
  · rw [zpow_neg, zpow_natCast]
    push_cast
    rw [mul_assoc, mul_inv_cancel₀ (by positivity), mul_one]

/-- Naturals of fifty-three bits do not grow. -/
theorem RoundsTo.whole {n : Nat} {w : ℚ} (h : RoundsTo n w) (hpos : 0 < n) (hlt : n < 2 ^ 53) :
    w ≤ n := by
  obtain ⟨k, -, hmin, hmax, hvalue⟩ := exists_mantissa hpos hlt
  have hunit : (0 : ℚ) < 2 ^ (-k : Int) := zpow_pos (by norm_num) _
  refine (h.next _ _ hmin hmax (.inl ?_)).trans_eq hvalue
  rw [add_mul, hvalue]
  linarith

theorem targetExponent_eq (total : Int) :
    Format.binary64.targetExponent total = max (total - 53) (-1074) := rfl

theorem log2_eq {m k : Nat} (hle : 2 ^ k ≤ m) (hlt : m < 2 ^ (k + 1)) : m.log2 = k := by
  have hpos : 0 < m := (Nat.two_pow_pos k).trans_le hle
  rw [Nat.log2_eq_iff hpos.ne']
  exact ⟨hle, hlt⟩

/-- A mantissa of fifty-three bits is in its place. -/
theorem shiftToTarget_of_lt {r : Nat} {t : Int} (hle : 2 ^ 52 ≤ r) (hlt : r < 2 ^ 53)
    (ht : -1074 ≤ t) : shiftToTargetExponent .binary64 r t .exact = (⟨r, false, false⟩, t) := by
  have htarget : Format.binary64.targetExponent (totalExponent r t) = t := by
    rw [targetExponent_eq, totalExponent, log2_eq hle hlt]
    push_cast
    omega
  rw [shiftToTargetExponent, htarget]
  simp only [shiftToExponent, sub_self, Int.toNat_zero]
  exact Prod.ext rfl (add_zero t)

/-- A mantissa that was rounded up to fifty-four bits loses one. -/
theorem shiftToTarget_of_eq {t : Int} (ht : -1074 ≤ t) :
    shiftToTargetExponent .binary64 (2 ^ 53) t .exact = (⟨2 ^ 52, false, false⟩, t + 1) := by
  have htarget : Format.binary64.targetExponent (totalExponent (2 ^ 53) t) = t + 1 := by
    rw [targetExponent_eq, totalExponent, log2_eq le_rfl (by decide)]
    push_cast
    omega
  rw [shiftToTargetExponent, htarget]
  simp only [shiftToExponent, add_sub_cancel_left]
  rfl

/-- Rounding in units of the last place that is kept: the number is `x` such units. -/
theorem Cuts.roundsTo {em : ExtendedMantissa} {x : ℚ} (h : Cuts em x) {p : Int}
    (hleast : -52 ≤ p) (hlow : 2 ^ 52 ≤ x) (hmin : 2 ^ 52 ≤ em.roundedMantissa)
    (hmax : em.roundedMantissa ≤ 2 ^ 53) : RoundsTo (x * 2 ^ p) (em.roundedMantissa * 2 ^ p) := by
  have hunit : (0 : ℚ) < 2 ^ p := zpow_pos (by norm_num) _
  refine ⟨?_, ?_, ?_⟩
  · have hmin : (2 : ℚ) ^ 52 ≤ em.roundedMantissa := by exact_mod_cast hmin
    have hsmall : (2 : ℚ) ^ (-52 : Int) ≤ 2 ^ p := zpow_le_zpow_right₀ (by norm_num) hleast
    calc (1 : ℚ) = 2 ^ 52 * 2 ^ (-52 : Int) := by norm_num
      _ ≤ em.roundedMantissa * 2 ^ p :=
        mul_le_mul hmin hsmall (by positivity) (Nat.cast_nonneg _)
  · -- a half is at most one of the `2 ^ 53` halves in the number
    have hgrowth : (em.roundedMantissa : ℚ) ≤ x * (1 + 1 / 2 ^ 53) := by linarith [h.rounded_le]
    calc (em.roundedMantissa : ℚ) * 2 ^ p ≤ x * (1 + 1 / 2 ^ 53) * 2 ^ p :=
          mul_le_mul_of_nonneg_right hgrowth hunit.le
      _ = x * 2 ^ p * (1 + 1 / 2 ^ 53) := mul_right_comm _ _ _
  · intro n e hn hn' hv
    have hle : x * 2 ^ p ≤ (n + 1 / 2) * 2 ^ e := hv.elim le_of_lt fun heq => heq.2.le
    rcases lt_trichotomy p e with hlt | rfl | hgt
    · -- the float has a greater exponent, so that it is no less than all mantissas here
      have hstep : (2 : ℚ) ^ 53 * 2 ^ p ≤ 2 ^ 52 * 2 ^ e := by
        have hsum : (2 : ℚ) ^ 53 * 2 ^ p = 2 ^ 52 * 2 ^ (p + 1) := by
          rw [zpow_add_one₀ (by norm_num)]
          ring
        rw [hsum]
        exact mul_le_mul_of_nonneg_left (zpow_le_zpow_right₀ (by norm_num) (by omega))
          (by positivity)
      calc (em.roundedMantissa : ℚ) * 2 ^ p ≤ 2 ^ 53 * 2 ^ p :=
            mul_le_mul_of_nonneg_right (by exact_mod_cast hmax) hunit.le
        _ ≤ 2 ^ 52 * 2 ^ e := hstep
        _ ≤ n * 2 ^ e :=
          mul_le_mul_of_nonneg_right (by exact_mod_cast hn) (zpow_nonneg (by norm_num) _)
    · -- both are in the same units
      have hrounded : em.roundedMantissa ≤ n := by
        rcases hv with hlt | ⟨heven, heq⟩
        · have hx : x < n + 1 / 2 := lt_of_mul_lt_mul_right hlt hunit.le
          have hlt : (em.roundedMantissa : ℚ) < n + 1 := by linarith [h.rounded_le]
          exact Nat.le_of_lt_succ (by exact_mod_cast hlt)
        · exact h.rounded_le_of_even heven (mul_right_cancel₀ hunit.ne' heq).le
      exact mul_le_mul_of_nonneg_right (by exact_mod_cast hrounded) hunit.le
    · -- a number with a greater exponent is above that float
      have hstep : (2 : ℚ) ^ 53 * 2 ^ e ≤ x * 2 ^ p := by
        have hsum : (2 : ℚ) ^ 53 * 2 ^ e = 2 ^ 52 * 2 ^ (e + 1) := by
          rw [zpow_add_one₀ (by norm_num)]
          ring
        rw [hsum]
        exact mul_le_mul hlow (zpow_le_zpow_right₀ (by norm_num) (by omega))
          (zpow_nonneg (by norm_num) _) (le_trans (by norm_num) hlow)
      have hn' : (n : ℚ) + 1 ≤ 2 ^ 53 := by exact_mod_cast hn'
      have hbelow : (n + 1 / 2 : ℚ) * 2 ^ e < 2 ^ 53 * 2 ^ e :=
        mul_lt_mul_of_pos_right (by linarith) (zpow_pos (by norm_num) _)
      exact absurd (hstep.trans hle) hbelow.not_ge

/-- Cutting a number of fifty-three bits or more to fifty-three of them, `k` bits away. -/
theorem shiftToTarget_of_log2 {m k : Nat} {e : Int} (hlog : m.log2 = k + 52)
    (hleast : -1074 ≤ e + k) :
    shiftToTargetExponent .binary64 m e .exact =
      (ExtendedMantissa.ofMantissaAndAccuracy m .exact >>> k, e + k) := by
  have htarget : Format.binary64.targetExponent (totalExponent m e) = e + k := by
    rw [targetExponent_eq, totalExponent, hlog]
    push_cast
    omega
  have hamount : (e + k - e).toNat = k := by omega
  rw [shiftToTargetExponent, htarget]
  simp only [shiftToExponent, hamount]

theorem cut_bounds {m k : Nat} (hm : 0 < m) (hlog : m.log2 = k + 52) :
    (2 : ℚ) ^ 52 ≤ m / 2 ^ k ∧ (m : ℚ) / 2 ^ k < 2 ^ 53 := by
  have hpow : (0 : ℚ) < 2 ^ k := by positivity
  have hlow : 2 ^ 52 * 2 ^ k ≤ m := by
    rw [← pow_add, add_comm, ← hlog]
    exact Nat.log2_self_le hm.ne'
  have hhigh : m < 2 ^ 53 * 2 ^ k := by
    have hsum : 53 + k = m.log2 + 1 := by omega
    rw [← pow_add, hsum]
    exact Nat.lt_log2_self
  rw [le_div_iff₀ hpow, div_lt_iff₀ hpow]
  exact ⟨by exact_mod_cast hlow, by exact_mod_cast hhigh⟩

/-- Rounding gives fifty-three bits, or the next power of two. -/
theorem Cuts.roundedMantissa_mem {em : ExtendedMantissa} {x : ℚ} (h : Cuts em x)
    (hlow : 2 ^ 52 ≤ x) (hhigh : x < 2 ^ 53) :
    2 ^ 52 ≤ em.roundedMantissa ∧ em.roundedMantissa ≤ 2 ^ 53 := by
  constructor
  · have hfloor : (2 : ℚ) ^ 52 < em.mantissa + 1 := hlow.trans_lt h.lt
    have hfloor : 2 ^ 52 < em.mantissa + 1 := by exact_mod_cast hfloor
    exact (Nat.le_of_lt_succ hfloor).trans (roundedMantissa_bounds em).1
  · have hlt : (em.roundedMantissa : ℚ) < 2 ^ 53 + 1 := by linarith [h.rounded_le]
    have hlt : em.roundedMantissa < 2 ^ 53 + 1 := by exact_mod_cast hlt
    exact Nat.le_of_lt_succ hlt

/-- What is rounded has at least fifty-three bits, of which `k` are cut off. -/
theorem exists_rounded (sign : Sign) {m k : Nat} {e : Int} (hlog : m.log2 = k + 52)
    (hone : 1 ≤ (m : ℚ) * 2 ^ e) :
    ∃ w, Magnitude (roundWithAccuracy .binary64 sign m e .exact) w ∧ RoundsTo (m * 2 ^ e) w := by
  have hm : 0 < m := by
    refine Nat.pos_of_ne_zero ?_
    rintro rfl
    cases hlog
  obtain ⟨hlow, hhigh⟩ := cut_bounds hm hlog
  have hunits : (m : ℚ) * 2 ^ e = m / 2 ^ k * 2 ^ (e + k) := by
    rw [zpow_add₀ (by norm_num), zpow_natCast, mul_comm ((2 : ℚ) ^ e), ← mul_assoc,
      div_mul_cancel₀ _ (by positivity)]
  have hleast : -52 ≤ e + k := by
    have hlt : (2 : ℚ) ^ (0 : Int) < 2 ^ (53 + (e + k)) := by
      rw [zpow_zero, zpow_add₀ (by norm_num)]
      rw [hunits] at hone
      exact hone.trans_lt (mul_lt_mul_of_pos_right hhigh (zpow_pos (by norm_num) _))
    have hpos := (zpow_lt_zpow_iff_right₀ (by norm_num)).1 hlt
    omega
  have hfirst := shiftToTarget_of_log2 hlog (by omega : -1074 ≤ e + k)
  have hcut := (cuts_exact m).shiftRight k
  generalize ExtendedMantissa.ofMantissaAndAccuracy m .exact >>> k = em at *
  obtain ⟨hmin, hmax⟩ := hcut.roundedMantissa_mem hlow hhigh
  have hround := hcut.roundsTo hleast hlow hmin hmax
  rw [← hunits] at hround
  refine ⟨_, ?_, hround⟩
  -- the second shift does something only if rounding has carried into one more bit
  rcases hmax.lt_or_eq with hmax | hmax
  · refine ⟨sign, em.roundedMantissa, e + k, (by decide : 0 < 2 ^ 52).trans_le hmin, ?_, hmin, hmax,
      rfl⟩
    rw [roundWithAccuracy, hfirst]
    simp only [shiftToTarget_of_lt hmin hmax (by omega : -1074 ≤ e + k)]
    rw [dif_neg (by omega)]
  · refine ⟨sign, 2 ^ 52, e + k + 1, by decide, ?_, le_rfl, by decide, ?_⟩
    · rw [roundWithAccuracy, hfirst]
      simp only [hmax, shiftToTarget_of_eq (by omega : -1074 ≤ e + k)]
      rw [dif_neg (by decide)]
    · rw [hmax, zpow_add_one₀ (by norm_num)]
      push_cast
      ring

/-! ## Packing -/

/-- A normal float that fits the format comes back from it. -/
theorem unpack_pack_finite (sign : Sign) {m : Nat} {e : Int} (h : 0 < m) (hle : 2 ^ 52 ≤ m)
    (hlt : m < 2 ^ 53) (hleast : -1074 ≤ e) (hlast : e ≤ 971) :
    (Float.Model.pack (.finite sign m e h)).unpack = .finite sign m e h := by
  obtain ⟨b, hb⟩ := Int.le.dest hleast
  have hbias : Format.binary64.exponentBias = 1023 := by decide
  have hbiased : (e + Format.binary64.exponentBias + (52 : Nat)).toNat = b + 1 := by omega
  have hpack : UnpackedFloat.pack .binary64 (.finite sign m e h) =
      packComponents .binary64 sign (BitVec.ofNat _ (b + 1)) (BitVec.ofNat _ m) := by
    have hfits : ¬ 2 ^ 11 ≤ b + 1 + 1 := by omega
    rw [UnpackedFloat.pack]
    simp only [hbiased, log2_eq hle hlt]
    rw [if_neg hfits, if_pos (by decide)]
  have hexponent : (BitVec.ofNat 11 (b + 1)).toNat = b + 1 := by
    rw [BitVec.toNat_ofNat]
    omega
  have hmantissa : (1#1 ++ BitVec.ofNat 52 m).toNat = m := by
    rw [BitVec.toNat_append, ← Nat.shiftLeft_add_eq_or_of_lt (BitVec.isLt _), BitVec.toNat_ofNat,
      BitVec.toNat_ofNat, Nat.shiftLeft_eq]
    omega
  -- neither the exponent of infinity nor that of numbers below the normal ones
  have hlast : BitVec.ofNat 11 (b + 1) ≠ -1#11 := by
    intro heq
    have heq : b + 1 = 2047 := hexponent.symm.trans (congrArg BitVec.toNat heq)
    omega
  have hzero : BitVec.ofNat 11 (b + 1) ≠ 0#11 := by
    intro heq
    have heq : b + 1 = 0 := hexponent.symm.trans (congrArg BitVec.toNat heq)
    omega
  have hunpack : (Float.Model.pack (.finite sign m e h)).unpack =
      UnpackedFloat.unpack .binary64 (UnpackedFloat.pack .binary64 (.finite sign m e h)) := rfl
  rw [hunpack, hpack, UnpackedFloat.unpack]
  simp only [unpackMantissa_packComponents, unpackExponent_packComponents,
    unpackSign_packComponents, Sign.ofBitVec_toBitVec]
  rw [if_neg hlast, if_neg hzero, UnpackedFloat.finite.injEq, hexponent, hbias]
  refine ⟨rfl, hmantissa, ?_⟩
  push_cast
  omega

theorem Magnitude.pack {u : UnpackedFloat} {w : ℚ} (h : Magnitude u w) (hone : 1 ≤ w)
    (hlt : w < 2 ^ 1024) : Magnitude (Float.Model.pack u).unpack w := by
  obtain ⟨sign, m, e, hm, rfl, hmin, hmax, rfl⟩ := h
  have hunit : (0 : ℚ) < 2 ^ e := zpow_pos (by norm_num) _
  have hleast : -53 < e := by
    have hupper : (m : ℚ) * 2 ^ e < 2 ^ (53 + e) := by
      rw [zpow_add₀ (by norm_num)]
      exact mul_lt_mul_of_pos_right (by exact_mod_cast hmax) hunit
    have hpow : (2 : ℚ) ^ (0 : Int) < 2 ^ (53 + e) := by
      rw [zpow_zero]
      exact hone.trans_lt hupper
    have hpow := (zpow_lt_zpow_iff_right₀ (by norm_num)).1 hpow
    omega
  have hlast : 52 + e < 1024 := by
    have hlower : (2 : ℚ) ^ (52 + e) ≤ m * 2 ^ e := by
      rw [zpow_add₀ (by norm_num)]
      exact mul_le_mul_of_nonneg_right (by exact_mod_cast hmin) hunit.le
    have hpow : (2 : ℚ) ^ (52 + e) < 2 ^ (1024 : Int) := by
      rw [zpow_ofNat]
      exact hlower.trans_lt hlt
    exact (zpow_lt_zpow_iff_right₀ (by norm_num)).1 hpow
  rw [unpack_pack_finite sign hm hmin hmax (by omega) (by omega)]
  exact ⟨sign, m, e, hm, rfl, hmin, hmax, rfl⟩

/-! ## Floats -/

/-- A float is a normal number of the magnitude `w`. -/
def HasMagnitude (x : Float) (w : ℚ) : Prop := Magnitude x.toModel.unpack w

theorem HasMagnitude.isInf {x : Float} {w : ℚ} (h : HasMagnitude x w) : x.isInf = false := by
  obtain ⟨sign, m, e, hm, hx, -⟩ := h
  have hisInf : x.isInf = x.toModel.unpack.isInf := rfl
  rw [hisInf, hx]
  rfl

/-- The product of two mantissas has more bits than are kept. -/
theorem exists_mul {u v : UnpackedFloat} {a b : ℚ} (hu : Magnitude u a) (hv : Magnitude v b)
    (hone : 1 ≤ a * b) :
    ∃ w, Magnitude (UnpackedFloat.mul .binary64 u v) w ∧ RoundsTo (a * b) w := by
  obtain ⟨s, m, e, hm, rfl, hmin, -, rfl⟩ := hu
  obtain ⟨s', m', e', hm', rfl, hmin', -, rfl⟩ := hv
  have hvalue : (m : ℚ) * 2 ^ e * (m' * 2 ^ e') = (m * m' : Nat) * 2 ^ (e + e') := by
    rw [zpow_add₀ (by norm_num)]
    push_cast
    ring
  have hbits : 104 ≤ (m * m').log2 := by
    have hprod := Nat.mul_le_mul hmin hmin'
    rw [← pow_add] at hprod
    rwa [Nat.le_log2 (Nat.mul_pos hm hm').ne']
  obtain ⟨k, hk⟩ := Nat.exists_eq_add_of_le' (by omega : 52 ≤ (m * m').log2)
  rw [hvalue] at hone ⊢
  exact exists_rounded (s * s') hk hone

theorem HasMagnitude.mul {x y : Float} {a b : ℚ} (hx : HasMagnitude x a) (hy : HasMagnitude y b)
    (hone : 1 ≤ a * b) (hlt : a * b < 2 ^ 1024 - 2 ^ 970) :
    ∃ w, HasMagnitude (x * y) w ∧ RoundsTo (a * b) w := by
  obtain ⟨w, hw, hround⟩ := exists_mul hx hy hone
  exact ⟨w, hw.pack hround.one_le (hround.lt hlt), hround⟩

/-- A natural is moved to the left until it has fifty-three bits. -/
theorem toModel_toFloat {n k : Nat} (h : 0 < n) (hk : n.log2 + 1 + k = 53) :
    n.toUInt64.toFloat.toModel =
      .pack (roundWithAccuracy .binary64 .positive (n <<< k) (-k) .exact) := by
  have hsize : n < 2 ^ 64 :=
    Nat.lt_log2_self.trans_le (Nat.pow_le_pow_right two_pos (by omega))
  have hnat : n.toUInt64.toNat = n := by
    rw [Nat.toUInt64, UInt64.toNat_ofNat']
    omega
  have hmodel : n.toUInt64.toFloat.toModel =
      .pack (UnpackedFloat.normalize .binary64 (n.toUInt64.toNat : Int) 0 .positive) := rfl
  have hcompare : compare (n : Int) 0 = .gt := by
    rw [compare_gt_iff_gt]
    omega
  have htarget : Format.binary64.targetExponent (totalExponent n 0) = -k := by
    rw [targetExponent_eq, totalExponent]
    omega
  rw [hmodel, hnat, UnpackedFloat.normalize, hcompare]
  simp only [UnpackedFloat.round, htarget, UnpackedFloat.decreaseExponent, Int.toNat_natCast,
    zero_sub, neg_neg]

theorem exists_toFloat {n : Nat} (h : 0 < n) (hlt : n < 2 ^ 53) :
    ∃ w, HasMagnitude n.toUInt64.toFloat w ∧ 1 ≤ w ∧ w ≤ n := by
  obtain ⟨k, hk, hmin, hmax, hvalue⟩ := exists_mantissa h hlt
  rw [← Nat.shiftLeft_eq] at hmin hmax hvalue
  have hshift : (n <<< k).log2 = 0 + 52 := log2_eq hmin hmax
  have hn : (1 : ℚ) ≤ n := by exact_mod_cast h
  obtain ⟨w, hw, hround⟩ := exists_rounded .positive hshift (hn.trans_eq hvalue.symm)
  rw [hvalue] at hround
  have hle : w ≤ n := hround.whole h hlt
  have hmax : w < 2 ^ 1024 := by
    have hlt : (n : ℚ) < 2 ^ 53 := by exact_mod_cast hlt
    exact (hle.trans_lt hlt).trans_le (pow_le_pow_right₀ (by norm_num) (by norm_num))
  refine ⟨w, ?_, hround.one_le, hle⟩
  rw [HasMagnitude, toModel_toFloat h hk]
  exact hw.pack hround.one_le hmax

/-- Whether an unpacked float is normal and is `10 ^ e`. -/
def isPowerOfTen (e : Nat) : UnpackedFloat → Bool
  | .finite _ m t _ =>
    2 ^ 52 ≤ m && m < 2 ^ 53 && -52 ≤ t && m * 2 ^ (t + 52).toNat == 10 ^ e * 2 ^ 52
  | _ => false

theorem magnitude_of_isPowerOfTen {e : Nat} {u : UnpackedFloat} (h : isPowerOfTen e u = true) :
    Magnitude u (10 ^ e) := by
  cases u with
  | finite sign m t hm =>
    simp only [isPowerOfTen, Bool.and_eq_true, decide_eq_true_eq, beq_iff_eq] at h
    obtain ⟨⟨⟨hmin, hmax⟩, ht⟩, hvalue⟩ := h
    refine ⟨sign, m, t, hm, rfl, hmin, hmax, ?_⟩
    obtain ⟨j, hj⟩ := Int.eq_ofNat_of_zero_le (by omega : 0 ≤ t + 52)
    have hplace : t = j + (-52 : Int) := by omega
    have hvalue : (m : ℚ) * 2 ^ j = 10 ^ e * 2 ^ 52 := by
      rw [hj, Int.toNat_natCast] at hvalue
      exact_mod_cast hvalue
    rw [hplace, zpow_add₀ (by norm_num), zpow_natCast, ← mul_assoc, hvalue, mul_assoc]
    norm_num
  | zero => cases h
  | infinity => cases h
  | notANumber => cases h

theorem isPowerOfTen_table : ∀ i : Fin Float.exactlyRepresentablePowersOfTen.size,
    isPowerOfTen i.val Float.exactlyRepresentablePowersOfTen[i].toModel.unpack = true := by
  decide

theorem magnitude_table {e : Nat} (h : e < Float.exactlyRepresentablePowersOfTen.size) :
    HasMagnitude Float.exactlyRepresentablePowersOfTen[e] (10 ^ e) :=
  magnitude_of_isPowerOfTen (isPowerOfTen_table ⟨e, h⟩)

theorem unpacked_ofScientific {m e : Nat} (hm : 0 < m) (he : e ≤ 2048) :
    UnpackedFloat.ofScientific .binary64 m (Int.ofNat e) =
      roundWithAccuracy .binary64 .positive ((m <<< 53) * 10 ^ e) (-53) .exact := by
  have hlarge : ¬ (Int.ofNat e > 2 ^ Format.binary64.exponentBits) := by
    show ¬ ((e : Int) > 2048)
    omega
  have hsmall : ¬ (Int.ofNat e < -((2 ^ Format.binary64.exponentBits : Int) + m.log2)) := by
    show ¬ ((e : Int) < -(2048 + m.log2))
    omega
  have hnonneg : 0 ≤ Int.ofNat e := Int.natCast_nonneg e
  rw [UnpackedFloat.ofScientific, dif_neg hm.ne', if_neg hlarge, if_neg hsmall,
    if_pos hnonneg]
  rfl

theorem exponent_le_of_lt {m e : Nat} (hm : 0 < m) (hlt : (m : ℚ) * 10 ^ e < 2 ^ 1024 - 2 ^ 970) :
    e ≤ 2048 := by
  by_contra hlarge
  have hone : (1 : ℚ) ≤ m := by exact_mod_cast hm
  have hbase : (2 : ℚ) ^ 1024 ≤ 10 ^ e :=
    (pow_le_pow_right₀ (by norm_num) (by omega)).trans
      (pow_le_pow_left₀ (by norm_num) (by norm_num : (2 : ℚ) ≤ 10) e)
  have hprod : (10 : ℚ) ^ e ≤ m * 10 ^ e := le_mul_of_one_le_left (by positivity) hone
  exact ((hbase.trans hprod).trans_lt hlt).not_ge (sub_le_self _ (by positivity))

/-- A decimal whose factors are not both held exactly is rounded once. -/
theorem exists_unpacked_ofScientific {m e : Nat} (hm : 0 < m) (he : e ≤ 2048) :
    ∃ w, Magnitude (UnpackedFloat.ofScientific .binary64 m (Int.ofNat e)) w ∧
      RoundsTo (m * 10 ^ e) w := by
  have hvalue : (((m <<< 53) * 10 ^ e : Nat) : ℚ) * 2 ^ (-53 : Int) = m * 10 ^ e := by
    rw [Nat.shiftLeft_eq]
    push_cast
    norm_num
    ring
  have hone : (1 : ℚ) ≤ m * 10 ^ e :=
    one_le_mul_of_one_le_of_one_le (by exact_mod_cast hm) (one_le_pow₀ (by norm_num))
  have hbits : 53 ≤ ((m <<< 53) * 10 ^ e).log2 := by
    have hpos : 0 < (m <<< 53) * 10 ^ e := by
      rw [Nat.shiftLeft_eq]
      positivity
    rw [Nat.le_log2 hpos.ne', Nat.shiftLeft_eq]
    calc 2 ^ 53 ≤ m * 2 ^ 53 := Nat.le_mul_of_pos_left _ hm
      _ ≤ m * 2 ^ 53 * 10 ^ e := Nat.le_mul_of_pos_right _ (Nat.pow_pos (by decide))
  obtain ⟨k, hk⟩ := Nat.exists_eq_add_of_le' (by omega : 52 ≤ ((m <<< 53) * 10 ^ e).log2)
  rw [unpacked_ofScientific hm he, ← hvalue]
  exact exists_rounded .positive hk (hone.trans_eq hvalue.symm)

/-- A decimal without a fraction is rounded once. -/
theorem exists_ofScientific {m e : Nat} (hm : 0 < m) (hlt : (m : ℚ) * 10 ^ e < 2 ^ 1024 - 2 ^ 970) :
    ∃ w, HasMagnitude (Float.ofScientific m false e) w ∧ RoundsTo (m * 10 ^ e) w := by
  rw [Float.ofScientific]
  by_cases h : m < 2 ^ 53 ∧ e ≤ 22
  · -- both factors are held exactly
    rw [dif_pos h]
    obtain ⟨a, ha, hone, hle⟩ := exists_toFloat hm h.1
    have hprod : a * 10 ^ e ≤ m * 10 ^ e := mul_le_mul_of_nonneg_right hle (by positivity)
    have hpow : (1 : ℚ) ≤ 10 ^ e := one_le_pow₀ (by norm_num)
    obtain ⟨w, hw, hround⟩ := ha.mul (magnitude_table _)
      (one_le_mul_of_one_le_of_one_le hone hpow) (hprod.trans_lt hlt)
    exact ⟨w, hw, hround.mono hprod⟩
  · rw [dif_neg h]
    obtain ⟨w, hw, hround⟩ := exists_unpacked_ofScientific hm (exponent_le_of_lt hm hlt)
    exact ⟨w, hw.pack hround.one_le (hround.lt hlt), hround⟩

end QueryLoom.Decimal
