import QueryLoom.Sql.Token

/-!
# Plain decimals

The written forms of numbers that stand in SQL are plain: digits, with at most one point between
digits, after at most one sign, and never an exponent.

1. **Grammar**: `IsDigits`, `IsPlain` and `IsNumeral` say what such a form looks like.
2. **Parts of a float**: `Parts.isFinite_ofFloat` ties the parts of a float to its being finite.
3. **Writers**: integers (`isNumeral_integer`) and finite floats in a layout that never takes an
   exponent (`Layout.isNumeral_write`) are written that way.
-/

namespace QueryLoom.Decimal

/-! ## Grammar -/

/-- Decimal digits, at least one. -/
def IsDigits (cs : List Char) : Prop := cs ≠ [] ∧ ∀ c ∈ cs, c.isDigit = true

theorem isDigits_of_all {cs : List Char} (h : (!cs.isEmpty && cs.all Char.isDigit) = true) :
    IsDigits cs := by
  rw [Bool.and_eq_true, Bool.not_eq_true', List.isEmpty_eq_false_iff] at h
  exact ⟨h.1, List.all_eq_true.1 h.2⟩

/-- Digits, or digits with a point between them. -/
inductive IsPlain : List Char → Prop where
  | whole {cs : List Char} : IsDigits cs → IsPlain cs
  | point {cs ds : List Char} : IsDigits cs → IsDigits ds → IsPlain (cs ++ '.' :: ds)

/-- A plain decimal, with or without a minus sign. -/
inductive IsNumeral : List Char → Prop where
  | plain {cs : List Char} : IsPlain cs → IsNumeral cs
  | minus {cs : List Char} : IsPlain cs → IsNumeral ('-' :: cs)

theorem isDigits_natural (n : Nat) : IsDigits (natural n) := by
  constructor
  · exact Nat.toDigits_ne_nil
  · intro c hc
    exact Nat.isDigit_of_mem_toDigits (by decide) (by decide) hc

theorem isDigits_zeros {n : Nat} (h : 0 < n) : IsDigits (List.replicate n '0') := by
  constructor
  · intro hnil
    have := congrArg List.length hnil
    simp at this
    omega
  · intro c hc
    rw [List.eq_of_mem_replicate hc]
    rfl

/-- Digits stay digits when zeros or digits join them. -/
theorem IsDigits.append {cs ds : List Char} (hcs : IsDigits cs) (hds : ∀ c ∈ ds, c.isDigit = true) :
    IsDigits (cs ++ ds) := by
  refine ⟨by simp [hcs.1], ?_⟩
  intro c hc
  rcases List.mem_append.1 hc with hc | hc
  · exact hcs.2 c hc
  · exact hds c hc

theorem isNumeral_integer (n : Int) : IsNumeral (integer n) := by
  cases n with
  | ofNat n => exact .plain (.whole (isDigits_natural n))
  | negSucc n => exact .minus (.whole (isDigits_natural (n + 1)))

/-! ## Parts of a float -/

/-- Whether a float taken apart is a number. -/
def Parts.isFinite : Parts → Bool
  | .nan | .infinite _ => false
  | .zero _ | .finite _ _ => true

open Float.Model UnpackedFloat in
theorem toNat_unpackExponent (x : Float) :
    (@unpackExponent Format.binary64 x.toModel.toBits.toBitVec).toNat =
      (x.toBits.toNat >>> 52) % 2048 := rfl

open Float.Model UnpackedFloat in
/-- A float is finite if its exponent is not the greatest one. -/
theorem isFinite_eq_decide (x : Float) :
    x.isFinite = decide ((x.toBits.toNat >>> 52) % 2048 ≠ 2047) := by
  have hexp : @unpackExponent Format.binary64 x.toModel.toBits.toBitVec = -1#_ ↔
      (x.toBits.toNat >>> 52) % 2048 = 2047 := by
    rw [← toNat_unpackExponent, ← BitVec.toNat_inj]
    rfl
  have hunpack : x.isFinite =
      (UnpackedFloat.unpack Format.binary64 x.toModel.toBits.toBitVec).isFinite := rfl
  rw [hunpack]
  -- the cases are those of the unpacking: infinite or no number, then zero, subnormal, normal
  delta UnpackedFloat.unpack
  dsimp only
  by_cases h : (x.toBits.toNat >>> 52) % 2048 = 2047
  · rw [if_pos (hexp.2 h), decide_eq_false (Classical.not_not.2 h)]
    split
    · rfl
    · rfl
  · rw [if_neg (mt hexp.1 h), decide_eq_true h]
    by_cases hzero : @unpackExponent Format.binary64 x.toModel.toBits.toBitVec = 0#_
    · rw [if_pos hzero]
      by_cases hmantissa : @unpackMantissa Format.binary64 x.toModel.toBits.toBitVec = 0#_
      · rw [dif_pos hmantissa]
        rfl
      · rw [dif_neg hmantissa]
        rfl
    · rw [if_neg hzero]
      rfl

theorem Parts.isFinite_ofFloat (x : Float) : (Parts.ofFloat x).isFinite = x.isFinite := by
  rw [isFinite_eq_decide]
  simp only [Parts.ofFloat, Parts.ofBits]
  by_cases h : (x.toBits.toNat >>> 52) % 2048 = 2047
  · simp only [h, beq_self_eq_true, if_true]
    split <;> simp [Parts.isFinite]
  · simp only [beq_iff_eq, h, if_false]
    split
    · split <;> simp [Parts.isFinite, h]
    · simp [Parts.isFinite, h]

/-! ## Written floats -/

namespace Layout

/-- Digits with a point put among them, where no point is kept after a whole number. -/
theorem isPlain_positional {digits : List Char} (h : IsDigits digits) (whole : Int) :
    IsPlain (positional false digits whole) := by
  have hzero : IsDigits ['0'] := isDigits_zeros Nat.one_pos
  match whole with
  | .ofNat 0 => exact .point hzero h
  | .negSucc n => exact .point hzero ((isDigits_zeros n.succ_pos).append h.2)
  | .ofNat (n + 1) =>
    have hfront : IsDigits (digits.take (n + 1) ++
        List.replicate (n + 1 - digits.length) '0') := by
      refine IsDigits.append ⟨?_, fun c hc => h.2 c (List.mem_of_mem_take hc)⟩ ?_
      · simp [h.1]
      · intro c hc
        rw [List.eq_of_mem_replicate hc]
        rfl
    simp only [positional]
    split
    · simp only [Bool.false_eq_true, if_false, List.append_nil]
      exact .whole hfront
    · rename_i hrest
      refine .point hfront ⟨?_, fun c hc => h.2 c (List.mem_of_mem_drop hc)⟩
      intro hnil
      exact hrest (by rw [hnil]; rfl)

theorem isNumeral_signed (negative : Bool) {cs : List Char} (h : IsPlain cs) :
    IsNumeral (signed negative cs) := by
  cases negative with
  | false => exact .plain h
  | true => exact .minus h

/-- A layout that never takes an exponent and keeps no point after a whole number. -/
structure IsPositional (l : Layout) : Prop where
  noFrom : l.positionalFrom = none
  noTo : l.positionalTo = none
  noPoint : l.keepsPoint = false

/-- Finite floats in such a layout are plain decimals. -/
theorem isNumeral_write {l : Layout} (hl : l.IsPositional) {x : Float} (hx : x.isFinite = true) :
    IsNumeral (l.write x) := by
  rw [← Parts.isFinite_ofFloat] at hx
  rw [write]
  cases hparts : Parts.ofFloat x with
  | nan => simp [hparts, Parts.isFinite] at hx
  | infinite negative => simp [hparts, Parts.isFinite] at hx
  | zero negative =>
    rw [parts, hl.noPoint]
    exact isNumeral_signed _ (isPlain_positional (isDigits_natural 0) 1)
  | finite negative b =>
    rw [parts, digits, hl.noFrom, hl.noTo, hl.noPoint]
    exact isNumeral_signed _ (isPlain_positional (isDigits_natural _) _)

end Layout

end QueryLoom.Decimal
