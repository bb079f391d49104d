import QueryLoom.Json.Token.Lexer
import QueryLoom.Proofs.Decimal.Plain

/-!
# Integers in JSON

1. **Digits**: a natural is written without leading zeros (`exists_natural_of_pos`), and its digits
   are taken whole if it fits 64 bits (`takeDigits_natural`).
2. **Values**: an integer that fits 64 bits, signed or unsigned, is denoted by the numeral it is
   written as (`value?_ofInt`).
3. **Reading**: the written form of an integer is read as that numeral, whatever follows that does
   not continue a number (`run_integer`).
-/

namespace QueryLoom.Json

/-! ## Digits -/

/-- The first digit of a positive number is not zero. -/
theorem exists_natural_of_pos {n : Nat} (h : 0 < n) :
    ∃ d ds, Decimal.natural n = d :: ds ∧ d ≠ '0' := by
  induction n using Nat.strongRecOn with
  | ind n ih =>
    rw [Decimal.natural, Nat.toDigits_eq_if (by decide)]
    split
    · rename_i hlt
      have hdigit : ∀ m : Fin 10, 0 < m.val → m.val.digitChar ≠ '0' := by decide
      exact ⟨n.digitChar, [], rfl, hdigit ⟨n, hlt⟩ h⟩
    · rename_i hle
      obtain ⟨d, ds, hds, hd⟩ := ih (n / 10) (by omega) (by omega)
      rw [Decimal.natural] at hds
      exact ⟨d, ds ++ [(n % 10).digitChar], by rw [hds, List.cons_append], hd⟩

/-- Digits whose value fits 64 bits are all taken. -/
theorem takeDigits_of_lt {significand : Nat} (cs : List Char)
    (h : Nat.ofDigitChars 10 cs significand < UInt64.size) :
    takeDigits significand cs = (Nat.ofDigitChars 10 cs significand, 0) := by
  induction cs generalizing significand with
  | nil => rfl
  | cons c cs ih =>
    have hnext : Nat.ofDigitChars 10 (c :: cs) significand =
        Nat.ofDigitChars 10 cs (significand * 10 + digitValue c) := by
      rw [Nat.ofDigitChars_cons, Nat.mul_comm, digitValue]
    rw [hnext] at h ⊢
    -- the value so far is no bigger than the value of all digits
    have hle : significand * 10 + digitValue c ≤
        Nat.ofDigitChars 10 cs (significand * 10 + digitValue c) := by
      rw [Nat.ofDigitChars_eq_ofDigitChars_zero]
      exact Nat.le_add_right_of_le (Nat.le_mul_of_pos_left _ (Nat.pow_pos (by decide)))
    simp only [takeDigits]
    rw [if_pos (Nat.lt_of_le_of_lt hle h)]
    exact ih h

theorem takeDigits_natural {n : Nat} (h : n < UInt64.size) :
    takeDigits 0 (Decimal.natural n) = (n, 0) := by
  have hvalue : Nat.ofDigitChars 10 (Decimal.natural n) 0 = n := Nat.ofDigitChars_ten_toDigits
  have hlt : Nat.ofDigitChars 10 (Decimal.natural n) 0 < UInt64.size := by rwa [hvalue]
  rw [takeDigits_of_lt _ hlt, hvalue]

/-! ## Values -/

/-- An integer as it is written. -/
def Numeral.ofInt (n : Int) : Numeral where
  negative := n < 0
  whole := Decimal.natural n.natAbs

/-- Whether a number is an integer of 64 bits, signed or unsigned. -/
def Number.IsInteger : Number → Prop
  | .integer n => Int64.minValue.toInt ≤ n ∧ n < UInt64.size
  | .real _ => False

theorem value?_ofInt {n : Int} (h : (Number.integer n).IsInteger) :
    (Numeral.ofInt n).value? = some (.integer n) := by
  obtain ⟨hmin, hmax⟩ := h
  have hlow : Int64.minValue.toInt = -(2 ^ 63) := by decide
  have hsize : UInt64.size = 2 ^ 64 := by decide
  have htake := takeDigits_natural (n := n.natAbs) (by omega)
  by_cases hneg : n < 0
  · have hpos : 0 < n.natAbs := by omega
    have hvalue : -(n.natAbs : Int) = n := by omega
    simp only [Numeral.value?, Numeral.ofInt, htake, hvalue, decide_eq_true hneg,
      decide_eq_true hpos, decide_eq_true hmin]
    rfl
  · have hvalue : (n.natAbs : Int) = n := by omega
    simp only [Numeral.value?, Numeral.ofInt, htake, hvalue, decide_eq_false hneg]
    rfl

/-! ## Reading -/

/-- Whether a text cannot continue a number. -/
def EndsNumber (rest : List Char) : Prop :=
  ∀ c ∈ rest.head?, isDigit c = false ∧ c ≠ '.' ∧ c ≠ 'e' ∧ c ≠ 'E'

theorem isDigit_iff {c : Char} : isDigit c = true ↔ c.isDigit = true := by
  simp [isDigit, Char.isDigit, Char.le_def]

/-- The parts of a number after which it may end. -/
def NumberPart.mayEnd : NumberPart → Bool
  | .zero | .whole | .fraction | .exponent => true
  | .sign | .point | .mark | .markSign => false

namespace Lexing

/-- A number whose last digit has been read ends where it cannot go on. -/
theorem run_ended {n : Numeral} {part : NumberPart} (hpart : part.mayEnd = true)
    {rest : List Char} (h : EndsNumber rest) :
    (Lexing.digits n part).run rest = .number n :: Lexing.between.run rest := by
  cases rest with
  | nil =>
    cases part with
    | sign | point | mark | markSign => cases hpart
    | zero | whole | fraction | exponent => rfl
  | cons c cs =>
    obtain ⟨hdigit, hpoint, hlower, hupper⟩ := h c rfl
    have hstep : (Lexing.digits n part).step c = endNumber n c := by
      cases part with
      | sign | point | mark | markSign => cases hpart
      | zero | whole | fraction | exponent =>
        simp [step, stepNumber, hdigit, hpoint, hlower, hupper]
    rw [run_cons, hstep, run_cons]
    rfl

/-- Further digits of a part are added one by one. -/
theorem run_foldl {part : NumberPart} {add : Numeral → Char → Numeral}
    (hstep : ∀ n c, isDigit c = true →
      (Lexing.digits n part).step c = (.digits (add n c) part, []))
    {ds : List Char} (hds : ∀ d ∈ ds, d.isDigit = true) (n : Numeral) (rest : List Char) :
    (Lexing.digits n part).run (ds ++ rest) = (Lexing.digits (ds.foldl add n) part).run rest := by
  induction ds generalizing n with
  | nil => rfl
  | cons d ds ih =>
    have hd : isDigit d = true := isDigit_iff.2 (hds d List.mem_cons_self)
    rw [List.cons_append, run_cons, hstep n d hd, List.foldl_cons]
    exact ih (fun e he => hds e (List.mem_cons_of_mem _ he)) _

theorem foldl_addWhole (ds : List Char) (n : Numeral) :
    ds.foldl addWhole n = { n with whole := n.whole ++ ds } := by
  induction ds generalizing n with
  | nil => simp
  | cons d ds ih => simp [ih, addWhole]

theorem step_whole (n : Numeral) (c : Char) (h : isDigit c = true) :
    (Lexing.digits n .whole).step c = (.digits (addWhole n c) .whole, []) := by
  simp [step, stepNumber, h]

/-- Further digits before the point. -/
theorem run_digits {n : Numeral} {ds : List Char} (hds : ∀ d ∈ ds, d.isDigit = true)
    (rest : List Char) :
    (Lexing.digits n .whole).run (ds ++ rest) =
      (Lexing.digits { n with whole := n.whole ++ ds } .whole).run rest := by
  rw [run_foldl step_whole hds, foldl_addWhole]

/-- A digit is no blank, bracket, separator or sign. -/
theorem start_digit {c : Char} (h : c.isDigit = true) (hc : c ≠ '0') :
    start c = (.digits { whole := [c] } .whole, []) := by
  have hne : ∀ x : Char, x.isDigit = false → (c == x) = false := by
    intro x hx
    rw [beq_eq_false_iff_ne]
    rintro rfl
    rw [h] at hx
    cases hx
  have hzero : (c == '0') = false := beq_eq_false_iff_ne.2 hc
  have hdigit : isDigit c = true := isDigit_iff.2 h
  simp [start, isJsonBlank, hne ' ' rfl, hne '\t' rfl, hne '\n' rfl, hne '\r' rfl, hne '[' rfl,
    hne ']' rfl, hne '{' rfl, hne '}' rfl, hne ',' rfl, hne ':' rfl, hne '"' rfl, hne '-' rfl,
    hzero, hdigit]

theorem run_integer (n : Int) {rest : List Char} (h : EndsNumber rest) :
    Lexing.between.run (Decimal.integer n ++ rest) =
      .number (Numeral.ofInt n) :: Lexing.between.run rest := by
  cases n with
  | ofNat n =>
    rcases Nat.eq_zero_or_pos n with rfl | hpos
    · have hpart : NumberPart.zero.mayEnd = true := rfl
      exact run_ended (n := { whole := ['0'] }) hpart h
    · obtain ⟨d, ds, hds, hd⟩ := exists_natural_of_pos hpos
      have hdigits := (Decimal.isDigits_natural n).2
      rw [hds] at hdigits
      have hstart := start_digit (hdigits d List.mem_cons_self) hd
      rw [Decimal.integer, hds, List.cons_append, run_cons, step, hstart,
        run_digits (fun e he => hdigits e (List.mem_cons_of_mem _ he)), run_ended rfl h]
      simp [Numeral.ofInt, hds]
  | negSucc n =>
    obtain ⟨d, ds, hds, hd⟩ := exists_natural_of_pos n.succ_pos
    have hdigits := (Decimal.isDigits_natural (n + 1)).2
    rw [hds] at hdigits
    have hsign : (Lexing.digits { negative := true } .sign).step d =
        (.digits { negative := true, whole := [d] } .whole, []) := by
      have hdigit : isDigit d = true := isDigit_iff.2 (hdigits d List.mem_cons_self)
      simp [step, stepNumber, hd, hdigit, addWhole]
    have hminus : start '-' = (.digits { negative := true } .sign, []) := rfl
    rw [Decimal.integer, hds, List.cons_append, List.cons_append, run_cons, step, hminus, run_cons,
      hsign, run_digits (fun e he => hdigits e (List.mem_cons_of_mem _ he)), run_ended rfl h]
    simp [Numeral.ofInt, Int.natAbs_negSucc, hds, Int.negSucc_lt_zero]

end Lexing

end QueryLoom.Json
