import Mathlib.Data.List.TakeWhile
import QueryLoom.Proofs.Decimal.Plain
import QueryLoom.Proofs.Decimal.Shortest

/-!
# Written numbers identify numbers

1. **Bits**: a finite float can be put together again from its parts (`Parts.bits_ofBits`), and its
   parts are one of the numbers of which shortest decimals are taken (`Parts.isCanonical`).
2. **Zeros**: the floats equal to zero are zero with and without a sign (`beq_zero_iff`).
3. **Texts**: `plainValue` is the value of a plain decimal. A decimal written with a point and no
   exponent keeps its value (`Layout.plainValue_positional`).
4. **Numbers**: so finite floats with the same written form are the same, where the sign of a zero
   is written (`Layout.write_inj`), and so are integers (`integer_inj`).
-/

namespace QueryLoom.Decimal

/-! ## Bits -/

namespace Parts

/-- The bits of a finite float with the given parts. -/
def bits : Parts → Nat
  | .nan | .infinite _ => 0
  | .zero negative => if negative then 2 ^ 63 else 0
  | .finite negative b =>
    (if negative then 2 ^ 63 else 0) +
      if b.mantissa < hiddenBit then b.mantissa
      else 2 ^ 52 * (b.exponent + 1075).toNat + (b.mantissa - hiddenBit)

/-- The kinds of finite floats, by their fields: zero, below the normal numbers, normal. -/
theorem ofBits_cases {n : Nat} (h : (ofBits n).isFinite = true) :
    ((n >>> 52) % 2048 = 0 ∧ n % hiddenBit = 0 ∧ ofBits n = .zero (n >>> 63 == 1)) ∨
    ((n >>> 52) % 2048 = 0 ∧ n % hiddenBit ≠ 0 ∧
      ofBits n = .finite (n >>> 63 == 1) ⟨n % hiddenBit, -1074, false⟩) ∨
    ((n >>> 52) % 2048 ≠ 0 ∧ (n >>> 52) % 2048 ≠ 2047 ∧
      ofBits n = .finite (n >>> 63 == 1)
        ⟨hiddenBit + n % hiddenBit, ((n >>> 52) % 2048 : Nat) - 1075,
          n % hiddenBit == 0 && (n >>> 52) % 2048 != 1⟩) := by
  by_cases hlast : (n >>> 52) % 2048 = 2047
  · have hinfinite : (ofBits n).isFinite = false := by
      simp only [ofBits, hlast, beq_self_eq_true, if_true]
      split <;> rfl
    rw [hinfinite] at h
    cases h
  · by_cases hzero : (n >>> 52) % 2048 = 0
    · by_cases hfraction : n % hiddenBit = 0
      · exact .inl ⟨hzero, hfraction, by simp [ofBits, hzero, hfraction]⟩
      · exact .inr (.inl ⟨hzero, hfraction, by simp [ofBits, hzero, hfraction]⟩)
    · exact .inr (.inr ⟨hzero, hlast, by simp [ofBits, hzero, hlast]⟩)

/-- The fields of a float. -/
theorem fields_eq {n : Nat} (h : n < 2 ^ 64) :
    n = (if (n >>> 63 == 1) = true then 2 ^ 63 else 0) + 2 ^ 52 * ((n >>> 52) % 2048) +
      n % hiddenBit := by
  have hsign : (if (n >>> 63 == 1) = true then 2 ^ 63 else 0) = 2 ^ 63 * (n >>> 63) := by
    have hle : n >>> 63 = 0 ∨ n >>> 63 = 1 := by
      rw [Nat.shiftRight_eq_div_pow]
      omega
    rcases hle with hle | hle <;> rw [hle] <;> rfl
  rw [hsign, Nat.shiftRight_eq_div_pow, Nat.shiftRight_eq_div_pow, hiddenBit, Nat.shiftLeft_eq]
  omega

theorem bits_ofBits {n : Nat} (hn : n < 2 ^ 64) (h : (ofBits n).isFinite = true) :
    (ofBits n).bits = n := by
  have hfields := fields_eq hn
  have hfraction : n % hiddenBit < hiddenBit := Nat.mod_lt _ (by decide)
  rcases ofBits_cases h with ⟨hexponent, hzero, hparts⟩ | ⟨hexponent, hpos, hparts⟩ |
      ⟨hexponent, hlast, hparts⟩
  · rw [hparts, bits]
    omega
  · rw [hparts]
    simp only [bits, if_pos hfraction]
    omega
  · have hnormal : ¬ hiddenBit + n % hiddenBit < hiddenBit := by omega
    rw [hparts]
    simp only [bits, if_neg hnormal]
    omega

/-- Shortest decimals are taken only of numbers that floats hold. -/
theorem isCanonical_ofBits {n : Nat} {negative : Bool} {b : Binary}
    (h : ofBits n = .finite negative b) : b.IsCanonical := by
  have hfinite : (ofBits n).isFinite = true := by rw [h]; rfl
  have hfraction : n % hiddenBit < hiddenBit := Nat.mod_lt _ (by decide)
  have hhidden : hiddenBit = 2 ^ 52 := by decide
  rcases ofBits_cases hfinite with ⟨-, -, hparts⟩ | ⟨hexponent, hpos, hparts⟩ |
      ⟨hexponent, hlast, hparts⟩
  · rw [h] at hparts
    cases hparts
  · rw [h] at hparts
    cases hparts
    have hpos : 0 < n % hiddenBit := Nat.pos_of_ne_zero hpos
    have hlt : n % hiddenBit < 2 ^ 53 := by omega
    refine ⟨hpos, hlt, le_rfl, fun hlt => absurd hlt (lt_irrefl _), ?_⟩
    simp
  · rw [h] at hparts
    cases hparts
    have hleast : -1074 ≤ (((n >>> 52) % 2048 : Nat) : Int) - 1075 := by omega
    have hlt : hiddenBit + n % hiddenBit < 2 ^ 53 := by omega
    have hnormal : 2 ^ 52 ≤ hiddenBit + n % hiddenBit := by omega
    refine ⟨Nat.add_pos_left (by decide) _, hlt, hleast, fun _ => hnormal, ?_⟩
    rw [Bool.and_eq_true, beq_iff_eq, bne_iff_ne]
    dsimp only
    omega

theorem isCanonical_ofFloat {x : Float} {negative : Bool} {b : Binary}
    (h : ofFloat x = .finite negative b) : b.IsCanonical :=
  isCanonical_ofBits h

/-- A finite float is determined by its parts. -/
theorem ofFloat_inj {x y : Float} (hx : x.isFinite = true) (h : ofFloat x = ofFloat y) : x = y := by
  have hxfinite : (ofFloat x).isFinite = true := (isFinite_ofFloat x).trans hx
  have hyfinite : (ofFloat y).isFinite = true := h ▸ hxfinite
  have hbits : x.toBits.toNat = y.toBits.toNat := by
    rw [← bits_ofBits x.toBits.toNat_lt hxfinite, ← bits_ofBits y.toBits.toNat_lt hyfinite]
    exact congrArg bits h
  have hbits : x.toBits = y.toBits := UInt64.toNat_inj.1 hbits
  cases x with
  | ofModel mx =>
    cases y with
    | ofModel my =>
      cases mx
      cases my
      cases hbits
      rfl

end Parts

/-! ## Zeros -/

open Float.Model UnpackedFloat in
/-- Nothing but a zero is equal to zero. -/
theorem unpack_of_beq_zero {x : Float} (h : (x == 0.0) = true) :
    ∃ sign, UnpackedFloat.unpack Format.binary64 x.toModel.toBits.toBitVec = .zero sign := by
  have hcompare : ((UnpackedFloat.unpack Format.binary64 x.toModel.toBits.toBitVec).compare
      (.zero .positive) == some .eq) = true := h
  cases hunpack : UnpackedFloat.unpack Format.binary64 x.toModel.toBits.toBitVec with
  | zero sign => exact ⟨sign, rfl⟩
  | notANumber =>
    rw [hunpack] at hcompare
    cases hcompare
  | infinity sign =>
    rw [hunpack] at hcompare
    cases sign <;> cases hcompare
  | finite sign =>
    rw [hunpack] at hcompare
    cases sign <;> cases hcompare

open Float.Model UnpackedFloat in
theorem toNat_unpackMantissa (x : Float) :
    (@unpackMantissa Format.binary64 x.toModel.toBits.toBitVec).toNat =
      x.toBits.toNat % hiddenBit := by
  have hextract : (@unpackMantissa Format.binary64 x.toModel.toBits.toBitVec).toNat =
      (x.toBits.toNat >>> 0) % 2 ^ 52 := rfl
  rw [hextract]
  rfl

open Float.Model UnpackedFloat in
theorem Parts.ofFloat_of_beq_zero {x : Float} (h : (x == 0.0) = true) :
    ∃ negative, ofFloat x = .zero negative := by
  obtain ⟨sign, hzero⟩ := unpack_of_beq_zero h
  delta UnpackedFloat.unpack at hzero
  dsimp only at hzero
  -- of the cases of the unpacking only that of no exponent and no mantissa gives a zero
  by_cases hlast : @unpackExponent Format.binary64 x.toModel.toBits.toBitVec = -1#_
  · rw [if_pos hlast] at hzero
    split at hzero <;> cases hzero
  · rw [if_neg hlast] at hzero
    by_cases hexp : @unpackExponent Format.binary64 x.toModel.toBits.toBitVec = 0#_
    · rw [if_pos hexp] at hzero
      by_cases hmantissa : @unpackMantissa Format.binary64 x.toModel.toBits.toBitVec = 0#_
      · have hexponent : (x.toBits.toNat >>> 52) % 2048 = 0 := by
          rw [← toNat_unpackExponent, hexp]
          rfl
        have hfraction : x.toBits.toNat % hiddenBit = 0 := by
          rw [← toNat_unpackMantissa, hmantissa]
          rfl
        exact ⟨x.toBits.toNat >>> 63 == 1, by simp [ofFloat, ofBits, hexponent, hfraction]⟩
      · rw [dif_neg hmantissa] at hzero
        cases hzero
    · rw [if_neg hexp] at hzero
      cases hzero

/-- There are two zeros. -/
theorem beq_zero_iff {x : Float} : (x == 0.0) = true ↔ x = 0.0 ∨ x = -0.0 := by
  constructor
  · intro h
    obtain ⟨negative, hzero⟩ := Parts.ofFloat_of_beq_zero h
    have hfinite : x.isFinite = true := by
      rw [← Parts.isFinite_ofFloat, hzero]
      rfl
    cases negative with
    | false => exact Or.inl (Parts.ofFloat_inj hfinite (hzero.trans (by decide)))
    | true => exact Or.inr (Parts.ofFloat_inj hfinite (hzero.trans (by decide)))
  · rintro (rfl | rfl) <;> decide

/-! ## Texts -/

/-- The value of a plain decimal without a sign. -/
def plainValue (cs : List Char) : ℚ :=
  Nat.ofDigitChars 10 (cs.filter (· ≠ '.')) 0 / 10 ^ (cs.dropWhile (· ≠ '.')).tail.length

theorem ne_point_of_isDigit {c : Char} (h : c.isDigit = true) : c ≠ '.' := by
  rintro rfl
  cases h

theorem plainValue_whole {cs : List Char} (h : ∀ c ∈ cs, c.isDigit = true) :
    plainValue cs = Nat.ofDigitChars 10 cs 0 := by
  have hfilter : cs.filter (· ≠ '.') = cs :=
    List.filter_eq_self.2 fun c hc => by simpa using ne_point_of_isDigit (h c hc)
  have hdrop : cs.dropWhile (· ≠ '.') = [] :=
    List.dropWhile_eq_nil_iff.2 fun c hc => by simpa using ne_point_of_isDigit (h c hc)
  rw [plainValue, hfilter, hdrop]
  simp

theorem plainValue_point {cs ds : List Char} (hcs : ∀ c ∈ cs, c.isDigit = true)
    (hds : ∀ c ∈ ds, c.isDigit = true) :
    plainValue (cs ++ '.' :: ds) = Nat.ofDigitChars 10 (cs ++ ds) 0 / 10 ^ ds.length := by
  have hfilter (es : List Char) (h : ∀ c ∈ es, c.isDigit = true) : es.filter (· ≠ '.') = es :=
    List.filter_eq_self.2 fun c hc => by simpa using ne_point_of_isDigit (h c hc)
  have hdrop : (cs ++ '.' :: ds).dropWhile (· ≠ '.') = '.' :: ds := by
    rw [List.dropWhile_append_of_pos fun c hc => by
      simpa using ne_point_of_isDigit (hcs c hc)]
    exact List.dropWhile_cons_of_neg (by simp)
  rw [plainValue, hdrop, List.filter_append, List.filter_cons_of_neg (by simp), hfilter cs hcs,
    hfilter ds hds, List.tail_cons]

theorem isDigit_of_mem_zeros {n : Nat} {c : Char} (h : c ∈ List.replicate n '0') :
    c.isDigit = true := by
  rw [List.eq_of_mem_replicate h]
  rfl

namespace Layout

/-- A decimal written with a point where it belongs has its value. -/
theorem plainValue_positional (c : Nat) (e : Int) :
    plainValue (positional false (natural c) (e + (natural c).length)) = c * 10 ^ e := by
  have hdigits := (isDigits_natural c).2
  have hvalue : Nat.ofDigitChars 10 (natural c) 0 = c := Nat.ofDigitChars_ten_toDigits
  have hfirst : ∀ d ∈ ['0'], d.isDigit = true := (isDigits_natural 0).2
  generalize hwhole : e + ((natural c).length : Int) = whole
  match whole with
  | .ofNat 0 =>
    -- a point right before the digits
    have he : e = -((natural c).length : Int) := by
      have hzero : e + ((natural c).length : Int) = 0 := hwhole
      omega
    have hzero : Nat.ofDigitChars 10 (['0'] ++ natural c) 0 = c := by
      rw [Nat.ofDigitChars_append]
      exact hvalue
    show plainValue (['0'] ++ '.' :: natural c) = _
    rw [plainValue_point hfirst hdigits, hzero, he, zpow_neg, zpow_natCast, div_eq_mul_inv]
  | .negSucc n =>
    -- zeros between the point and the digits
    have he : e = -((n + 1 + (natural c).length : Nat) : Int) := by
      push_cast
      omega
    have hzero :
        Nat.ofDigitChars 10 (['0'] ++ (List.replicate (n + 1) '0' ++ natural c)) 0 = c := by
      rw [Nat.ofDigitChars_append, Nat.ofDigitChars_append, Nat.ofDigitChars_replicate_zero]
      exact hvalue
    have hlength :
        (List.replicate (n + 1) '0' ++ natural c).length = n + 1 + (natural c).length := by
      simp
    have hall : ∀ d ∈ List.replicate (n + 1) '0' ++ natural c, d.isDigit = true :=
      List.forall_mem_append.2 ⟨fun d hd => isDigit_of_mem_zeros hd, hdigits⟩
    show plainValue (['0'] ++ '.' :: (List.replicate (n + 1) '0' ++ natural c)) = _
    rw [plainValue_point hfirst hall, hzero, hlength, he, zpow_neg, zpow_natCast,
      div_eq_mul_inv]
  | .ofNat (n + 1) =>
    have he : e = (n + 1 : Nat) - ((natural c).length : Int) := by
      have hsum : e + ((natural c).length : Int) = ((n + 1 : Nat) : Int) := hwhole
      omega
    simp only [positional]
    split
    · next hrest =>
      -- zeros after the digits
      have hshort : (natural c).length ≤ n + 1 := by
        simpa using hrest
      have htake : (natural c).take (n + 1) = natural c := List.take_of_length_le hshort
      have hall : ∀ d ∈ natural c ++ List.replicate (n + 1 - (natural c).length) '0',
          d.isDigit = true :=
        List.forall_mem_append.2 ⟨hdigits, fun d hd => isDigit_of_mem_zeros hd⟩
      have he : e = ((n + 1 - (natural c).length : Nat) : Int) := by omega
      simp only [Bool.false_eq_true, if_false, List.append_nil]
      rw [htake, plainValue_whole hall, Nat.ofDigitChars_append, Nat.ofDigitChars_replicate_zero,
        hvalue, he, zpow_natCast]
      push_cast
      ring
    · next hrest =>
      -- the point among the digits
      have hlong : n + 1 < (natural c).length := by
        simpa using hrest
      have hnone : n + 1 - (natural c).length = 0 := by omega
      have he : e = -(((natural c).length - (n + 1) : Nat) : Int) := by omega
      have hfront : ∀ d ∈ (natural c).take (n + 1), d.isDigit = true :=
        fun d hd => hdigits d (List.mem_of_mem_take hd)
      have hback : ∀ d ∈ (natural c).drop (n + 1), d.isDigit = true :=
        fun d hd => hdigits d (List.mem_of_mem_drop hd)
      rw [hnone, List.replicate_zero, List.append_nil, plainValue_point hfront hback,
        List.take_append_drop, hvalue, List.length_drop, he, zpow_neg, zpow_natCast,
        div_eq_mul_inv]

end Layout

/-! ## Numbers -/

theorem IsPlain.ne_minus {cs : List Char} (h : IsPlain cs) (ds : List Char) : cs ≠ '-' :: ds := by
  have hfirst {es : List Char} (hes : IsDigits es) (rest : List Char) : es ++ rest ≠ '-' :: ds := by
    obtain ⟨hne, hdigits⟩ := hes
    cases es with
    | nil => exact absurd rfl hne
    | cons e es =>
      rintro ⟨⟩
      exact absurd (hdigits '-' List.mem_cons_self) (by decide)
  cases h with
  | whole hcs =>
    rw [← List.append_nil cs]
    exact hfirst hcs []
  | point hcs hds => exact hfirst hcs _

/-- A sign is recognised before a plain decimal. -/
theorem signed_inj {negative negative' : Bool} {cs cs' : List Char} (hcs : IsPlain cs)
    (hcs' : IsPlain cs') (h : Layout.signed negative cs = Layout.signed negative' cs') :
    negative = negative' ∧ cs = cs' := by
  cases negative <;> cases negative'
  · exact ⟨rfl, h⟩
  · exact absurd h (hcs.ne_minus cs')
  · exact absurd h.symm (hcs'.ne_minus cs)
  · exact ⟨rfl, List.tail_eq_of_cons_eq h⟩

theorem natural_inj {m n : Nat} (h : natural m = natural n) : m = n := by
  have hvalue := congrArg (Nat.ofDigitChars 10 · 0) h
  simp only [natural, Nat.ofDigitChars_ten_toDigits] at hvalue
  exact hvalue

theorem integer_eq_signed (n : Int) :
    integer n = Layout.signed (decide (n < 0)) (natural n.natAbs) := by
  cases n with
  | ofNat n => rfl
  | negSucc n =>
    rw [decide_eq_true (Int.negSucc_lt_zero n)]
    rfl

theorem integer_inj {m n : Int} (h : integer m = integer n) : m = n := by
  rw [integer_eq_signed, integer_eq_signed] at h
  have hplain (k : Nat) : IsPlain (natural k) := .whole (isDigits_natural k)
  obtain ⟨hsign, hnatural⟩ := signed_inj (hplain _) (hplain _) h
  have habs := natural_inj hnatural
  rw [decide_eq_decide] at hsign
  omega

theorem Binary.Rounds.pos {b : Binary} (hb : b.IsCanonical) {x : ℚ} (h : b.Rounds x) : 0 < x := by
  have hmargin : b.margin < 4 * b.mantissa := by
    have hpos := hb.pos
    rw [margin]
    split <;> omega
  have hmargin : (b.margin : ℚ) < 4 * b.mantissa := by exact_mod_cast hmargin
  have hlow : 0 < b.low.toRat := by
    rw [toRat_low hb.pos]
    exact mul_pos (by linarith) b.quarter_pos
  exact hlow.trans_le h.le.1

namespace Layout

variable {l : Layout} (hl : l.IsPositional) (hsign : l.keepsZeroSign = true)

include hl hsign

/-- A finite float is written with its sign and a plain decimal: zero, or one that rounds to the
float. -/
theorem write_eq_signed {x : Float} (hx : x.isFinite = true) :
    ∃ negative cs, l.write x = signed negative cs ∧ IsPlain cs ∧
      (Parts.ofFloat x = .zero negative ∧ plainValue cs = 0 ∨
        ∃ b : Binary, Parts.ofFloat x = .finite negative b ∧ b.IsCanonical ∧
          b.Rounds (plainValue cs)) := by
  rw [← Parts.isFinite_ofFloat] at hx
  rw [write]
  cases hparts : Parts.ofFloat x with
  | nan => simp [hparts, Parts.isFinite] at hx
  | infinite negative => simp [hparts, Parts.isFinite] at hx
  | zero negative =>
    refine ⟨negative, ['0'], ?_, .whole (isDigits_natural 0), .inl ⟨rfl, ?_⟩⟩
    · rw [parts, hl.noPoint, hsign, Bool.and_true]
      rfl
    · have hvalue : plainValue ['0'] = Nat.ofDigitChars 10 ['0'] 0 :=
        plainValue_whole (isDigits_natural 0).2
      rw [hvalue]
      rfl
  | finite negative b =>
    have hb := Parts.isCanonical_ofFloat hparts
    have hrounds : b.Rounds (plainValue (positional false (natural b.shortest.coefficient)
        (b.shortest.exponent + (natural b.shortest.coefficient).length))) := by
      rw [plainValue_positional]
      exact hb.rounds_shortest
    refine ⟨negative, _, ?_, isPlain_positional (isDigits_natural b.shortest.coefficient) _,
      .inr ⟨b, rfl, hb, hrounds⟩⟩
    rw [parts, digits, hl.noFrom, hl.noTo, hl.noPoint]
    rfl

/-- Different finite floats are written differently. -/
theorem write_inj {x y : Float} (hx : x.isFinite = true) (hy : y.isFinite = true)
    (h : l.write x = l.write y) : x = y := by
  obtain ⟨negative, cs, hxwrite, hcs, hxparts⟩ := write_eq_signed hl hsign hx
  obtain ⟨negative', ds, hywrite, hds, hyparts⟩ := write_eq_signed hl hsign hy
  rw [hxwrite, hywrite] at h
  obtain ⟨rfl, rfl⟩ := signed_inj hcs hds h
  apply Parts.ofFloat_inj hx
  rcases hxparts with ⟨hxzero, hzero⟩ | ⟨b, hxfinite, hb, hrounds⟩ <;>
    rcases hyparts with ⟨hyzero, hzero'⟩ | ⟨b', hyfinite, hb', hrounds'⟩
  · rw [hxzero, hyzero]
  · exact absurd (hrounds'.pos hb') (by rw [hzero]; exact lt_irrefl 0)
  · exact absurd (hrounds.pos hb) (by rw [hzero']; exact lt_irrefl 0)
  · rw [hxfinite, hyfinite, hb.eq_of_rounds hb' hrounds hrounds']

end Layout

end QueryLoom.Decimal
