/-!
# Shortest decimal digits of a binary number

1. `Binary` is a positive number `mantissa * 2 ^ exponent` as a 64-bit float holds it, with the
   gap to its lower neighbour halved at a power of two.
2. `Binary.shortest` is the decimal of fewest digits that rounds back to it. The grids of one
   digit, two digits, … are tried in turn; the two neighbours of the number on a grid are compared
   with the interval of reals that round to it, in exact arithmetic.
3. `Digits` is the answer: `coefficient * 10 ^ exponent`.
-/

namespace QueryLoom.Decimal

/-- The decimal number `coefficient * 10 ^ exponent`. -/
structure Digits where
  coefficient : Nat
  exponent : Int
deriving DecidableEq, Repr, Inhabited

/-- A positive binary number `mantissa * 2 ^ exponent`. `narrowBelow` says that the gap below it
is half of the gap above it. -/
structure Binary where
  mantissa : Nat
  exponent : Int
  narrowBelow : Bool
deriving DecidableEq, Repr

/-- A quotient of naturals. -/
structure Ratio where
  num : Nat
  den : Nat
deriving DecidableEq, Repr

/-- The count of decimal digits of a natural, at least one. -/
def digitCount (n : Nat) : Nat := (Nat.toDigits 10 n).length

/-- The `e` with `10 ^ (e - 1) ≤ r < 10 ^ e`, for a positive `r`. -/
def Ratio.decade (r : Ratio) : Int :=
  if r.den ≤ r.num then digitCount (r.num / r.den)
  else 1 - (digitCount ((r.den - 1) / r.num) : Int)

/-- `r * 10 ^ k`, as a quotient. -/
def Ratio.shift (r : Ratio) (k : Int) : Ratio :=
  match k with
  | .ofNat n => ⟨r.num * Nat.pow 10 n, r.den⟩
  | .negSucc n => ⟨r.num, r.den * Nat.pow 10 (n + 1)⟩

/-- The number `c * 10 ^ e` with no zero at the end of its coefficient. -/
def Digits.normal (c : Nat) (e : Int) : Digits :=
  if h : c % 10 = 0 ∧ c ≠ 0 then Digits.normal (c / 10) (e + 1) else ⟨c, e⟩
termination_by c
decreasing_by omega

namespace Binary

/-- The number itself, in quarters of its last binary place. -/
def quarters (m : Nat) (e : Int) : Ratio :=
  match e - 2 with
  | .ofNat n => ⟨m <<< n, 1⟩
  | .negSucc n => ⟨m, 1 <<< (n + 1)⟩

/-- The value as a quotient. -/
def value (b : Binary) : Ratio := quarters (4 * b.mantissa) b.exponent

/-- The lower end of the interval that rounds to the number. -/
def low (b : Binary) : Ratio :=
  quarters (if b.narrowBelow then 4 * b.mantissa - 1 else 4 * b.mantissa - 2) b.exponent

/-- The upper end of the interval that rounds to the number. -/
def high (b : Binary) : Ratio := quarters (4 * b.mantissa + 2) b.exponent

/-- Whether `d * 10 ^ e` rounds to the number. The ends of the interval do if the mantissa is
even. -/
def reads (b : Binary) (d : Nat) (e : Int) : Bool :=
  let lo := b.low.shift (-e)
  let hi := b.high.shift (-e)
  if b.mantissa % 2 == 0 then lo.num ≤ d * lo.den && d * hi.den ≤ hi.num
  else lo.num < d * lo.den && d * hi.den < hi.num

/-- The neighbour of the number on the grid of multiples of `10 ^ e` that reads back, the nearer
one if both do. Of two equally near ones the even one is taken. -/
def onGrid (b : Binary) (e : Int) : Option Digits :=
  let v := b.value.shift (-e)
  let d := v.num / v.den
  let below := b.reads d e
  let above := b.reads (d + 1) e
  let twice := 2 * (v.num - d * v.den)
  let up := above && (!below || v.den < twice || (v.den == twice && d % 2 == 1))
  if up then some ⟨d + 1, e⟩ else if below then some ⟨d, e⟩ else none

/-- The decimal of fewest digits that reads back. Seventeen digits always do. -/
def shortest (b : Binary) : Digits :=
  let top := b.value.decade
  match (List.range 17).findSome? fun k => b.onGrid (top - (k + 1 : Nat)) with
  | some d => .normal d.coefficient d.exponent
  | none => ⟨0, 0⟩

end Binary

/-- A 64-bit float taken apart. -/
inductive Parts where
  | nan
  | infinite (negative : Bool)
  | zero (negative : Bool)
  | finite (negative : Bool) (b : Binary)
deriving DecidableEq, Repr

/-- The bit in front of the fraction, which is not stored. -/
def hiddenBit : Nat := 1 <<< 52

/-- The parts of the float with the given bits: sign, eleven bits of exponent, fifty-two of
fraction. -/
def Parts.ofBits (bits : Nat) : Parts :=
  let negative := bits >>> 63 == 1
  let exponent : Nat := (bits >>> 52) % 2048
  let fraction := bits % hiddenBit
  if exponent == 2047 then
    if fraction == 0 then .infinite negative else .nan
  else if exponent == 0 then
    if fraction == 0 then .zero negative else .finite negative ⟨fraction, -1074, false⟩
  else .finite negative ⟨hiddenBit + fraction, (exponent : Int) - 1075, fraction == 0 && exponent != 1⟩

/-- The parts of a float. -/
def Parts.ofFloat (x : Float) : Parts := .ofBits x.toBits.toNat

end QueryLoom.Decimal
