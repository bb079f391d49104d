/-!
# Decimals read through 64-bit significands

`Extended` is a binary number whose products are rounded to 64 bits, a tie going to the even
neighbour. `Extended.ofDecimal` is a decimal number as the product of its significand with powers of
ten, and `Extended.toFloat` the nearest float. A long product is not always the nearest number, so
neither is the float always the one nearest to the decimal.
-/

namespace QueryLoom.Decimal

/-- The binary number `mantissa * 2 ^ exponent`. -/
structure Extended where
  mantissa : Nat
  exponent : Int
deriving DecidableEq, Repr

/-- The quotient by `2 ^ k` rounded to the nearest natural, a tie going to the even one. -/
def roundShift (n k : Nat) : Nat :=
  let unit : Nat := 1 <<< k
  let q := n / unit
  let twice := 2 * (n % unit)
  if unit < twice || (twice = unit && q % 2 = 1) then q + 1 else q

/-- The number of bits of a natural. -/
def bitCount (n : Nat) : Nat := if n = 0 then 0 else n.log2 + 1

namespace Extended

/-- A number with a mantissa of at most 64 bits. -/
def rounded (n : Nat) (e : Int) : Extended :=
  let k := bitCount n - 64
  ⟨roundShift n k, e + k⟩

/-- The rounded product. -/
def mul (x y : Extended) : Extended := rounded (x.mantissa * y.mantissa) (x.exponent + y.exponent)

/-- `10 ^ k`, rounded. -/
def power (k : Nat) : Extended := rounded (Nat.pow 10 k) 0

/-- `1 / 10 ^ k`, rounded. -/
def inversePower (k : Nat) : Extended :=
  let tens := Nat.pow 10 k
  let shift := 64 + tens.log2
  ⟨((1 <<< (shift + 1)) / tens + 1) / 2, -(shift : Int)⟩

/-- The product with a factor, taken several times. -/
def mulTimes (x factor : Extended) : Nat → Extended
  | 0 => x
  | n + 1 => mulTimes (x.mul factor) factor n

/-- The product with `10 ^ k`, in steps of a hundred, ten and one. -/
def scale (power : Nat → Extended) (x : Extended) (k : Nat) : Extended :=
  ((x.mulTimes (power 100) (k / 100)).mulTimes (power 10) (k % 100 / 10)).mulTimes (power 1) (k % 10)

/-- A significand with as many factors of ten from the exponent as 64 bits take. -/
def gather (s : Nat) : Nat → Nat × Nat
  | 0 => (s, 0)
  | e + 1 => if s < (UInt64.size - 1) / 10 then gather (s * 10) e else (s, e + 1)

/-- A significand without the factors of ten that a negative exponent cancels. -/
def cancel (s : Nat) : Nat → Nat × Nat
  | 0 => (s, 0)
  | e + 1 => if s % 10 = 0 then cancel (s / 10) e else (s, e + 1)

/-- The decimal number `s * 10 ^ e`, with a significand of at most 64 bits. -/
def ofDecimal (s : Nat) : Int → Extended
  | .ofNat e =>
    let g := gather s e
    scale power ⟨g.1, 0⟩ g.2
  | .negSucc e =>
    let g := cancel s (e + 1)
    scale inversePower ⟨g.1, 0⟩ g.2

/-- The nearest float. -/
def toFloat (x : Extended) : Float :=
  let last : Int := max (x.exponent + (bitCount x.mantissa : Int) - 53) (-1074)
  let k := last - x.exponent
  if 0 < k then (Float.ofNat (roundShift x.mantissa k.toNat)).scaleB last
  else (Float.ofNat x.mantissa).scaleB x.exponent

end Extended

end QueryLoom.Decimal
