import QueryLoom.Decimal.Layout

/-!
# Numbers in JSON

1. `Number` is what a JSON number denotes: an integer of at most 64 bits, or a float.
2. `Numeral` is a number as written, and `Numeral.value?` what it denotes. Digits that do not fit a
   64-bit significand only count towards the exponent, and one product or quotient with a power of
   ten gives the float.
3. `Number.written` writes a number; a float always keeps a point or an exponent, so that it is
   read as a float again.
-/

namespace QueryLoom.Json

/-- A JSON number: an integer from `-2 ^ 63` to `2 ^ 64 - 1`, or a float. -/
inductive Number where
  | integer (n : Int)
  | real (x : Float)
deriving Repr, Inhabited, BEq

/-- A number as written: sign, digits before and after the point, exponent with its sign. -/
structure Numeral where
  negative : Bool := false
  whole : List Char := []
  fraction : List Char := []
  exponent : Option (Bool × List Char) := none
deriving DecidableEq, Repr, Inhabited

/-- The value of a decimal digit. -/
def digitValue (c : Char) : Nat := c.toNat - '0'.toNat

/-- Appends digits to a significand as long as it fits 64 bits; the second part counts the digits
left over. -/
def takeDigits (significand : Nat) : List Char → Nat × Nat
  | [] => (significand, 0)
  | c :: cs =>
    let next := significand * 10 + digitValue c
    if next < UInt64.size then takeDigits next cs else (significand, cs.length + 1)

/-- `10 ^ k` as a float. -/
def powerOfTen (k : Nat) : Float := Float.ofScientific 1 false k

/-- `x / 10 ^ k`, in steps of at most `10 ^ 308`. -/
def scaleDown (x : Float) (k : Nat) : Float :=
  if k ≤ 308 then x / powerOfTen k
  else if x == 0.0 then x
  else scaleDown (x / powerOfTen 308) (k - 308)
termination_by k

/-- `significand * 10 ^ exponent` as a float, if it is not too big for one. -/
def scaled? (significand : Nat) : Int → Option Float
  | .ofNat k =>
    let x := Float.ofNat significand
    if k ≤ 308 then
      let y := x * powerOfTen k
      if y.isInf then none else some y
    else if significand == 0 then some x else none
  | .negSucc k => some (scaleDown (Float.ofNat significand) (k + 1))

namespace Numeral

/-- The exponent's value. -/
def exponentValue (n : Numeral) : Int :=
  match n.exponent with
  | none => 0
  | some (negative, digits) =>
    let e : Int := Nat.ofDigitChars 10 digits 0
    if negative then -e else e

/-- The number denoted, none if it is too big for a float. -/
def value? (n : Numeral) : Option Number :=
  let (high, dropped) := takeDigits 0 n.whole
  if n.fraction.isEmpty && n.exponent.isNone && dropped == 0 then
    if !n.negative then some (.integer high)
    else if 0 < high && Int64.minValue.toInt ≤ -high then some (.integer (-high))
    else some (.real (-(Float.ofNat high)))
  else
    let (significand, unused) := takeDigits high n.fraction
    let shift : Int := dropped - (n.fraction.length - unused : Nat)
    (scaled? significand (shift + n.exponentValue)).map fun x =>
      .real (if n.negative then -x else x)

end Numeral

/-- Floats in JSON: positional from `1e-5` below `1e16`, always with a point or an exponent; what
is not finite has no written form but `null`. -/
def floatLayout : Decimal.Layout where
  positionalFrom := some (-5)
  positionalTo := some 15
  keepsPoint := true
  mantissaKeepsPoint := false
  exponentDigits := 1
  keepsZeroSign := true
  nan := ['n', 'u', 'l', 'l']
  infinity := ['n', 'u', 'l', 'l']

/-- A float as written in JSON. -/
def floatText (x : Float) : List Char :=
  if x.isFinite then floatLayout.write x else floatLayout.nan

/-- A number as written in JSON. -/
def Number.written : Number → List Char
  | .integer n => Decimal.integer n
  | .real x => floatText x

end QueryLoom.Json
