import QueryLoom.Decimal.Shortest

/-!
# Written forms of numbers

1. `natural`, `integer`: decimal digits without leading zeros.
2. `Layout` is the set of decisions a format makes about a float: from which exponents on it is
   written with an exponent, how that looks, and whether a whole number keeps `.0`.
3. `Layout.write` writes a float of shortest digits; `Layout.writeRounded` one of at most a given
   count of digits.
-/

namespace QueryLoom.Decimal

/-- A natural in decimal digits. -/
def natural (n : Nat) : List Char := Nat.toDigits 10 n

/-- An integer in decimal digits, a negative one after `-`. -/
def integer : Int → List Char
  | .ofNat n => natural n
  | .negSucc n => '-' :: natural (n + 1)

/-- How a format writes a float. -/
structure Layout where
  /-- Decimal exponents from `positionalFrom` on are written without an exponent. -/
  positionalFrom : Option Int
  /-- Decimal exponents up to `positionalTo` are written without an exponent. -/
  positionalTo : Option Int
  /-- A whole number is written with `.0`. -/
  keepsPoint : Bool
  /-- A mantissa of one digit is written with `.0`. -/
  mantissaKeepsPoint : Bool
  /-- The least count of digits in an exponent. -/
  exponentDigits : Nat
  /-- The sign of a negative zero is written. -/
  keepsZeroSign : Bool
  /-- The texts of not-a-number and infinity. -/
  nan : List Char
  infinity : List Char

namespace Layout

/-- Digits with a point after the first `whole` of them, zeros added where digits are missing. -/
def positional (point : Bool) (digits : List Char) (whole : Int) : List Char :=
  match whole with
  | .ofNat 0 => '0' :: '.' :: digits
  | .negSucc n => '0' :: '.' :: (List.replicate (n + 1) '0' ++ digits)
  | .ofNat n =>
    let rest := digits.drop n
    let front := digits.take n ++ List.replicate (n - digits.length) '0'
    if rest.isEmpty then front ++ (if point then ['.', '0'] else []) else front ++ '.' :: rest

/-- An exponent with its sign and at least `width` digits. -/
def exponentText (width : Nat) (e : Int) : List Char :=
  let digits := natural e.natAbs
  'e' :: (if e < 0 then '-' else '+') :: (List.replicate (width - digits.length) '0' ++ digits)

/-- A positive decimal. -/
def digits (l : Layout) (d : Digits) : List Char :=
  let text := natural d.coefficient
  let whole : Int := d.exponent + text.length
  let inside := l.positionalFrom.all (· ≤ whole - 1) && l.positionalTo.all (whole - 1 ≤ ·)
  if inside then positional l.keepsPoint text whole
  else positional l.mantissaKeepsPoint text 1 ++ exponentText l.exponentDigits (whole - 1)

def signed (negative : Bool) (cs : List Char) : List Char :=
  if negative then '-' :: cs else cs

/-- A float taken apart, its finite part turned into digits by `cut`. -/
def parts (l : Layout) (cut : Binary → Digits) : Parts → List Char
  | .nan => l.nan
  | .infinite negative => signed negative l.infinity
  | .zero negative => signed (negative && l.keepsZeroSign) (positional l.keepsPoint ['0'] 1)
  | .finite negative b => signed negative (l.digits (cut b))

/-- A float with the fewest digits that read back. -/
def write (l : Layout) (x : Float) : List Char := l.parts Binary.shortest (.ofFloat x)

end Layout

/-- The decimal of at most `count` digits nearest to a number, a half going up, with no zero at
its end. -/
def Binary.rounded (count : Nat) (b : Binary) : Digits :=
  let e := b.value.decade - count
  let v := b.value.shift (-e)
  .normal ((2 * v.num + v.den) / (2 * v.den)) e

/-- A float with at most `count` digits. -/
def Layout.writeRounded (l : Layout) (count : Nat) (x : Float) : List Char :=
  l.parts (Binary.rounded count) (.ofFloat x)

end QueryLoom.Decimal
