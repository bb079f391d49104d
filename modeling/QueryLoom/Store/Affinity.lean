import QueryLoom.Decimal.Extended
import QueryLoom.Row

/-!
# Column affinities

1. `Affinity` is the kind of value that a column prefers; that of a loaded column is the kind of its
   first value that is not null.
2. `Affinity.stored` is the value that a column holds when it is given one: numbers become text in a
   text column, texts that are numbers become numbers in a numeric one, and numeric columns keep
   whole numbers as integers or as floats.
3. `Numeric.ofText?` says which texts are numbers.
-/

namespace QueryLoom

/-! ## Texts that are numbers -/

/-- A decimal number as written. -/
structure Numeric where
  negative : Bool
  /-- The digits before and after the point. -/
  whole : List Char
  fraction : List Char
  exponent : Int
  /-- There is neither a point nor an exponent. -/
  plain : Bool
deriving DecidableEq, Repr

namespace Numeric

/-- The blanks around a number. -/
def isSpace (c : Char) : Bool := c = ' ' || ('\t' ≤ c && c ≤ '\x0d')

/-- A sign, and what follows it. -/
def sign : List Char → Bool × List Char
  | '-' :: cs => (true, cs)
  | '+' :: cs => (false, cs)
  | cs => (false, cs)

/-- The value of digits. -/
def natOf (cs : List Char) : Nat := Nat.ofDigitChars 10 cs 0

/-- Beyond this size an exponent makes no difference. -/
def exponentLimit : Nat := 20000

/-- An exponent, none if the text is not one. A text without exponent has the exponent zero. -/
def exponent? : List Char → Option Int
  | [] => some 0
  | c :: cs =>
    if c = 'e' || c = 'E' then
      let (negative, digits) := sign cs
      if digits.isEmpty || !digits.all Char.isDigit then none
      else
        let n : Int := min (natOf digits) exponentLimit
        some (if negative then -n else n)
    else none

/-- The number that a text is as a whole, blanks at its ends apart. -/
def ofText? (s : String) : Option Numeric :=
  let trimmed := ((s.toList.dropWhile isSpace).reverse.dropWhile isSpace).reverse
  let (negative, cs) := sign trimmed
  let whole := cs.takeWhile Char.isDigit
  let afterWhole := cs.dropWhile Char.isDigit
  let (fraction, rest) := match afterWhole with
    | '.' :: ds => (ds.takeWhile Char.isDigit, ds.dropWhile Char.isDigit)
    | ds => ([], ds)
  if whole.isEmpty && fraction.isEmpty then none
  else (exponent? rest).map fun e => ⟨negative, whole, fraction, e, afterWhole.isEmpty⟩

/-- Appends digits to a significand until 64 bits are filled; the second part counts the digits left
over. -/
def fill (significand : Nat) : List Char → Nat × Nat
  | [] => (significand, 0)
  | c :: cs =>
    if significand < (UInt64.size - 10) / 10 then fill (significand * 10 + natOf [c]) cs
    else (significand, cs.length + 1)

/-- The number as a float. Digits that do not fit a 64-bit significand only count towards the
exponent. -/
def toFloat (n : Numeric) : Float :=
  let (high, dropped) := fill 0 n.whole
  let (significand, unused) := fill high n.fraction
  let shift : Int := dropped - (n.fraction.length - unused : Nat)
  let x := (Decimal.Extended.ofDecimal significand (n.exponent + shift)).toFloat
  if n.negative then -x else x

/-- The number as a 64-bit integer, if it is written as one. -/
def toInt64? (n : Numeric) : Option Int64 :=
  let i : Int := if n.negative then -(natOf n.whole : Int) else natOf n.whole
  if n.plain && Int64.minValue.toInt ≤ i && i ≤ Int64.maxValue.toInt then some (Int64.ofInt i)
  else none

end Numeric

/-! ## Affinities -/

/-- The kind of value that a column prefers. -/
inductive Affinity where
  | integer
  | real
  | text
  | any
deriving DecidableEq, Repr, Inhabited

namespace Affinity

/-- The affinity of a column that begins with a value. -/
def ofValue : Value → Affinity
  | .null => .any
  | .integer _ => .integer
  | .real _ => .real
  | .text _ => .text

/-- The affinity of a column of values: that of the first one that is not null. -/
def ofValues (vs : List Value) : Affinity := ((vs.find? (!·.isNull)).map ofValue).getD .any

/-- The integer that a whole float is, the greatest and the least integer excepted. -/
def wholeInteger? (x : Float) : Option Int64 :=
  let n := x.toInt64
  if Float.ofInt n.toInt == x && Int64.minValue < n && n < Int64.maxValue then some n else none

/-- A float in an integer column. -/
def realAsInteger (x : Float) : Value :=
  match wholeInteger? x with
  | some n => .integer n
  | none => .real x

/-- A float in a float column; the zero there has no sign. -/
def realAsReal (x : Float) : Value := .real (if x == 0.0 then 0.0 else x)

/-- A text in an integer column. -/
def textAsInteger (s : String) : Value :=
  match Numeric.ofText? s with
  | none => .text s
  | some n =>
    match n.toInt64? with
    | some i => .integer i
    | none => realAsInteger n.toFloat

/-- A text in a float column. -/
def textAsReal (s : String) : Value :=
  match Numeric.ofText? s with
  | none => .text s
  | some n => realAsReal n.toFloat

/-- Floats as text in a database: at most fifteen digits, and always a point. -/
def textLayout : Decimal.Layout where
  positionalFrom := some (-4)
  positionalTo := some 14
  keepsPoint := true
  mantissaKeepsPoint := true
  exponentDigits := 2
  keepsZeroSign := false
  nan := ['N', 'a', 'N']
  infinity := ['I', 'n', 'f']

/-- What a column holds when it is given a value. -/
def stored : Affinity → Value → Value
  | _, .null => .null
  | .any, v => v
  | .integer, .integer n => .integer n
  | .integer, .real x => realAsInteger x
  | .integer, .text s => textAsInteger s
  | .real, .integer n => .real (Float.ofInt n.toInt)
  | .real, .real x => realAsReal x
  | .real, .text s => textAsReal s
  | .text, .integer n => .text (String.ofList (Decimal.integer n.toInt))
  | .text, .real x => .text (String.ofList (textLayout.writeRounded 15 x))
  | .text, .text s => .text s

end Affinity

end QueryLoom
