import QueryLoom.Toml.Tree

/-!
# Bare TOML values

`Toml.ofBare?` reads a value that is written without quotes or brackets: a truth value, an integer,
a float, a date or a time.
-/

namespace QueryLoom.Toml

/-! ## Numbers -/

/-- Digits without the underscores between them, none if one is not between digits. -/
def digits? (isDigit : Char → Bool) (cs : List Char) : Option (List Char) :=
  let groups := cs.splitOnP (· = '_')
  if groups.all fun g => !g.isEmpty && g.all isDigit then some groups.flatten else none

/-- A sign, and what follows it. -/
def signed : List Char → Option Bool × List Char
  | '-' :: cs => (some true, cs)
  | '+' :: cs => (some false, cs)
  | cs => (none, cs)

/-- Decimal digits that do not begin with a zero that could be left out. -/
def wholeDigits? (cs : List Char) : Option (List Char) :=
  match digits? Char.isDigit cs with
  | some ('0' :: _ :: _) => none
  | ds => ds

/-- An integer of at most 128 bits. -/
def integer? (negative : Bool) (n : Nat) : Option Toml :=
  if negative then if n ≤ 1 <<< 127 then some (.integer (-n)) else none
  else if n < 1 <<< 128 then some (.integer n) else none

/-- The value of digits in a base. -/
def valueIn (base : Nat) (ds : List Char) : Nat :=
  ds.foldl (fun n d => n * base + (if d.isDigit then d.toNat - 48 else d.toLower.toNat - 87)) 0

/-- An integer in another base, after its mark. -/
def inBase? (base : Nat) (isDigit : Char → Bool) (cs : List Char) : Option Toml :=
  (digits? isDigit cs).bind fun ds => integer? false (valueIn base ds)

/-- The value of an exponent. -/
def exponent? (cs : List Char) : Option Int :=
  let (sign, ds) := signed cs
  (digits? Char.isDigit ds).map fun ds =>
    let n : Int := min (valueIn 10 ds) 20000
    if sign = some true then -n else n

/-- A float from its digits, unless it is too big for one. -/
def real? (negative : Bool) (digits : List Char) (exponent : Int) : Option Toml :=
  let x := match exponent with
    | .ofNat e => Float.ofScientific (valueIn 10 digits) false e
    | .negSucc e => Float.ofScientific (valueIn 10 digits) true (e + 1)
  if x.isInf then none else some (.real (if negative then -x else x))

/-- A decimal number after its sign. -/
def decimal? (negative : Bool) (cs : List Char) : Option Toml := do
  let isMark (c : Char) : Bool := c = 'e' || c = 'E'
  let mantissa := cs.takeWhile (!isMark ·)
  let exponent ← match cs.dropWhile (!isMark ·) with
    | [] => some none
    | _ :: es => (exponent? es).map some
  let whole ← wholeDigits? (mantissa.takeWhile (· ≠ '.'))
  let fraction ← match mantissa.dropWhile (· ≠ '.') with
    | [] => some none
    | _ :: fs => (digits? Char.isDigit fs).map some
  match fraction, exponent with
  | none, none => integer? negative (valueIn 10 whole)
  | fraction, exponent =>
    let fs := fraction.getD []
    real? negative (whole ++ fs) (exponent.getD 0 - fs.length)

/-- A number. -/
def number? (cs : List Char) : Option Toml :=
  match cs with
  | '0' :: 'x' :: ds => inBase? 16 (fun c => c.isDigit || ('a' ≤ c.toLower && c.toLower ≤ 'f')) ds
  | '0' :: 'o' :: ds => inBase? 8 (fun c => '0' ≤ c && c ≤ '7') ds
  | '0' :: 'b' :: ds => inBase? 2 (fun c => c = '0' || c = '1') ds
  | cs =>
    let (sign, rest) := signed cs
    let negative := sign = some true
    if rest = ['i', 'n', 'f'] then some (.real (if negative then -1.0 / 0.0 else 1.0 / 0.0))
    else if rest = ['n', 'a', 'n'] then some (.real (0.0 / 0.0))
    else decimal? negative rest

/-! ## Dates and times -/

/-- The number that `count` digits at the front of a text make. -/
def take? (count : Nat) (cs : List Char) : Option (Nat × List Char) :=
  let ds := cs.take count
  if ds.length = count && ds.all Char.isDigit then some (valueIn 10 ds, cs.drop count) else none

/-- The days of a month. -/
def daysIn (year month : Nat) : Nat :=
  if month = 2 then
    if year % 4 = 0 && (year % 100 ≠ 0 || year % 400 = 0) then 29 else 28
  else if [4, 6, 9, 11].contains month then 30
  else 31

/-- What follows a date. -/
def date? (cs : List Char) : Option (List Char) := do
  let (year, cs) ← take? 4 cs
  match cs with
  | '-' :: cs =>
    let (month, cs) ← take? 2 cs
    match cs with
    | '-' :: cs =>
      let (day, cs) ← take? 2 cs
      if 1 ≤ month && month ≤ 12 && 1 ≤ day && day ≤ daysIn year month then some cs else none
    | _ => none
  | _ => none

/-- What follows hours and minutes. -/
def clock? (cs : List Char) : Option (List Char) := do
  let (hour, cs) ← take? 2 cs
  match cs with
  | ':' :: cs =>
    let (minute, cs) ← take? 2 cs
    if hour < 24 && minute < 60 then some cs else none
  | _ => none

/-- What follows a time; its seconds may be left out. -/
def time? (cs : List Char) : Option (List Char) := do
  match ← clock? cs with
  | ':' :: cs =>
    let (second, cs) ← take? 2 cs
    if second ≤ 60 then
      match cs with
      | '.' :: fs => if (fs.takeWhile Char.isDigit).isEmpty then none else fs.dropWhile Char.isDigit
      | cs => some cs
    else none
  | cs => some cs

/-- Whether a text is an offset from universal time, or nothing. -/
def isOffset : List Char → Bool
  | [] => true
  | ['Z'] => true
  | ['z'] => true
  | '+' :: cs => clock? cs = some []
  | '-' :: cs => clock? cs = some []
  | _ => false

/-- Whether a text is a date and no more. -/
def isDate (cs : List Char) : Bool := date? cs = some []

/-- Whether a text is a date, a time, or both with a `T` or a space between. -/
def isTime (cs : List Char) : Bool :=
  match date? cs with
  | none => time? cs = some []
  | some [] => true
  | some (c :: rest) => ['T', 't', ' '].contains c && (time? rest).any isOffset

/-- The value of a bare text. -/
def ofBare? (cs : List Char) : Option Toml :=
  if cs = ['t', 'r', 'u', 'e'] then some (.bool true)
  else if cs = ['f', 'a', 'l', 's', 'e'] then some (.bool false)
  else if isTime cs then some .time
  else number? cs

end QueryLoom.Toml
