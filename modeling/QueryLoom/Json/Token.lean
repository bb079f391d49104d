import QueryLoom.Json.Numeral

/-!
# JSON tokens

1. `Break` tells the two ways apart in which a text stops being JSON: it is malformed, or it was
   cut short.
2. `Piece` is one character of a quoted text as written: a character, or a UTF-16 unit given by
   an escape. `joinPieces` pairs surrogates; a lone one has no text.
3. `Token` is a bracket, separator, word, number or quoted text. Where the text breaks inside a
   token, a `fault` token comes last; it tells apart what one meets who reads the token and who
   only skips it.
-/

namespace QueryLoom.Json

/-- How a text stops being JSON. -/
inductive Break where
  /-- No continuation could mend it. -/
  | malformed
  /-- The text ended while more was needed. -/
  | cut
deriving DecidableEq, Repr

/-- One character of a quoted text as written. -/
inductive Piece where
  | char (c : Char)
  | unit (n : Nat)
deriving DecidableEq, Repr

/-- Whether a UTF-16 unit is the first of a surrogate pair. -/
def isHighSurrogate (n : Nat) : Bool := 0xD800 ≤ n && n ≤ 0xDBFF

/-- Whether a UTF-16 unit is the second of a surrogate pair. -/
def isLowSurrogate (n : Nat) : Bool := 0xDC00 ≤ n && n ≤ 0xDFFF

/-- The character of a surrogate pair. -/
def surrogatePair (high low : Nat) : Char :=
  Char.ofNat (0x10000 + (high - 0xD800) * 0x400 + (low - 0xDC00))

/-- The text that pieces spell, none if a surrogate stands alone. -/
def joinPieces : List Piece → Option (List Char)
  | [] => some []
  | .char c :: ps => (joinPieces ps).map (c :: ·)
  | .unit n :: ps =>
    if isLowSurrogate n then none
    else if isHighSurrogate n then
      match ps with
      | .unit m :: ps' =>
        if isLowSurrogate m then (joinPieces ps').map (surrogatePair n m :: ·) else none
      | _ => none
    else (joinPieces ps).map (Char.ofNat n :: ·)

/-- What a reader meets in a quoted text that breaks after the given pieces: a surrogate known to
stand alone comes before the break. A high surrogate at the very end is not yet known to. -/
def breakAfter (ps : List Piece) (b : Break) : Break :=
  if (joinPieces ps).isNone && (joinPieces (ps ++ [.unit 0xDC00])).isNone then .malformed else b

/-- What the place at which a text breaks begins with. -/
inductive Opening where
  /-- The text ended, or the character begins no value. -/
  | nothing
  | null
  /-- A truth value or a number. -/
  | scalar
  | text
  | array
  | object
deriving DecidableEq, Repr

/-- A token. -/
inductive Token where
  | openArray
  | closeArray
  | openObject
  | closeObject
  | comma
  | colon
  | null
  | bool (b : Bool)
  | number (n : Numeral)
  | text (ps : List Piece)
  /-- The text breaks here. -/
  | fault (inside : Opening) (read skip : Break)
deriving DecidableEq, Repr

end QueryLoom.Json
