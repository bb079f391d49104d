import QueryLoom.Json.Token

/-!
# Reading JSON tokens

A machine that reads one character at a time. `Lexing` is its state, `Lexing.step` its step, which
may give out tokens, and `Lexing.finish` what the end of the text gives out. `Token.scan` runs it.
After a fault the machine gives out nothing more.
-/

namespace QueryLoom.Json

/-- Where a quoted text stands between two characters. -/
inductive Quoting where
  | plain
  /-- After a backslash. -/
  | escape
  /-- After `count` hexadecimal digits that make `value`. -/
  | hex (value count : Nat)
  /-- Inside a broken escape of which `missing` bytes are still to come. -/
  | badHex (missing : Nat)
deriving DecidableEq, Repr

/-- Which part of a number has been read last. -/
inductive NumberPart where
  | sign
  | zero
  | whole
  | point
  | fraction
  | mark
  | markSign
  | exponent
deriving DecidableEq, Repr

/-- The state of the machine. -/
inductive Lexing where
  | between
  /-- Inside a word of which `rest` is still to come. -/
  | word (rest : List Char) (result : Token)
  | quote (ps : List Piece) (q : Quoting)
  | digits (n : Numeral) (part : NumberPart)
  | stopped
deriving DecidableEq, Repr

/-- A decimal digit. -/
def isDigit (c : Char) : Bool := '0' ≤ c && c ≤ '9'

/-- The value of a hexadecimal digit. -/
def hexValue? (c : Char) : Option Nat :=
  if '0' ≤ c && c ≤ '9' then some (c.toNat - '0'.toNat)
  else if 'a' ≤ c && c ≤ 'f' then some (c.toNat - 'a'.toNat + 10)
  else if 'A' ≤ c && c ≤ 'F' then some (c.toNat - 'A'.toNat + 10)
  else none

/-- The character that a one-letter escape stands for. -/
def escaped? (c : Char) : Option Char :=
  if c == '"' || c == '\\' || c == '/' then some c
  else if c == 'b' then some '\x08'
  else if c == 'f' then some '\x0c'
  else if c == 'n' then some '\n'
  else if c == 'r' then some '\r'
  else if c == 't' then some '\t'
  else none

/-- A blank of JSON. -/
def isJsonBlank (c : Char) : Bool := c == ' ' || c == '\t' || c == '\n' || c == '\r'

namespace Lexing

/-- The machine stops: no token starts or goes on with this character. -/
def malformed (inside : Opening) : Lexing × List Token :=
  (.stopped, [.fault inside .malformed .malformed])

/-- The first character of a token. -/
def start (c : Char) : Lexing × List Token :=
  if isJsonBlank c then (.between, [])
  else if c == '[' then (.between, [.openArray])
  else if c == ']' then (.between, [.closeArray])
  else if c == '{' then (.between, [.openObject])
  else if c == '}' then (.between, [.closeObject])
  else if c == ',' then (.between, [.comma])
  else if c == ':' then (.between, [.colon])
  else if c == '"' then (.quote [] .plain, [])
  else if c == '-' then (.digits { negative := true } .sign, [])
  else if c == '0' then (.digits { whole := ['0'] } .zero, [])
  else if isDigit c then (.digits { whole := [c] } .whole, [])
  else if c == 'n' then (.word ['u', 'l', 'l'] .null, [])
  else if c == 't' then (.word ['r', 'u', 'e'] (.bool true), [])
  else if c == 'f' then (.word ['a', 'l', 's', 'e'] (.bool false), [])
  else malformed .nothing

/-- What a word that breaks begins with. -/
def wordOpening (result : Token) : Opening := if result = .null then .null else .scalar

/-- A quoted text breaks. -/
def brokenQuote (ps : List Piece) : Lexing × List Token :=
  (.stopped, [.fault .text (breakAfter ps .malformed) .malformed])

/-- A character of a quoted text. -/
def stepQuote (ps : List Piece) (c : Char) : Quoting → Lexing × List Token
  | .plain =>
    if c == '"' then (.between, [.text ps])
    else if c == '\\' then (.quote ps .escape, [])
    else if c.toNat < 0x20 then brokenQuote ps
    else (.quote (ps ++ [.char c]) .plain, [])
  | .escape =>
    if c == 'u' then (.quote ps (.hex 0 0), [])
    else match escaped? c with
      | some d => (.quote (ps ++ [.char d]) .plain, [])
      | none => brokenQuote ps
  | .hex value count =>
    match hexValue? c with
    | some d =>
      if count == 3 then (.quote (ps ++ [.unit (value * 16 + d)]) .plain, [])
      else (.quote ps (.hex (value * 16 + d) (count + 1)), [])
    | none =>
      if 4 ≤ count + c.utf8Size then brokenQuote ps
      else (.quote ps (.badHex (4 - (count + c.utf8Size))), [])
  | .badHex missing =>
    if missing ≤ c.utf8Size then brokenQuote ps
    else (.quote ps (.badHex (missing - c.utf8Size)), [])

/-- A number ends before the character `c`. -/
def endNumber (n : Numeral) (c : Char) : Lexing × List Token :=
  let next := start c
  (next.1, .number n :: next.2)

/-- Another digit before the point. -/
def addWhole (n : Numeral) (c : Char) : Numeral := { n with whole := n.whole ++ [c] }

/-- Another digit after the point. -/
def addFraction (n : Numeral) (c : Char) : Numeral := { n with fraction := n.fraction ++ [c] }

/-- The sign of the exponent. -/
def signExponent (n : Numeral) (negative : Bool) : Numeral :=
  { n with exponent := some (negative, []) }

/-- Another digit of the exponent. -/
def addExponent (n : Numeral) (c : Char) : Numeral :=
  match n.exponent with
  | some e => { n with exponent := some (e.1, e.2 ++ [c]) }
  | none => { n with exponent := some (false, [c]) }

/-- A character of a number. -/
def stepNumber (n : Numeral) (c : Char) : NumberPart → Lexing × List Token
  | .sign =>
    if c == '0' then (.digits (addWhole n c) .zero, [])
    else if isDigit c then (.digits (addWhole n c) .whole, [])
    else malformed .scalar
  | .zero =>
    if isDigit c then malformed .scalar
    else if c == '.' then (.digits n .point, [])
    else if c == 'e' || c == 'E' then (.digits n .mark, [])
    else endNumber n c
  | .whole =>
    if isDigit c then (.digits (addWhole n c) .whole, [])
    else if c == '.' then (.digits n .point, [])
    else if c == 'e' || c == 'E' then (.digits n .mark, [])
    else endNumber n c
  | .point =>
    if isDigit c then (.digits (addFraction n c) .fraction, []) else malformed .scalar
  | .fraction =>
    if isDigit c then (.digits (addFraction n c) .fraction, [])
    else if c == 'e' || c == 'E' then (.digits n .mark, [])
    else endNumber n c
  | .mark =>
    if c == '+' || c == '-' then (.digits (signExponent n (c == '-')) .markSign, [])
    else if isDigit c then (.digits (addExponent n c) .exponent, [])
    else malformed .scalar
  | .markSign =>
    if isDigit c then (.digits (addExponent n c) .exponent, []) else malformed .scalar
  | .exponent =>
    if isDigit c then (.digits (addExponent n c) .exponent, []) else endNumber n c

/-- One character. -/
def step (s : Lexing) (c : Char) : Lexing × List Token :=
  match s with
  | .between => start c
  | .word [] t => let next := start c; (next.1, t :: next.2)
  | .word (d :: rest) t =>
    if c == d then if rest.isEmpty then (.between, [t]) else (.word rest t, [])
    else malformed (wordOpening t)
  | .quote ps q => stepQuote ps c q
  | .digits n part => stepNumber n c part
  | .stopped => (.stopped, [])

/-- The end of the text. -/
def finish : Lexing → List Token
  | .between => []
  | .word _ t => [.fault (wordOpening t) .cut .cut]
  | .quote ps _ => [.fault .text (breakAfter ps .cut) .cut]
  | .digits n part =>
    match part with
    | .zero | .whole | .fraction | .exponent => [.number n]
    | .sign | .point | .mark | .markSign => [.fault .scalar .cut .malformed]
  | .stopped => []

/-- The tokens of a text, read from a state on. -/
def run (s : Lexing) : List Char → List Token
  | [] => s.finish
  | c :: cs => let next := s.step c; next.2 ++ run next.1 cs

theorem run_cons (s : Lexing) (c : Char) (cs : List Char) :
    s.run (c :: cs) = (s.step c).2 ++ (s.step c).1.run cs := rfl

@[simp] theorem run_stopped (cs : List Char) : Lexing.stopped.run cs = [] := by
  induction cs with
  | nil => rfl
  | cons c cs ih => simp [run_cons, step, ih]

end Lexing

/-- The tokens of a text. -/
def Token.scan (cs : List Char) : List Token := Lexing.between.run cs

end QueryLoom.Json
