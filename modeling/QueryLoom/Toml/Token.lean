/-!
# TOML tokens

1. `Token` is a bracket, separator, blank, line break, quoted text or a bare run of characters.
   Comments are no tokens.
2. `Lexing` is the state of a machine that reads one character at a time; `Lexing.step` is its step.
   `Token.scan` runs it; it gives none if a character cannot stand where it does.
-/

namespace QueryLoom.Toml

/-- A token. -/
inductive Token where
  | dot
  | equals
  | comma
  | openSquare
  | closeSquare
  | openCurly
  | closeCurly
  /-- Spaces and tabs; `one` says that it is a single space. -/
  | blank (one : Bool)
  | newline
  /-- A quoted text, which may run over lines if `long`. -/
  | text (s : String) (long : Bool)
  | bare (cs : List Char)
deriving DecidableEq, Repr

/-- The two kinds of quotes; only a double quote knows escapes. -/
inductive Quote where
  | single
  | double
deriving DecidableEq, Repr

def Quote.char : Quote → Char
  | .single => '\''
  | .double => '"'

/-- The state of the machine, with what has been read of the current token. -/
inductive Lexing where
  | between
  | bare (cs : List Char)
  | blank (one : Bool)
  | comment
  /-- After a carriage return, which a line feed must follow. -/
  | carriage
  /-- After `count` quotes that open a text. -/
  | opening (q : Quote) (count : Nat)
  /-- Inside a text on one line. -/
  | short (q : Quote) (cs : List Char)
  /-- Right after the quotes that open a long text, or after a carriage return there. -/
  | longStart (q : Quote) (carriage : Bool)
  /-- Inside a long text, after `quotes` quotes that may close it. -/
  | long (q : Quote) (cs : List Char) (quotes : Nat)
  /-- Inside a long text, after a carriage return. -/
  | longCarriage (q : Quote) (cs : List Char)
  /-- After a backslash. -/
  | escape (inLong : Bool) (cs : List Char)
  /-- Inside the hexadecimal digits of an escape, of which `left` are still to come. -/
  | hex (inLong : Bool) (cs : List Char) (value left : Nat)
  /-- After a backslash at the end of a line, where all blanks are skipped; `broken` says that a line
  has ended. -/
  | fold (cs : List Char) (broken : Bool)
deriving DecidableEq, Repr

/-- A character that may stand in comments and texts. -/
def isPlain (c : Char) : Bool := c = '\t' || (0x20 ≤ c.toNat && c.toNat ≠ 0x7f)

/-- A character that ends a bare run. -/
def endsBare (c : Char) : Bool :=
  ['.', '=', ',', '[', ']', '{', '}', ' ', '\t', '#', '\r', '\n'].contains c

/-- The value of a hexadecimal digit. -/
def hexDigit? (c : Char) : Option Nat :=
  if '0' ≤ c && c ≤ '9' then some (c.toNat - '0'.toNat)
  else if 'a' ≤ c && c ≤ 'f' then some (c.toNat - 'a'.toNat + 10)
  else if 'A' ≤ c && c ≤ 'F' then some (c.toNat - 'A'.toNat + 10)
  else none

/-- The character that a one-letter escape stands for. -/
def escaped? (c : Char) : Option Char :=
  ([('b', '\x08'), ('t', '\t'), ('n', '\n'), ('f', '\x0c'), ('r', '\r'), ('e', '\x1b'),
    ('"', '"'), ('\\', '\\')] : List (Char × Char)).lookup c

/-- The number of hexadecimal digits of an escape. -/
def hexCount? (c : Char) : Option Nat :=
  ([('x', 2), ('u', 4), ('U', 8)] : List (Char × Nat)).lookup c

namespace Lexing

/-- Back inside a text with escapes. -/
def resume (inLong : Bool) (cs : List Char) : Lexing :=
  if inLong then .long .double cs 0 else .short .double cs

/-- The first character of a token. -/
def start (c : Char) : Lexing × List Token :=
  match c with
  | '.' => (.between, [.dot])
  | '=' => (.between, [.equals])
  | ',' => (.between, [.comma])
  | '[' => (.between, [.openSquare])
  | ']' => (.between, [.closeSquare])
  | '{' => (.between, [.openCurly])
  | '}' => (.between, [.closeCurly])
  | ' ' => (.blank true, [])
  | '\t' => (.blank false, [])
  | '#' => (.comment, [])
  | '\n' => (.between, [.newline])
  | '\r' => (.carriage, [])
  | '\'' => (.opening .single 1, [])
  | '"' => (.opening .double 1, [])
  | c => (.bare [c], [])

/-- A token ends before the character `c`. -/
def after (t : Token) (c : Char) : Lexing × List Token :=
  let next := start c
  (next.1, t :: next.2)

/-- A character inside a text on one line. -/
def stepShort (q : Quote) (cs : List Char) (c : Char) : Option (Lexing × List Token) :=
  if c = q.char then some (.between, [.text (String.ofList cs) false])
  else if c = '\\' && q = .double then some (.escape false cs, [])
  else if isPlain c then some (.short q (cs ++ [c]), [])
  else none

/-- A character inside a long text. -/
def stepLong (q : Quote) (cs : List Char) (quotes : Nat) (c : Char) :
    Option (Lexing × List Token) :=
  if c = q.char && quotes < 5 then some (.long q cs (quotes + 1), [])
  else if 3 ≤ quotes then
    some (after (.text (String.ofList (cs ++ List.replicate (quotes - 3) q.char)) true) c)
  else
    let cs := cs ++ List.replicate quotes q.char
    if c = '\\' && q = .double then some (.escape true cs, [])
    else if c = '\n' || isPlain c then some (.long q (cs ++ [c]) 0, [])
    else if c = '\r' then some (.longCarriage q cs, [])
    else none

/-- A character after a backslash. -/
def stepEscape (inLong : Bool) (cs : List Char) (c : Char) : Option (Lexing × List Token) :=
  match escaped? c, hexCount? c with
  | some d, _ => some (resume inLong (cs ++ [d]), [])
  | none, some n => some (.hex inLong cs 0 n, [])
  | none, none =>
    if inLong && (c = ' ' || c = '\t' || c = '\r') then some (.fold cs false, [])
    else if inLong && c = '\n' then some (.fold cs true, [])
    else none

/-- A hexadecimal digit of an escape. -/
def stepHex (inLong : Bool) (cs : List Char) (value left : Nat) (c : Char) :
    Option (Lexing × List Token) :=
  (hexDigit? c).bind fun d =>
    let value := value * 16 + d
    if 1 < left then some (.hex inLong cs value (left - 1), [])
    else if value.isValidChar then some (resume inLong (cs ++ [Char.ofNat value]), [])
    else none

/-- One character. -/
def step (s : Lexing) (c : Char) : Option (Lexing × List Token) :=
  match s with
  | .between => some (start c)
  | .bare cs => if endsBare c then some (after (.bare cs) c) else some (.bare (cs ++ [c]), [])
  | .blank one =>
    if c = ' ' || c = '\t' then some (.blank false, []) else some (after (.blank one) c)
  | .comment =>
    if c = '\n' || c = '\r' then some (start c)
    else if isPlain c then some (.comment, [])
    else none
  | .carriage => if c = '\n' then some (.between, [.newline]) else none
  | .opening q count =>
    if c = q.char then
      if count = 1 then some (.opening q 2, []) else some (.longStart q false, [])
    else if count = 1 then stepShort q [] c
    else some (after (.text "" false) c)
  | .short q cs => stepShort q cs c
  | .longStart q true => if c = '\n' then some (.long q [] 0, []) else none
  | .longStart q false =>
    if c = '\n' then some (.long q [] 0, [])
    else if c = '\r' then some (.longStart q true, [])
    else stepLong q [] 0 c
  | .long q cs quotes => stepLong q cs quotes c
  | .longCarriage q cs =>
    if c = '\n' then some (.long q (cs ++ ['\r', '\n']) 0, []) else none
  | .escape inLong cs => stepEscape inLong cs c
  | .hex inLong cs value left => stepHex inLong cs value left c
  | .fold cs broken =>
    if c = '\n' then some (.fold cs true, [])
    else if c = ' ' || c = '\t' || c = '\r' then some (.fold cs broken, [])
    else if broken then stepLong .double cs 0 c
    else none

/-- The end of the text. -/
def finish : Lexing → Option (List Token)
  | .between | .comment => some []
  | .bare cs => some [.bare cs]
  | .blank one => some [.blank one]
  | .opening _ 2 => some [.text "" false]
  | .long q cs quotes =>
    if 3 ≤ quotes then
      some [.text (String.ofList (cs ++ List.replicate (quotes - 3) q.char)) true]
    else none
  | .carriage | .opening _ _ | .short _ _ | .longStart _ _ | .longCarriage _ _ | .escape _ _
  | .hex _ _ _ _ | .fold _ _ => none

/-- The tokens of a text, read from a state on. -/
def run (s : Lexing) : List Char → Option (List Token)
  | [] => s.finish
  | c :: cs => do
    let next ← s.step c
    let rest ← run next.1 cs
    return next.2 ++ rest

end Lexing

/-- The tokens of a text, a byte order mark at its beginning left out. -/
def Token.scan (s : String) : Option (List Token) :=
  match s.toList with
  | '\ufeff' :: cs => Lexing.between.run cs
  | cs => Lexing.between.run cs

end QueryLoom.Toml
