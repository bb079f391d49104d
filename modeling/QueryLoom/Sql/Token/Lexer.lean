import QueryLoom.Sql.Token

/-!
# Reading SQL tokens

1. `Quotes` says which characters open a quoted name or text. A quote inside is written twice.
2. `Lexing` is the state of a machine that reads one character at a time; `Lexing.step` is its step,
   `Lexing.finish` what the end of the text gives out.
3. `Token.scan` reads a text. It fails with the token that has no end or cannot begin.
-/

namespace QueryLoom.Sql

/-- What stands between quotes. -/
inductive Quoted where
  | name
  | text
deriving DecidableEq, Repr

/-- The token of a quoted text. -/
def Quoted.token : Quoted → String → Token
  | .name => .name
  | .text => .text

/-- The characters that open quotes. -/
abbrev Quotes := Char → Option Quoted

/-- The quotes of a dialect. -/
def Dialect.quotes (d : Dialect) : Quotes := fun c =>
  if c = d.identifierQuote then some .name else if c = '\'' then some .text else none

/-- The state of the machine, with what has been read of the current token. -/
inductive Lexing where
  | between
  | word (s : List Char)
  /-- After a minus sign. -/
  | sign
  | number (digits : List Char)
  | quote (q : Char) (k : Quoted) (cs : List Char)
  /-- After a quote that ends the token or is the first of two. -/
  | closing (q : Char) (k : Quoted) (cs : List Char)
deriving DecidableEq, Repr

/-- A character that can begin a word. -/
def isWordStart (c : Char) : Bool := c.isAlpha || c = '_'

/-- A character of a word. -/
def isWordChar (c : Char) : Bool := c.isAlphanum || c = '_'

/-- A character that is a token by itself. -/
def isSymbol (c : Char) : Bool := ['(', ')', ',', '.', '=', '<', '>', '*'].contains c

/-- A character of a number. -/
def isNumberChar (c : Char) : Bool := c.isDigit || c = '.'

namespace Lexing

/-- The first character of a token. -/
def start (quotes : Quotes) (c : Char) : Except (List Char) (Lexing × List Token) :=
  match quotes c with
  | some k => .ok (.quote c k [], [])
  | none =>
    if c = ' ' then .ok (.between, [.space])
    else if c = '-' then .ok (.sign, [])
    else if c.isDigit then .ok (.number [c], [])
    else if isWordStart c then .ok (.word [c], [])
    else if isSymbol c then .ok (.between, [.symbol c])
    else .error [c]

/-- A token ends before the character `c`. -/
def after (quotes : Quotes) (t : Token) (c : Char) : Except (List Char) (Lexing × List Token) :=
  (start quotes c).map fun next => (next.1, t :: next.2)

/-- One character. -/
def step (quotes : Quotes) (s : Lexing) (c : Char) : Except (List Char) (Lexing × List Token) :=
  match s with
  | .between => start quotes c
  | .word cs =>
    if isWordChar c then .ok (.word (cs ++ [c]), [])
    else after quotes (.word (String.ofList cs)) c
  | .sign => if c.isDigit then .ok (.number ['-', c], []) else .error ['-']
  | .number cs =>
    if isNumberChar c then .ok (.number (cs ++ [c]), []) else after quotes (.number cs) c
  | .quote q k cs => if c = q then .ok (.closing q k cs, []) else .ok (.quote q k (cs ++ [c]), [])
  | .closing q k cs =>
    if c = q then .ok (.quote q k (cs ++ [q]), []) else after quotes (k.token (String.ofList cs)) c

/-- The end of the text. -/
def finish : Lexing → Except (List Char) (List Token)
  | .between => .ok []
  | .word cs => .ok [.word (String.ofList cs)]
  | .sign => .error ['-']
  | .number cs => .ok [.number cs]
  | .quote q _ cs => .error (q :: doubled q cs)
  | .closing _ k cs => .ok [k.token (String.ofList cs)]

/-- The tokens of a text, read from a state on. -/
def run (quotes : Quotes) (s : Lexing) : List Char → Except (List Char) (List Token)
  | [] => s.finish
  | c :: cs => do
    let next ← s.step quotes c
    let rest ← run quotes next.1 cs
    .ok (next.2 ++ rest)

end Lexing

/-- The tokens of a text. -/
def Token.scan (quotes : Quotes) (cs : List Char) : Except (List Char) (List Token) :=
  Lexing.between.run quotes cs

end QueryLoom.Sql
