import QueryLoom.Json.Tree
import QueryLoom.Json.Token.Lexer

/-!
# JSON as far as it can be read

1. `Draft` is a JSON value in which a place that cannot be read stays a place: `unreadable` holds
   what one meets who reads it and what one meets who skips it. So a decoder that goes through a
   draft from left to right meets mismatches and breaks of the text in the order of the text.
2. `Document.ofTokens` builds the draft of a token list on a stack of open brackets.
3. `Draft.whole` reads a draft as a value, `Draft.skip` passes over it.
-/

namespace QueryLoom.Json

/-- How a list of items or members ends. -/
inductive Ending where
  | closed
  | broken (b : Break)
  /-- The list was taken from a value already read, so its length is known. -/
  | held
deriving DecidableEq, Repr

/-- A key as far as it can be read. -/
inductive Label where
  | name (s : String)
  /-- A text that can only be skipped: a surrogate in it stands alone. -/
  | garbled
  /-- The text breaks where a key should stand. What stands there is kept in the place of the
  value. -/
  | broken (read skip : Break)
deriving DecidableEq, Repr

/-- A JSON value as far as it can be read. -/
inductive Draft where
  | null
  | bool (b : Bool)
  | number (n : Number)
  | text (s : String)
  | array (items : List Draft) (ending : Ending)
  | object (members : List (Label × Draft)) (ending : Ending)
  | unreadable (opening : Opening) (read : Break) (skip : Option Break)
deriving Repr, Inhabited

/-! ## Passing over a draft -/

/-- What the end of a list has in store. -/
def Ending.break? : Ending → Option Break
  | .broken b => some b
  | .closed | .held => none

/-- What a key has in store for one who skips it. -/
def Label.skip : Label → Option Break
  | .name _ | .garbled => none
  | .broken _ skip => some skip

/-- The key, or what it has in store for one who reads it. -/
def Label.whole : Label → Except Break String
  | .name s => .ok s
  | .garbled => .error .malformed
  | .broken read _ => .error read

namespace Draft

mutual

/-- The first break met by one who only skips the value. -/
def skip : Draft → Option Break
  | .array items ending => (skipItems items).or ending.break?
  | .object members ending => (skipMembers members).or ending.break?
  | .unreadable _ _ skip => skip
  | .null | .bool _ | .number _ | .text _ => none

/-- The first break among items. -/
def skipItems : List Draft → Option Break
  | [] => none
  | d :: ds => d.skip.or (skipItems ds)

/-- The first break among members. -/
def skipMembers : List (Label × Draft) → Option Break
  | [] => none
  | (l, d) :: ms => (l.skip.or d.skip).or (skipMembers ms)

end

mutual

/-- The whole value, or the first break met on the way. -/
def whole : Draft → Except Break Json
  | .null => .ok .null
  | .bool b => .ok (.bool b)
  | .number n => .ok (.number n)
  | .text s => .ok (.text s)
  | .array items ending => do
    let vs ← wholeItems items
    match ending with
    | .broken b => .error b
    | .closed | .held => .ok (.array vs)
  | .object members ending => do
    let ms ← wholeMembers members
    match ending with
    | .broken b => .error b
    | .closed | .held => .ok (.object ms)
  | .unreadable _ read _ => .error read

/-- All items. -/
def wholeItems : List Draft → Except Break (List Json)
  | [] => .ok []
  | d :: ds => do
    let v ← d.whole
    let vs ← wholeItems ds
    .ok (v :: vs)

/-- All members. -/
def wholeMembers : List (Label × Draft) → Except Break (List (String × Json))
  | [] => .ok []
  | (l, d) :: ms => do
    let k ← l.whole
    let v ← d.whole
    let vs ← wholeMembers ms
    .ok ((k, v) :: vs)

end

end Draft

/-! ## A value as a draft -/

mutual

/-- A value already read, as a draft. -/
def toDraft : Json → Draft
  | .null => .null
  | .bool b => .bool b
  | .number n => .number n
  | .text s => .text s
  | .array items => .array (toDrafts items) .held
  | .object members => .object (toMembers members) .held

/-- Items already read. -/
def toDrafts : List Json → List Draft
  | [] => []
  | v :: vs => v.toDraft :: toDrafts vs

/-- Members already read. -/
def toMembers : List (String × Json) → List (Label × Draft)
  | [] => []
  | (k, v) :: ms => (.name k, v.toDraft) :: toMembers ms

end

/-! ## Building -/

/-- A bracket still open, with what stands in it so far. -/
inductive Frame where
  | array (items : List Draft)
  | object (members : List (Label × Draft))
  /-- A member of which only the key has come. -/
  | member (members : List (Label × Draft)) (key : Label)
deriving Repr

/-- What may come next. -/
inductive Awaiting where
  | value
  /-- A value, or the end of an array just opened. -/
  | firstItem
  | key
  /-- A key, or the end of an object just opened. -/
  | firstKey
  | colon
  /-- A comma, or the end of the innermost bracket. -/
  | separator
deriving DecidableEq, Repr

/-- A JSON text: the value it begins with, and whether more follows. -/
structure Document where
  body : Draft
  more : Bool
deriving Repr

/-- The depth from which on arrays and objects are not read. -/
def depthLimit : Nat := 128

/-- An array or object at a depth, unreadable from the limit on. -/
def Draft.atDepth (depth : Nat) (opening : Opening) (d : Draft) (skip : Option Break) : Draft :=
  if depthLimit ≤ depth then .unreadable opening .malformed skip else d

/-- The text breaks at `last`: all open brackets stay unfinished. -/
def abandon (b : Break) (last : Draft) : List Frame → Draft
  | [] => last
  | .array items :: rest =>
    let d : Draft := .array (items ++ [last]) (.broken b)
    abandon b (d.atDepth (rest.length + 1) .array (some b)) rest
  | .object members :: rest =>
    let d : Draft := .object members (.broken b)
    abandon b (d.atDepth (rest.length + 1) .object (some b)) rest
  | .member members key :: rest =>
    let d : Draft := .object (members ++ [(key, last)]) (.broken b)
    abandon b (d.atDepth (rest.length + 1) .object (some b)) rest

/-- The text breaks where the innermost bracket should go on or close. -/
def abandonOpen (b : Break) : List Frame → Draft
  | [] => .unreadable .nothing b (some b)
  | .array items :: rest =>
    let d : Draft := .array items (.broken b)
    abandon b (d.atDepth (rest.length + 1) .array (some b)) rest
  | .object members :: rest =>
    let d : Draft := .object members (.broken b)
    abandon b (d.atDepth (rest.length + 1) .object (some b)) rest
  | .member members key :: rest =>
    let d : Draft := .object (members ++ [(key, .unreadable .nothing b (some b))]) (.broken b)
    abandon b (d.atDepth (rest.length + 1) .object (some b)) rest

/-- The text breaks where a key should stand and `found` does. -/
def abandonKey (read skip : Break) (found : Draft) : List Frame → Draft
  | .object members :: rest => abandon skip found (.member members (.broken read skip) :: rest)
  | frames => abandonOpen skip frames

/-- A complete text as a value. -/
def textDraft (ps : List Piece) : Draft :=
  match joinPieces ps with
  | some cs => .text (String.ofList cs)
  | none => .unreadable .text .malformed none

/-- A complete text as a key. -/
def textLabel (ps : List Piece) : Label :=
  match joinPieces ps with
  | some cs => .name (String.ofList cs)
  | none => .garbled

/-- A number as a value. -/
def numberDraft (n : Numeral) : Draft :=
  match n.value? with
  | some v => .number v
  | none => .unreadable .scalar .malformed none

/-- What a token leads to. -/
inductive Step where
  | next (frames : List Frame) (awaiting : Awaiting)
  /-- The value is complete. -/
  | done (d : Draft)
  /-- The text breaks. -/
  | halt (d : Draft)
deriving Repr

namespace Step

/-- The innermost bracket gets a value; with none open, the value is the whole text. -/
def give (d : Draft) : List Frame → Step
  | [] => .done d
  | .array items :: rest => .next (.array (items ++ [d]) :: rest) .separator
  | .object members :: rest => .next (.object members :: rest) .separator
  | .member members key :: rest => .next (.object (members ++ [(key, d)]) :: rest) .separator

/-- A token where a value must come. -/
def onValue (frames : List Frame) : Token → Step
  | .null => give .null frames
  | .bool b => give (.bool b) frames
  | .number n => give (numberDraft n) frames
  | .text ps => give (textDraft ps) frames
  | .openArray => .next (.array [] :: frames) .firstItem
  | .openObject => .next (.object [] :: frames) .firstKey
  | .fault inside read skip =>
    .halt (abandon skip (.unreadable inside read (some skip)) frames)
  | .closeArray | .closeObject | .comma | .colon =>
    .halt (abandon .malformed (.unreadable .nothing .malformed (some .malformed)) frames)

/-- The value that a token begins where a key should stand. -/
def misplaced : Token → Draft
  | .null => .null
  | .bool b => .bool b
  | .number n => numberDraft n
  | .text ps => textDraft ps
  | .openArray => .array [] (.broken .malformed)
  | .openObject => .object [] (.broken .malformed)
  | .fault inside read skip => .unreadable inside read (some skip)
  | .closeArray | .closeObject | .comma | .colon =>
    .unreadable .nothing .malformed (some .malformed)

/-- A token where a key must come. -/
def onKey : List Frame → Token → Step
  | .object members :: rest, .text ps => .next (.member members (textLabel ps) :: rest) .colon
  | frames, .fault .text read skip =>
    .halt (abandonKey read skip (.unreadable .text read (some skip)) frames)
  | frames, t => .halt (abandonKey .malformed .malformed (misplaced t) frames)

/-- The innermost bracket closes. -/
def close (opening : Opening) (d : Draft) (rest : List Frame) : Step :=
  give (d.atDepth (rest.length + 1) opening none) rest

/-- A token where a comma or the end of the innermost bracket must come. -/
def onSeparator : List Frame → Token → Step
  | .array items :: rest, .closeArray => close .array (.array items .closed) rest
  | .object members :: rest, .closeObject => close .object (.object members .closed) rest
  | .array items :: rest, .comma => .next (.array items :: rest) .value
  | .object members :: rest, .comma => .next (.object members :: rest) .key
  | frames, _ => .halt (abandonOpen .malformed frames)

/-- One token. -/
def take (frames : List Frame) (awaiting : Awaiting) (t : Token) : Step :=
  match awaiting with
  | .value => onValue frames t
  | .firstItem => if t = .closeArray then onSeparator frames t else onValue frames t
  | .key => onKey frames t
  | .firstKey => if t = .closeObject then onSeparator frames t else onKey frames t
  | .colon => if t = .colon then .next frames .value else .halt (abandonOpen .malformed frames)
  | .separator => onSeparator frames t

/-- The end of the tokens. -/
def finish (frames : List Frame) : Awaiting → Draft
  | .value => abandon .cut (.unreadable .nothing .cut (some .cut)) frames
  | .key => abandonKey .cut .cut (.unreadable .nothing .cut (some .cut)) frames
  | .firstItem | .firstKey | .colon | .separator => abandonOpen .cut frames

end Step

/-- The document of a token list, under the given open brackets. -/
def Document.build (frames : List Frame) (awaiting : Awaiting) : List Token → Document
  | [] => ⟨Step.finish frames awaiting, false⟩
  | t :: ts =>
    match Step.take frames awaiting t with
    | .next frames awaiting => build frames awaiting ts
    | .done d => ⟨d, !ts.isEmpty⟩
    | .halt d => ⟨d, false⟩

/-- The document of a token list. -/
def Document.ofTokens (ts : List Token) : Document := .build [] .value ts

/-- The document of a text. -/
def Document.ofText (s : String) : Document := .ofTokens (Token.scan s.toList)

end QueryLoom.Json
