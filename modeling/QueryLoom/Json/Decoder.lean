import QueryLoom.Entries
import QueryLoom.Json.Draft
import QueryLoom.Json.Fault

/-!
# Decoding JSON

1. A `Decoder` takes a draft to a value or to the first fault met from left to right.
2. Decoders for texts, lists, optional values, pairs, maps and sets of names.
3. `Record` describes a value with named fields. It is decoded from an object, unknown members
   being skipped, or from an array of the fields in order.
4. `Tagged` describes a choice of records by the member that names the one chosen.
-/

namespace QueryLoom.Json

/-- A decoder of values of a type. -/
abbrev Decoder (α : Type) := Draft → Except Fault α

/-- The text breaks. -/
def fail {α : Type} (b : Break) : Except Fault α := .error (.broken b)

/-- A value does not match. -/
def refuse {α : Type} (m : Mismatch) : Except Fault α := .error (.mismatch m)

namespace Decoder

variable {α β : Type}

/-- Another kind of value was expected. -/
def mismatch (expected : String) : Draft → Except Fault α
  | .null => refuse (.invalidType .null expected)
  | .bool b => refuse (.invalidType (.bool b) expected)
  | .number n => refuse (.invalidType (.number n) expected)
  | .text s => refuse (.invalidType (.text s) expected)
  | .array _ _ => refuse (.invalidType .sequence expected)
  | .object _ _ => refuse (.invalidType .map expected)
  | .unreadable .array _ _ => refuse (.invalidType .sequence expected)
  | .unreadable .object _ _ => refuse (.invalidType .map expected)
  | .unreadable _ read _ => fail read

/-- The decoder of a document: the value, and nothing after it. -/
def document (dec : Decoder α) (doc : Document) : Except Fault α := do
  let a ← dec doc.body
  if doc.more then fail .malformed else .ok a

/-- Decodes a text. -/
def text (dec : Decoder α) (s : String) : Except Fault α := dec.document (.ofText s)

/-- Decodes a value already read. -/
def value (dec : Decoder α) (v : Json) : Except Fault α := dec v.toDraft

/-! ## Single values -/

/-- A text. -/
def string : Decoder String
  | .text s => .ok s
  | d => mismatch "a string" d

/-- A truth value. -/
def bool : Decoder Bool
  | .bool b => .ok b
  | d => mismatch "a boolean" d

/-- A natural number. -/
def natural : Decoder Nat
  | .number (.integer (.ofNat n)) => .ok n
  | .number (.integer n) => refuse (.invalidValue (.number (.integer n)) "usize")
  | d => mismatch "usize" d

/-- Any value. -/
def any : Decoder Json := fun d => d.whole.mapError .broken

/-- A value or `null`. -/
def optional (dec : Decoder α) : Decoder (Option α)
  | .null => .ok none
  | .unreadable .null read _ => fail read
  | d => (dec d).map some

/-- A text in the language of a type. -/
def parsed (parse : String → Except String α) : Decoder α := fun d => do
  let s ← string d
  (parse s).mapError fun reason => .mismatch (.refused reason)

/-! ## Lists and maps -/

/-- An array ends, or a list already read does. -/
def atEnd (ending : Ending) : Except Fault Unit :=
  match ending.break? with
  | some b => fail b
  | none => .ok ()

/-- The items of a list. -/
def items (dec : Decoder α) : List Draft → Except Fault (List α)
  | [] => .ok []
  | d :: ds => do
    let a ← dec d
    let as ← items dec ds
    .ok (a :: as)

/-- A list. -/
def list (dec : Decoder α) : Decoder (List α)
  | .array ds ending => do
    let as ← items dec ds
    atEnd ending
    .ok as
  | .unreadable .array read _ => fail read
  | d => mismatch "a sequence" d

/-- A list of texts. -/
def strings : Decoder (List String) := list string

/-- A key. -/
def name (l : Label) : Except Fault String := l.whole.mapError .broken

/-- The members of a map. -/
def members (dec : Decoder α) : List (Label × Draft) → Except Fault (List (String × α))
  | [] => .ok []
  | (l, d) :: ms => do
    let k ← name l
    let a ← dec d
    let as ← members dec ms
    .ok ((k, a) :: as)

/-- The members of a map, in document order. -/
def pairs (expected : String) (dec : Decoder α) : Decoder (List (String × α))
  | .object ms ending => do
    let as ← members dec ms
    atEnd ending
    .ok as
  | .unreadable .object read _ => fail read
  | d => mismatch expected d

/-- An ordered map: of several members with one key the last counts, at the first place. -/
def entries (dec : Decoder α) : Decoder (Entries α) := fun d =>
  (pairs "a map with string keys" dec d).map Entries.ofList

/-- A count of elements. -/
def elements (n : Nat) : String :=
  String.ofList (Decimal.natural n) ++ if n == 1 then " element" else " elements"

/-- What is left of a list of which `taken` items were wanted. -/
def noMore (taken : Nat) (rest : List Draft) (ending : Ending) : Except Fault Unit :=
  match rest, ending with
  | [], ending => atEnd ending
  | _ :: _, .held =>
    refuse (.invalidLength (taken + rest.length) (elements taken ++ " in sequence"))
  | _ :: _, _ => fail .malformed

/-- Two values in an array. -/
def pair (first : Decoder α) (second : Decoder β) : Decoder (α × β)
  | .array [] ending => do
    atEnd ending
    refuse (.invalidLength 0 "a tuple of size 2")
  | .array [d] ending => do
    let _ ← first d
    atEnd ending
    refuse (.invalidLength 1 "a tuple of size 2")
  | .array (d :: e :: rest) ending => do
    let a ← first d
    let b ← second e
    noMore 2 rest ending
    .ok (a, b)
  | .unreadable .array read _ => fail read
  | d => mismatch "a tuple of size 2" d

/-! ## Names -/

/-- The value of a name. -/
def lookUp (names : List (String × α)) (s : String) : Except Fault α :=
  match names.lookup s with
  | some a => .ok a
  | none => refuse (.unknownVariant s (names.map (·.1)))

/-- The key that names a choice. What stands in its place is named if it is another value. -/
def variant (l : Label) (d : Draft) : Except Fault String :=
  match l with
  | .broken _ _ => mismatch "variant identifier" d
  | l => name l

/-- Nothing else than `null`. -/
def unit : Decoder Unit
  | .null => .ok ()
  | d => mismatch "unit" d

/-- One of a list of names: a text, or an object with that one member, which is `null`. -/
def oneOf (names : List (String × α)) : Decoder α
  | .text s => lookUp names s
  | .unreadable .text read _ => fail read
  | .unreadable .nothing read _ => fail read
  | .object [] ending => fail (ending.break?.getD .malformed)
  | .object ((l, d) :: ms) ending => do
    let a ← lookUp names (← variant l d)
    unit d
    if ms.isEmpty then atEnd ending else fail .malformed
    .ok a
  | _ => fail .malformed

end Decoder

/-! ## Records -/

/-- Whether a field may be left out. -/
inductive Presence where
  | required
  | defaulted
deriving DecidableEq, Repr

/-- A named field: how it is decoded and put into the record. -/
structure Field (α : Type) where
  name : String
  presence : Presence
  put : Draft → α → Except Fault α

/-- The field that `dec` decodes and `set` puts into the record. -/
def Field.of {α β : Type} (name : String) (presence : Presence) (dec : Decoder β)
    (set : α → β → α) : Field α :=
  ⟨name, presence, fun d a => (dec d).map (set a)⟩

/-- A record type: its noun in error texts, the value that fields left out have, its fields. -/
structure Record (α : Type) where
  noun : String
  blank : α
  fields : List (Field α)

namespace Record

variable {α : Type} (r : Record α)

/-- All required fields have been seen. -/
def complete (seen : List String) : Except Fault Unit :=
  match r.fields.find? fun f => f.presence = .required && !seen.contains f.name with
  | some f => refuse (.missingField f.name)
  | none => .ok ()

/-- The members of an object, put into a record in which `seen` has been set. -/
def ofMembers (seen : List String) (a : α) :
    List (Label × Draft) → Ending → Except Fault α
  | [], ending => do
    Decoder.atEnd ending
    r.complete seen
    .ok a
  | (l, d) :: ms, ending => do
    let k ← Decoder.name l
    match r.fields.find? (·.name = k) with
    | none =>
      match d.skip with
      | some b => fail b
      | none => ofMembers seen a ms ending
    | some f =>
      if seen.contains k then refuse (.duplicateField k)
      let a ← f.put d a
      ofMembers (k :: seen) a ms ending

/-- The items of an array, put into a record from the field at `index` on. -/
def ofItems (index : Nat) (a : α) : List (Field α) → List Draft → Ending → Except Fault α
  | [], rest, ending => do
    Decoder.noMore index rest ending
    .ok a
  | f :: fs, d :: ds, ending => do
    let a ← f.put d a
    ofItems (index + 1) a fs ds ending
  | f :: fs, [], ending => do
    Decoder.atEnd ending
    if f.presence = .defaulted then ofItems (index + 1) a fs [] ending
    else
      refuse (.invalidLength index
        (r.noun ++ " with " ++ Decoder.elements r.fields.length))

/-- The decoder of the record type. -/
def decoder : Decoder α
  | .object ms ending => r.ofMembers [] r.blank ms ending
  | .array ds ending => r.ofItems 0 r.blank r.fields ds ending
  | .unreadable .array read _ => fail read
  | .unreadable .object read _ => fail read
  | d => Decoder.mismatch r.noun d

end Record

/-! ## Tagged records -/

/-- A choice of record types. The member `tag`, or the first item, names the one chosen. -/
structure Tagged (α : Type) where
  noun : String
  tag : String
  choices : List (String × Record α)

namespace Tagged

variable {α : Type} (t : Tagged α)

/-- The record type that a tag names. -/
def choose : Decoder (Record α)
  | .text s => Decoder.lookUp t.choices s
  | d => Decoder.mismatch "variant identifier" d

/-- The members of an object, the tag taken out. -/
def split (chosen : Option (Record α)) :
    List (Label × Draft) → Except Fault (Option (Record α) × List (String × Json))
  | [] => .ok (chosen, [])
  | (l, d) :: ms => do
    let k ← Decoder.name l
    if k = t.tag then
      if chosen.isSome then refuse (.duplicateField k)
      let r ← t.choose d
      split (some r) ms
    else
      let v ← Decoder.any d
      let (r, vs) ← split chosen ms
      .ok (r, (k, v) :: vs)

/-- The decoder of the choice. All of the value is read before the chosen record is taken out of
what was read. -/
def decoder : Decoder α
  | .object ms ending => do
    let (chosen, vs) ← t.split none ms
    Decoder.atEnd ending
    match chosen with
    | none => refuse (.missingField t.tag)
    | some r => r.ofMembers [] r.blank (toMembers vs) .held
  | .array [] ending => do
    Decoder.atEnd ending
    refuse (.missingField t.tag)
  | .array (d :: ds) ending => do
    let r ← t.choose d
    let vs ← Decoder.items Decoder.any ds
    Decoder.atEnd ending
    r.ofItems 0 r.blank r.fields (toDrafts vs) .held
  | .unreadable .array read _ => fail read
  | .unreadable .object read _ => fail read
  | d => Decoder.mismatch t.noun d

end Tagged

end QueryLoom.Json
