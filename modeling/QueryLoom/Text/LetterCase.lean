import QueryLoom.Text.LetterCase.Data

/-!
# Change of letter case

1. `upperChar` and `lowerChar` give the full mapping of one character, which can be several.
2. `upper` maps a text character by character.
3. `lower` does too, except that a capital sigma at the end of a word becomes a final sigma.
-/

namespace QueryLoom.Text

/-- The image of a code point under a list of runs. -/
def applyRuns (runs : List CaseRun) (n : Nat) : Option Nat :=
  (runs.find? fun r => r.first ≤ n && n ≤ r.last && (n - r.first) % r.stride == 0).map fun r =>
    ((n : Int) + r.offset).toNat

/-- The image of a character under a mapping: the whole text if it expands, else the run it is
in, else itself. -/
def mapCase (expansions : List (Nat × List Nat)) (runs : List CaseRun) (c : Char) : List Char :=
  match expansions.find? (·.1 == c.toNat) with
  | some e => e.2.map Char.ofNat
  | none =>
    match applyRuns runs c.toNat with
    | some n => [Char.ofNat n]
    | none => [c]

/-- The upper case of a character. -/
def upperChar (c : Char) : List Char :=
  if c.toNat < 128 then [c.toUpper] else mapCase upperExpansions upperRuns c

/-- The lower case of a character that is not a sigma at the end of a word. -/
def lowerChar (c : Char) : List Char :=
  if c.toNat < 128 then [c.toLower] else mapCase lowerExpansions lowerRuns c

/-- The upper case of a text. -/
def upper (cs : List Char) : List Char := cs.flatMap upperChar

private def within (ranges : List (Nat × Nat)) (c : Char) : Bool :=
  ranges.any fun r => r.1 ≤ c.toNat && c.toNat ≤ r.2

/-- Whether the first character that is not case-ignorable is a cased one. -/
def meetsCased (cs : List Char) : Bool :=
  match cs.dropWhile (within caseIgnorableRanges) with
  | [] => false
  | c :: _ => within casedRanges c

/-- The lower case of `cs`, standing after the text whose reverse is `before`. A capital sigma is
final if a cased letter comes before it and none after. -/
def lowerAfter (before : List Char) : List Char → List Char
  | [] => []
  | c :: cs =>
    let here :=
      if c == 'Σ' then [if meetsCased before && !meetsCased cs then 'ς' else 'σ'] else lowerChar c
    here ++ lowerAfter (c :: before) cs

/-- The lower case of a text. -/
def lower (cs : List Char) : List Char := lowerAfter [] cs

/-- `upper` on strings. -/
def toUpper (s : String) : String := String.ofList (upper s.toList)

/-- `lower` on strings. -/
def toLower (s : String) : String := String.ofList (lower s.toList)

end QueryLoom.Text
