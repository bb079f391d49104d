import QueryLoom.Toml.Scalar
import QueryLoom.Toml.Token

/-!
# Reading TOML

1. `Toml.value?` reads a value at the front of tokens. What it returns is shorter, so arrays and
   tables end. Brackets nest eighty deep at most.
2. `Toml.document?` reads lines: headers, and values under dotted keys.
-/

namespace QueryLoom.Toml

/-- Tokens left over, fewer than there were. -/
abbrev Rest (ts : List Token) := { rest : List Token // rest.length < ts.length }

/-! ## Keys -/

/-- A character of a key without quotes. -/
def isKeyChar (c : Char) : Bool := c.isAlphanum || c = '_' || c = '-'

/-- A part of a key. -/
def keyPart? : Token → Option String
  | .bare cs => if cs.all isKeyChar then some (String.ofList cs) else none
  | .text s false => some s
  | _ => none

/-- The parts of a dotted key: the path to the last one, and that. -/
def keyPath? : List Token → Option (List String × String)
  | [t] => (keyPart? t).map ([], ·)
  | t :: .dot :: ts => do
    let part ← keyPart? t
    let (path, k) ← keyPath? ts
    return (part :: path, k)
  | _ => none

/-- A token between blanks. -/
def isBlank : Token → Bool
  | .blank _ => true
  | _ => false

/-- The tokens of a key: those before an equals sign on the same line, blanks left out. -/
def key? (ts : List Token) : Option (List String × String) := keyPath? (ts.filter (!isBlank ·))

/-- A token that ends a key. -/
def endsKey (t : Token) : Bool := t = .equals || t = .newline

/-! ## Values -/

/-- A blank or a line break. -/
def isSpace (t : Token) : Bool := isBlank t || t = .newline

theorem length_dropWhile_le (p : Token → Bool) (ts : List Token) :
    (ts.dropWhile p).length ≤ ts.length :=
  (List.dropWhile_sublist p).length_le

/-- The characters of bare runs and points at the front of tokens. -/
def bareText : List Token → List Char
  | .bare cs :: ts => cs ++ bareText ts
  | .dot :: ts => '.' :: bareText ts
  | _ => []

/-- A bare run or a point. -/
def isBare : Token → Bool
  | .bare _ => true
  | .dot => true
  | _ => false

/-- A bare value at the front of tokens. A date takes in a time after a single space. -/
def bare? (ts : List Token) : Option (Toml × List Token) :=
  let text := bareText ts
  let rest := ts.dropWhile isBare
  match rest with
  | .blank true :: .bare (c :: cs) :: more =>
    if isDate text && c.isDigit then
      let later : List Token := .bare (c :: cs) :: more
      (ofBare? (text ++ ' ' :: bareText later)).map fun v => (v, later.dropWhile isBare)
    else (ofBare? text).map fun v => (v, rest)
  | _ => (ofBare? text).map fun v => (v, rest)

/-- What a reader leaves over, if it is shorter. -/
def shorter? {α : Type} (ts : List Token) (r : Option (α × List Token)) : Option (α × Rest ts) :=
  r.bind fun (a, rest) => if h : rest.length < ts.length then some (a, ⟨rest, h⟩) else none

mutual

/-- A value at the front of tokens, with brackets at most `depth` deep. -/
def value? (depth : Nat) (ts : List Token) : Option (Toml × Rest ts) :=
  match depth, ts with
  | _, .text s _ :: rest => some (.text s, ⟨rest, by simp⟩)
  | depth + 1, .openSquare :: rest => do
    let (items, r) ← items? depth rest
    return (.array items, ⟨r.1, by have := r.2; simp only [List.length_cons]; omega⟩)
  | depth + 1, .openCurly :: rest => do
    let (t, r) ← members? depth [] rest
    return (.table .closed t, ⟨r.1, by have := r.2; simp only [List.length_cons]; omega⟩)
  | _, ts => shorter? ts (bare? ts)
termination_by (ts.length, 0)

/-- The items of an array, up to its closing bracket. -/
def items? (depth : Nat) (ts : List Token) : Option (List Toml × Rest ts) :=
  match h : ts.dropWhile isSpace with
  | .closeSquare :: rest =>
    some ([], ⟨rest, by
      have := length_dropWhile_le isSpace ts
      rw [h] at this; simp only [List.length_cons] at this; omega⟩)
  | first => do
    let (v, r) ← value? depth first
    match h' : r.1.dropWhile isSpace with
    | .closeSquare :: rest =>
      return ([v], ⟨rest, by
        have h₁ := length_dropWhile_le isSpace ts
        have h₂ := length_dropWhile_le isSpace r.1
        have h₃ := r.2
        rw [h] at h₁; rw [h'] at h₂
        simp only [List.length_cons] at h₂
        omega⟩)
    | .comma :: rest =>
      have hlt : rest.length < ts.length := by
        have h₁ := length_dropWhile_le isSpace ts
        have h₂ := length_dropWhile_le isSpace r.1
        have h₃ := r.2
        rw [h] at h₁; rw [h'] at h₂
        simp only [List.length_cons] at h₂
        omega
      let (vs, s) ← items? depth rest
      return (v :: vs, ⟨s.1, by have := s.2; omega⟩)
    | _ => none
termination_by (ts.length, 1)
decreasing_by
  · have h₁ := length_dropWhile_le isSpace ts
    rw [h] at h₁
    simp only [Prod.lex_def]
    omega
  · simp only [Prod.lex_def]
    omega

/-- The members of a table between braces, up to its closing brace, put into a table. -/
def members? (depth : Nat) (t : Table) (ts : List Token) : Option (Table × Rest ts) :=
  match h : ts.dropWhile isSpace with
  | .closeCurly :: rest =>
    some (t, ⟨rest, by
      have := length_dropWhile_le isSpace ts
      rw [h] at this; simp only [List.length_cons] at this; omega⟩)
  | first => do
    let (path, k) ← key? (first.takeWhile (!endsKey ·))
    match h' : first.dropWhile (!endsKey ·) with
    | .equals :: afterKey =>
      have hkey : afterKey.length < ts.length := by
        have h₁ := length_dropWhile_le isSpace ts
        have h₂ := length_dropWhile_le (!endsKey ·) first
        rw [h] at h₁; rw [h'] at h₂
        simp only [List.length_cons] at h₂
        omega
      have hblank := length_dropWhile_le isBlank afterKey
      let (v, r) ← value? depth (afterKey.dropWhile isBlank)
      let t ← insertAt path k v .header t
      match h'' : r.1.dropWhile isSpace with
      | .closeCurly :: rest =>
        return (t, ⟨rest, by
          have h₂ := length_dropWhile_le isSpace r.1
          have h₃ := r.2
          rw [h''] at h₂
          simp only [List.length_cons] at h₂
          omega⟩)
      | .comma :: rest =>
        have hlt : rest.length < ts.length := by
          have h₂ := length_dropWhile_le isSpace r.1
          have h₃ := r.2
          rw [h''] at h₂
          simp only [List.length_cons] at h₂
          omega
        let (t, s) ← members? depth t rest
        return (t, ⟨s.1, by have := s.2; omega⟩)
      | _ => none
    | _ => none
termination_by (ts.length, 1)
decreasing_by
  · simp only [Prod.lex_def]
    omega
  · simp only [Prod.lex_def]
    omega

end

/-! ## Lines -/

/-- How deep brackets may nest. -/
def depthLimit : Nat := 80

/-- What is left after the end of a line, which only blanks may precede. -/
def endOfLine? (ts : List Token) : Option (List Token) :=
  match ts.dropWhile isBlank with
  | [] => some []
  | .newline :: rest => some rest
  | _ => none

/-- A table with the header of the table that lines are about. -/
structure Document where
  root : Table := []
  header : List String := []

/-- A line that is a header or a value under a key, and what is left after it. -/
def Document.line? (d : Document) (ts : List Token) : Option (Document × List Token) :=
  let inHeader (t : Token) : Bool := t ≠ .closeSquare && t ≠ .newline
  match ts with
  | .openSquare :: .openSquare :: rest => do
    let (path, k) ← key? (rest.takeWhile inHeader)
    match rest.dropWhile inHeader with
    | .closeSquare :: .closeSquare :: rest =>
      return (⟨← openItem path k d.root, path ++ [k]⟩, ← endOfLine? rest)
    | _ => none
  | .openSquare :: rest => do
    let (path, k) ← key? (rest.takeWhile inHeader)
    match rest.dropWhile inHeader with
    | .closeSquare :: rest =>
      return (⟨← openTable path k d.root, path ++ [k]⟩, ← endOfLine? rest)
    | _ => none
  | ts => do
    let (path, k) ← key? (ts.takeWhile (!endsKey ·))
    match ts.dropWhile (!endsKey ·) with
    | .equals :: rest =>
      let (v, rest) ← value? depthLimit (rest.dropWhile isBlank)
      return ({ d with root := ← insertUnder d.header path k v d.root }, ← endOfLine? rest.1)
    | _ => none

/-- The lines of a document, put into a table. -/
def Document.lines? (d : Document) (ts : List Token) : Option Document :=
  match ts.dropWhile isSpace with
  | [] => some d
  | first =>
    match shorter? ts (d.line? first) with
    | none => none
    | some (d, rest) => lines? d rest.1
termination_by ts.length
decreasing_by exact rest.2

/-- The table that a text describes. -/
def ofText? (s : String) : Option Table := do
  let ts ← Token.scan s
  let d ← ({} : Document).lines? ts
  return d.root

end QueryLoom.Toml
