import QueryLoom.Proofs.Json.Numeral
import QueryLoom.Proofs.Json.Quoted

/-!
# JSON texts are read token by token

1. **Tokens of a value**: `Json.tokens`, without regard to how the value is laid out.
2. **Readable values**: `Json.Fits` says that all numbers in a value are integers of 64 bits and how
   deep its brackets nest.
3. **Reading**: `Reads` relates a text to the tokens as which it is read wherever a number may end.
   It goes through lists with separators and through brackets.
4. **Values**: a value is read as its tokens, both without blanks (`Fits.reads_write`) and over
   lines (`Fits.reads_writeLines`).
-/

namespace QueryLoom.Json

/-! ## Tokens of a value -/

/-- Tokens of several values with commas between. -/
def Token.joined : List (List Token) → List Token
  | [] => []
  | [ts] => ts
  | ts :: tss => ts ++ .comma :: joined tss

mutual

/-- The tokens of a value. -/
def tokens : Json → List Token
  | .null => [.null]
  | .bool b => [.bool b]
  | .number n => Token.scan n.written
  | .text s => [.text (s.toList.map Piece.ofChar)]
  | .array items => .openArray :: (Token.joined (itemTokens items) ++ [.closeArray])
  | .object members => .openObject :: (Token.joined (memberTokens members) ++ [.closeObject])

/-- The tokens of the items of an array. -/
def itemTokens : List Json → List (List Token)
  | [] => []
  | v :: vs => v.tokens :: itemTokens vs

/-- The tokens of the members of an object. -/
def memberTokens : List (String × Json) → List (List Token)
  | [] => []
  | (k, v) :: ms => (.text (k.toList.map Piece.ofChar) :: .colon :: v.tokens) :: memberTokens ms

end

/-- The tokens of a member of an object. -/
def Token.ofMember (m : String × Json) : List Token :=
  .text (m.1.toList.map Piece.ofChar) :: .colon :: m.2.tokens

theorem itemTokens_eq (vs : List Json) : itemTokens vs = vs.map tokens := by
  induction vs with
  | nil => rfl
  | cons v vs ih => rw [itemTokens, ih, List.map_cons]

theorem memberTokens_eq (ms : List (String × Json)) : memberTokens ms = ms.map Token.ofMember := by
  induction ms with
  | nil => rfl
  | cons m ms ih => rw [memberTokens, ih, List.map_cons, Token.ofMember]

theorem endsNumber_nil : EndsNumber [] := by
  intro c hc
  cases hc

theorem tokens_integer (n : Int) : tokens (.number (.integer n)) = [.number (.ofInt n)] := by
  have hscan := Lexing.run_integer n endsNumber_nil
  rw [List.append_nil] at hscan
  exact hscan

/-! ## Readable values -/

/-- Whether all numbers in a value are integers of 64 bits and its brackets nest at most `n` deep. -/
inductive Fits : Nat → Json → Prop where
  | null {n : Nat} : Fits n .null
  | bool {n : Nat} {b : Bool} : Fits n (.bool b)
  | number {n : Nat} {i : Number} : i.IsInteger → Fits n (.number i)
  | text {n : Nat} {s : String} : Fits n (.text s)
  | array {n : Nat} {items : List Json} : (∀ v ∈ items, Fits n v) → Fits (n + 1) (.array items)
  | object {n : Nat} {members : List (String × Json)} :
    (∀ m ∈ members, Fits n m.2) → Fits (n + 1) (.object members)

attribute [simp] Fits.null Fits.bool Fits.text

@[simp] theorem fits_number_iff {n : Nat} {i : Number} : Fits n (.number i) ↔ i.IsInteger := by
  constructor
  · rintro ⟨⟩
    assumption
  · exact .number

@[simp] theorem fits_array_iff {n : Nat} {items : List Json} :
    Fits (n + 1) (.array items) ↔ ∀ v ∈ items, Fits n v := by
  constructor
  · rintro ⟨⟩
    assumption
  · exact .array

@[simp] theorem fits_object_iff {n : Nat} {members : List (String × Json)} :
    Fits (n + 1) (.object members) ↔ ∀ m ∈ members, Fits n m.2 := by
  constructor
  · rintro ⟨⟩
    assumption
  · exact .object

@[simp] theorem fits_texts {n : Nat} (xs : List String) : Fits (n + 1) (texts xs) := by
  simp [texts]

@[simp] theorem mem_optionalMember {name : String} {o : Option Json} {m : String × Json} :
    m ∈ optionalMember name o ↔ ∃ v, o = some v ∧ (name, v) = m := by
  simp [optionalMember]

/-! ## Reading -/

/-- Whether a text is read as a list of tokens, whatever follows that does not continue a number. -/
def Reads (cs : List Char) (ts : List Token) : Prop :=
  ∀ rest, EndsNumber rest →
    Lexing.between.run (cs ++ rest) = ts ++ Lexing.between.run rest

/-- Blanks of JSON. -/
def IsBlanks (cs : List Char) : Prop := ∀ c ∈ cs, isJsonBlank c = true

theorem run_blanks {bs : List Char} (h : IsBlanks bs) (rest : List Char) :
    Lexing.between.run (bs ++ rest) = Lexing.between.run rest := by
  induction bs with
  | nil => rfl
  | cons b bs ih =>
    have hstart : Lexing.between.step b = (.between, []) := by
      simp [Lexing.step, Lexing.start, h b List.mem_cons_self]
    rw [List.cons_append, Lexing.run_cons, hstart]
    exact ih fun c hc => h c (List.mem_cons_of_mem _ hc)

theorem isDigit_blank {c : Char} (h : isJsonBlank c = true) :
    isDigit c = false ∧ c ≠ '.' ∧ c ≠ 'e' ∧ c ≠ 'E' := by
  have hc : ((c = ' ' ∨ c = '\t') ∨ c = '\n') ∨ c = '\r' := by simpa [isJsonBlank] using h
  rcases hc with ((rfl | rfl) | rfl) | rfl <;> decide

theorem endsNumber_cons {c : Char} (h : isDigit c = false ∧ c ≠ '.' ∧ c ≠ 'e' ∧ c ≠ 'E')
    (rest : List Char) : EndsNumber (c :: rest) := by
  intro d hd
  obtain rfl := Option.some.inj hd
  exact h

/-- Blanks before something that ends a number end it themselves. -/
theorem endsNumber_blanks {bs : List Char} (h : IsBlanks bs) {rest : List Char}
    (hrest : EndsNumber rest) : EndsNumber (bs ++ rest) := by
  cases bs with
  | nil => exact hrest
  | cons b bs => exact endsNumber_cons (isDigit_blank (h b List.mem_cons_self)) _

namespace Reads

/-- One text after another. -/
theorem append {cs ds : List Char} {ts us : List Token} (hcs : Reads cs ts) (hds : Reads ds us)
    (h : ∀ rest, EndsNumber rest → EndsNumber (ds ++ rest)) : Reads (cs ++ ds) (ts ++ us) := by
  intro rest hrest
  rw [List.append_assoc, hcs _ (h rest hrest), hds rest hrest, List.append_assoc]

/-- A bracket or separator, and what comes after it. -/
theorem cons {c : Char} {t : Token} (hstart : Lexing.start c = (.between, [t])) {cs : List Char}
    {ts : List Token} (h : Reads cs ts) : Reads (c :: cs) (t :: ts) := by
  intro rest hrest
  have hstep : Lexing.between.step c = (.between, [t]) := hstart
  rw [List.cons_append, Lexing.run_cons, hstep, h rest hrest]
  rfl

theorem blanks {bs : List Char} (hbs : IsBlanks bs) {cs : List Char} {ts : List Token}
    (h : Reads cs ts) : Reads (bs ++ cs) ts := by
  intro rest hrest
  rw [List.append_assoc, run_blanks hbs, h rest hrest]

theorem nil : Reads [] [] := fun _ _ => rfl

/-- Texts with a comma, and blanks after it, between them. -/
theorem joined {α : Type} {f : α → List Char} {g : α → List Token} {bs : List Char}
    (hbs : IsBlanks bs) {xs : List α} (h : ∀ x ∈ xs, Reads (f x) (g x)) :
    Reads (joined (',' :: bs) (xs.map f)) (Token.joined (xs.map g)) := by
  induction xs with
  | nil => exact nil
  | cons x xs ih =>
    have hx := h x List.mem_cons_self
    have hxs := ih fun y hy => h y (List.mem_cons_of_mem _ hy)
    cases xs with
    | nil => exact hx
    | cons y ys =>
      have hcomma : Reads (',' :: (bs ++ Json.joined (',' :: bs) ((y :: ys).map f)))
          (.comma :: Token.joined ((y :: ys).map g)) := cons rfl (blanks hbs hxs)
      have hall := hx.append hcomma fun rest _ => endsNumber_cons (by decide) _
      simpa [Json.joined, Token.joined] using hall

/-- A text between brackets, with blanks inside them. -/
theorem bracketed {opening closing : Char} {t u : Token}
    (hopening : Lexing.start opening = (.between, [t]))
    (hclosing : Lexing.start closing = (.between, [u]))
    (hend : isDigit closing = false ∧ closing ≠ '.' ∧ closing ≠ 'e' ∧ closing ≠ 'E')
    {before after : List Char} (hbefore : IsBlanks before) (hafter : IsBlanks after)
    {cs : List Char} {ts : List Token} (h : Reads cs ts) :
    Reads (opening :: (before ++ cs ++ after ++ [closing])) (t :: (ts ++ [u])) := by
  have hlast : Reads (after ++ [closing]) [u] := blanks hafter (cons hclosing nil)
  have hall := (blanks hbefore h).append hlast fun rest _ => by
    rw [List.append_assoc]
    exact endsNumber_blanks hafter (endsNumber_cons hend _)
  rw [List.append_assoc]
  exact cons hopening hall

theorem quoted (s : String) : Reads (quoted s.toList) [.text (s.toList.map Piece.ofChar)] :=
  fun rest _ => Lexing.run_quoted s.toList rest

/-- A member of an object: its key, a colon, blanks and its value. -/
theorem member {bs cs : List Char} (hbs : IsBlanks bs) {m : String × Json}
    (h : Reads cs m.2.tokens) :
    Reads (Json.quoted m.1.toList ++ ':' :: (bs ++ cs)) (Token.ofMember m) := by
  have hcolon : Reads (':' :: (bs ++ cs)) (.colon :: m.2.tokens) := cons rfl (blanks hbs h)
  exact (quoted m.1).append hcolon fun rest _ => endsNumber_cons (by decide) _

theorem integer {n : Number} (h : n.IsInteger) : Reads n.written (tokens (.number n)) := by
  cases n with
  | real x => cases h
  | integer n =>
    intro rest hrest
    rw [Number.written, tokens_integer, Lexing.run_integer n hrest]
    rfl

end Reads

/-! ## Values -/

theorem writeItems_eq (vs : List Json) : writeItems vs = vs.map write := by
  induction vs with
  | nil => rfl
  | cons v vs ih => rw [writeItems, ih, List.map_cons]

theorem writeMembers_eq (ms : List (String × Json)) :
    writeMembers ms = ms.map fun m => quoted m.1.toList ++ ':' :: m.2.write := by
  induction ms with
  | nil => rfl
  | cons m ms ih => rw [writeMembers, ih, List.map_cons]

theorem isBlanks_nil : IsBlanks [] := fun _ h => nomatch h

theorem isBlanks_space : IsBlanks [' '] := by
  intro c hc
  rw [List.mem_singleton.1 hc]
  rfl

/-- A value written without blanks is read as its tokens. -/
theorem Fits.reads_write {n : Nat} {v : Json} (h : Fits n v) : Reads v.write v.tokens := by
  induction h with
  | null => exact fun _ _ => rfl
  | @bool _ b => cases b <;> exact fun _ _ => rfl
  | number hi => exact Reads.integer hi
  | text => exact Reads.quoted _
  | @array _ items _ ih =>
    have hitems := Reads.joined isBlanks_nil ih
    have hopening : Lexing.start '[' = (.between, [.openArray]) := rfl
    have hclosing : Lexing.start ']' = (.between, [.closeArray]) := rfl
    have hall := hitems.bracketed hopening hclosing (by decide) isBlanks_nil isBlanks_nil
    simpa [write, writeItems_eq, tokens, itemTokens_eq] using hall
  | @object _ members _ ih =>
    have hmembers := Reads.joined isBlanks_nil fun m hm => Reads.member isBlanks_nil (ih m hm)
    have hopening : Lexing.start '{' = (.between, [.openObject]) := rfl
    have hclosing : Lexing.start '}' = (.between, [.closeObject]) := rfl
    have hall := hmembers.bracketed hopening hclosing (by decide) isBlanks_nil isBlanks_nil
    simpa [write, writeMembers_eq, tokens, memberTokens_eq] using hall

theorem itemLines_eq (depth : Nat) (vs : List Json) :
    itemLines depth vs = vs.map (writeLines depth) := by
  induction vs with
  | nil => rfl
  | cons v vs ih => rw [itemLines, ih, List.map_cons]

theorem memberLines_eq (depth : Nat) (ms : List (String × Json)) :
    memberLines depth ms =
      ms.map fun m => quoted m.1.toList ++ ':' :: ([' '] ++ m.2.writeLines depth) := by
  induction ms with
  | nil => rfl
  | cons m ms ih =>
    rw [memberLines, ih, List.map_cons]
    rfl

theorem isBlanks_newLine (depth : Nat) : IsBlanks (newLine depth) := by
  intro c hc
  rcases List.mem_cons.1 hc with rfl | hc
  · rfl
  · rw [List.eq_of_mem_replicate hc]
    rfl

/-- Parts on lines of their own between brackets. -/
theorem Reads.block {α : Type} {f : α → List Char} {g : α → List Token} {opening closing : Char}
    {t u : Token} (hopening : Lexing.start opening = (.between, [t]))
    (hclosing : Lexing.start closing = (.between, [u]))
    (hend : isDigit closing = false ∧ closing ≠ '.' ∧ closing ≠ 'e' ∧ closing ≠ 'E') (depth : Nat)
    {xs : List α} (h : ∀ x ∈ xs, Reads (f x) (g x)) :
    Reads (Json.block opening closing depth (xs.map f)) (t :: (Token.joined (xs.map g) ++ [u])) := by
  cases xs with
  | nil =>
    -- nothing between the brackets, not even a line break
    exact Reads.nil.bracketed hopening hclosing hend isBlanks_nil isBlanks_nil
  | cons x xs =>
    have hparts := Reads.joined (isBlanks_newLine (depth + 1)) h
    have hall := hparts.bracketed hopening hclosing hend (isBlanks_newLine (depth + 1))
      (isBlanks_newLine depth)
    simpa [Json.block] using hall

/-- A value written over lines is read as its tokens. -/
theorem Fits.reads_writeLines {n : Nat} {v : Json} (h : Fits n v) (depth : Nat) :
    Reads (v.writeLines depth) v.tokens := by
  induction h generalizing depth with
  | null => exact fun _ _ => rfl
  | @bool _ b => cases b <;> exact fun _ _ => rfl
  | number hi => exact Reads.integer hi
  | text => exact Reads.quoted _
  | @array _ items _ ih =>
    rw [writeLines, itemLines_eq, tokens, itemTokens_eq]
    exact Reads.block rfl rfl (by decide) depth fun v hv => ih v hv (depth + 1)
  | @object _ members _ ih =>
    rw [writeLines, memberLines_eq, tokens, memberTokens_eq]
    exact Reads.block rfl rfl (by decide) depth fun m hm =>
      Reads.member isBlanks_space (ih m hm (depth + 1))

/-- The tokens of a text that is read to its end. -/
theorem Reads.scan {cs : List Char} {ts : List Token} (h : Reads cs ts) : Token.scan cs = ts := by
  have hall := h [] endsNumber_nil
  rw [List.append_nil] at hall
  rw [Token.scan, hall]
  exact List.append_nil ts

end QueryLoom.Json
