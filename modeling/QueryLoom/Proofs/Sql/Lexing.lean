import Mathlib.Data.List.Chain
import QueryLoom.Proofs.Decimal.Plain
import QueryLoom.Sql.Token.Lexer

/-!
# Reading what was written

The machine that reads SQL against the writing of tokens:

1. **Whole tokens**: `Token.IsWhole` says that a token's text is one word, one number or one symbol;
   names and texts may hold any characters.
2. **Quotes**: inside quotes the machine undoes the doubling (`run_quote`), so it leaves a quoted
   token exactly where its last quote stands alone.
3. **Tokens that do not touch**: `Token.apart` says which token may follow another. The character
   that follows then ends the token (`run_write`).
4. **Main statement**: `scan_writeAll` says that reading the text of whole tokens that do not touch
   gives back these tokens and leaves nothing over.
-/

namespace QueryLoom.Sql

/-! ## Whole tokens -/

/-- A bare word. -/
def isWord : List Char → Bool
  | [] => false
  | c :: cs => isWordStart c && cs.all isWordChar

namespace Token

/-- Whether the text of a token is that of one token. -/
def IsWhole : Token → Prop
  | .word s => isWord s.toList = true
  | .number digits => Decimal.IsNumeral digits
  | .symbol c => isSymbol c = true
  | .name _ | .text _ | .space => True

/-- Whether a token may follow another. Of two tokens one is a space or a symbol, and no point
follows a number. -/
def apart : Token → Token → Bool
  | .space, _ | .symbol _, _ | _, .space => true
  | .number _, .symbol c => c ≠ '.'
  | _, .symbol _ => true
  | _, _ => false

/-- Whether a character that follows a token is no part of it. -/
def endsAt (d : Dialect) : Token → Char → Bool
  | .word _, c => !isWordChar c
  | .number _, c => !isNumberChar c
  | .name _, c => c ≠ d.identifierQuote
  | .text _, c => c ≠ '\''
  | .symbol _, _ | .space, _ => true

end Token

/-! ## Letters -/

theorem isUpper_iff_toNat {c : Char} :
    c.isUpper = true ↔ 'A'.toNat ≤ c.toNat ∧ c.toNat ≤ 'Z'.toNat :=
  decide_eq_true_iff.trans (and_congr UInt32.le_iff_toNat_le UInt32.le_iff_toNat_le)

theorem isLower_iff_toNat {c : Char} :
    c.isLower = true ↔ 'a'.toNat ≤ c.toNat ∧ c.toNat ≤ 'z'.toNat :=
  Bool.and_eq_true_iff.trans (and_congr (decide_eq_true_iff.trans UInt32.le_iff_toNat_le)
    (decide_eq_true_iff.trans UInt32.le_iff_toNat_le))

theorem isWordStart_iff {c : Char} :
    isWordStart c = true ↔ c.isUpper = true ∨ c.isLower = true ∨ c = '_' := by
  rw [isWordStart, Bool.or_eq_true_iff, decide_eq_true_iff, ← or_assoc]
  exact or_congr_left Bool.or_eq_true_iff

/-- A character of a word may begin one, or is a digit. -/
theorem isWordChar_iff {c : Char} :
    isWordChar c = true ↔ isWordStart c = true ∨ c.isDigit = true := by
  rw [isWordChar, isWordStart, Bool.or_eq_true_iff, Bool.or_eq_true_iff, or_right_comm]
  exact or_congr_left Bool.or_eq_true_iff

/-! ## One character -/

variable {d : Dialect} {quotes : Quotes}

/-- A character of a class is none of the characters outside it. -/
theorem not_mem_of_class {p : Char → Bool} {c : Char} {cs : List Char} (hc : p c = true)
    (hcs : cs.all (fun x => !p x) = true) : c ∉ cs := by
  intro hmem
  have := List.all_eq_true.1 hcs c hmem
  simp [hc] at this

/-- Whether quotes are read as a dialect writes them. -/
structure Quotes.Suits (quotes : Quotes) (d : Dialect) : Prop where
  name : quotes d.identifierQuote = some .name
  text : quotes '\'' = some .text
  other : ∀ c, c ∉ ['"', '`', '\''] → quotes c = none

theorem suits_dialect (d : Dialect) : Quotes.Suits d.quotes d where
  name := by simp [Dialect.quotes]
  text := by cases d <;> rfl
  other := by
    intro c h
    simp only [List.mem_cons, List.not_mem_nil, or_false, not_or] at h
    cases d <;> simp [Dialect.quotes, Dialect.identifierQuote, h]

/-- A symbol is in no class that holds none of the symbols. -/
theorem not_class_of_isSymbol {p : Char → Bool} {c : Char} (hc : isSymbol c = true)
    (hp : ['(', ')', ',', '.', '=', '<', '>', '*'].all (fun x => !p x) = true) :
    ¬ p c = true := by
  intro h
  exact not_mem_of_class h hp (List.contains_iff_mem.1 hc)

namespace Lexing

theorem start_name (hq : Quotes.Suits quotes d) :
    start quotes d.identifierQuote = .ok (.quote d.identifierQuote .name [], []) := by
  simp [start, hq.name]

theorem start_text (hq : Quotes.Suits quotes d) :
    start quotes '\'' = .ok (.quote '\'' .text [], []) := by
  simp [start, hq.text]

theorem start_space (hq : Quotes.Suits quotes d) : start quotes ' ' = .ok (.between, [.space]) := by
  simp [start, hq.other]

theorem start_minus (hq : Quotes.Suits quotes d) : start quotes '-' = .ok (.sign, []) := by
  simp [start, hq.other]

/-- A character that is no quote, no space and no minus sign starts a number, a word or a symbol. -/
theorem start_of_not_mem (hq : Quotes.Suits quotes d) {c : Char}
    (h : c ∉ ['"', '`', '\'', ' ', '-']) :
    start quotes c =
      if c.isDigit then .ok (.number [c], [])
      else if isWordStart c then .ok (.word [c], [])
      else if isSymbol c then .ok (.between, [.symbol c])
      else .error [c] := by
  simp only [List.mem_cons, List.not_mem_nil, or_false, not_or] at h
  have hquote : c ∉ ['"', '`', '\''] := by simp [h]
  simp [start, hq.other c hquote, h]

theorem start_digit (hq : Quotes.Suits quotes d) {c : Char} (h : c.isDigit = true) :
    start quotes c = .ok (.number [c], []) := by
  rw [start_of_not_mem hq (not_mem_of_class h (by decide)), if_pos h]

theorem not_isDigit_of_isWordStart {c : Char} (h : isWordStart c = true) : ¬ c.isDigit = true := by
  intro hdigit
  have hdigit := (Char.isDigit_iff_toNat.1 hdigit).2
  rcases isWordStart_iff.1 h with hupper | hlower | rfl
  · exact absurd (Nat.le_trans (isUpper_iff_toNat.1 hupper).1 hdigit) (by decide)
  · exact absurd (Nat.le_trans (isLower_iff_toNat.1 hlower).1 hdigit) (by decide)
  · exact absurd hdigit (by decide)

theorem start_wordStart (hq : Quotes.Suits quotes d) {c : Char} (h : isWordStart c = true) :
    start quotes c = .ok (.word [c], []) := by
  rw [start_of_not_mem hq (not_mem_of_class h (by decide)),
    if_neg (not_isDigit_of_isWordStart h), if_pos h]

theorem start_symbol (hq : Quotes.Suits quotes d) {c : Char} (h : isSymbol c = true) :
    start quotes c = .ok (.between, [.symbol c]) := by
  have hother : c ∉ ['"', '`', '\'', ' ', '-'] := by
    rw [← List.contains_iff_mem]
    exact not_class_of_isSymbol h (by decide)
  rw [start_of_not_mem hq hother, if_neg (not_class_of_isSymbol h (by decide)),
    if_neg (not_class_of_isSymbol h (by decide)), if_pos h]

/-! ## Runs of the machine -/

theorem run_cons {s next : Lexing} {c : Char} {ts : List Token}
    (h : s.step quotes c = .ok (next, ts)) (cs : List Char) :
    s.run quotes (c :: cs) = (next.run quotes cs).map (ts ++ ·) := by
  simp only [run, h, bind, Except.bind]
  cases next.run quotes cs <;> rfl

theorem run_cons_error {s : Lexing} {c : Char} {piece : List Char}
    (h : s.step quotes c = .error piece) (cs : List Char) :
    s.run quotes (c :: cs) = .error piece := by
  simp only [run, h, bind, Except.bind]

/-- A step that gives out nothing only changes the state. -/
theorem run_cons_silent {s next : Lexing} {c : Char} (h : s.step quotes c = .ok (next, []))
    (cs : List Char) : s.run quotes (c :: cs) = next.run quotes cs := by
  rw [run_cons h]
  cases next.run quotes cs <;> rfl

/-- At the end of its token a state gives the token out and goes on as if it began there. -/
theorem run_after {s : Lexing} {t : Token} (hend : s.finish = .ok [t]) {cs : List Char}
    (hstep : ∀ c ∈ cs.head?, s.step quotes c = after quotes t c) :
    s.run quotes cs = (Lexing.between.run quotes cs).map (t :: ·) := by
  cases cs with
  | nil =>
    rw [run, hend]
    rfl
  | cons c cs =>
    have hafter := hstep c rfl
    cases hstart : start quotes c with
    | error e =>
      simp only [after, hstart, Except.map] at hafter
      rw [run_cons_error hafter, run_cons_error (s := .between) hstart]
      rfl
    | ok next =>
      simp only [after, hstart, Except.map] at hafter
      rw [run_cons hafter, run_cons (s := .between) hstart]
      cases next.1.run quotes cs <;> rfl

/-- A word goes on through its characters. -/
theorem run_word {cs : List Char} (hcs : ∀ c ∈ cs, isWordChar c = true) (read rest : List Char) :
    (word read).run quotes (cs ++ rest) = (word (read ++ cs)).run quotes rest := by
  induction cs generalizing read with
  | nil => rw [List.append_nil, List.nil_append]
  | cons c cs ih =>
    have hc : isWordChar c = true := hcs c List.mem_cons_self
    have hstep : (word read).step quotes c = .ok (word (read ++ [c]), []) := by simp [step, hc]
    rw [List.cons_append, run_cons_silent hstep, ih fun x hx => hcs x (List.mem_cons_of_mem c hx)]
    simp

/-- A number goes on through its characters. -/
theorem run_number {cs : List Char} (hcs : ∀ c ∈ cs, isNumberChar c = true)
    (read rest : List Char) :
    (number read).run quotes (cs ++ rest) = (number (read ++ cs)).run quotes rest := by
  induction cs generalizing read with
  | nil => rw [List.append_nil, List.nil_append]
  | cons c cs ih =>
    have hc : isNumberChar c = true := hcs c List.mem_cons_self
    have hstep : (number read).step quotes c = .ok (number (read ++ [c]), []) := by
      simp [step, hc]
    rw [List.cons_append, run_cons_silent hstep, ih fun x hx => hcs x (List.mem_cons_of_mem c hx)]
    simp

/-- Inside quotes the doubling is undone, up to the quote that stands alone. -/
theorem run_quote (q : Char) (k : Quoted) (read cs rest : List Char) :
    (quote q k read).run quotes (doubled q cs ++ q :: rest) =
      (closing q k (read ++ cs)).run quotes rest := by
  induction cs generalizing read with
  | nil =>
    have hclose : (quote q k read).step quotes q = .ok (closing q k read, []) := by simp [step]
    rw [doubled, List.nil_append, run_cons_silent hclose, List.append_nil]
  | cons c cs ih =>
    by_cases hc : c = q
    · -- a quote in the text is the first of two
      have hfirst : (quote q k read).step quotes q = .ok (closing q k read, []) := by simp [step]
      have hsecond : (closing q k read).step quotes q = .ok (quote q k (read ++ [q]), []) := by
        simp [step]
      rw [doubled, if_pos hc, List.cons_append, List.cons_append, run_cons_silent hfirst,
        run_cons_silent hsecond, ih, hc]
      simp
    · have hstep : (quote q k read).step quotes c = .ok (quote q k (read ++ [c]), []) := by
        simp [step, hc]
      rw [doubled, if_neg hc, List.cons_append, run_cons_silent hstep, ih]
      simp

/-- A quoted text is read as one token, if no further quote follows. -/
theorem run_enclose {q : Char} {k : Quoted} (hstart : start quotes q = .ok (quote q k [], []))
    (cs : List Char) {rest : List Char} (hrest : ∀ c ∈ rest.head?, c ≠ q) :
    Lexing.between.run quotes (enclose q cs ++ rest) =
      (Lexing.between.run quotes rest).map (k.token (String.ofList cs) :: ·) := by
  have hbody : enclose q cs ++ rest = q :: (doubled q cs ++ q :: rest) := by simp [enclose]
  rw [hbody, run_cons_silent (s := .between) hstart, run_quote, List.nil_append]
  apply run_after rfl
  intro c hc
  rw [step, if_neg (hrest c hc)]

/-! ## One token -/

theorem isNumberChar_of_isDigit {c : Char} (h : c.isDigit = true) : isNumberChar c = true := by
  simp [isNumberChar, h]

/-- A plain decimal begins with a digit and goes on with digits and points. -/
theorem isPlain_cons {cs : List Char} (h : Decimal.IsPlain cs) :
    ∃ c rest, cs = c :: rest ∧ c.isDigit = true ∧ ∀ x ∈ rest, isNumberChar x = true := by
  have hdigits : ∀ ds : List Char, Decimal.IsDigits ds →
      ∃ c rest, ds = c :: rest ∧ c.isDigit = true ∧ ∀ x ∈ rest, isNumberChar x = true := by
    intro ds hds
    cases ds with
    | nil => exact absurd rfl hds.1
    | cons c rest =>
      refine ⟨c, rest, rfl, hds.2 c List.mem_cons_self, ?_⟩
      intro x hx
      exact isNumberChar_of_isDigit (hds.2 x (List.mem_cons_of_mem c hx))
  cases h with
  | whole hcs => exact hdigits _ hcs
  | @point whole fraction hwhole hfraction =>
    obtain ⟨c, rest, rfl, hc, hrest⟩ := hdigits _ hwhole
    refine ⟨c, rest ++ '.' :: fraction, rfl, hc, ?_⟩
    intro x hx
    rcases List.mem_append.1 hx with hx | hx
    · exact hrest x hx
    · rcases List.mem_cons.1 hx with rfl | hx
      · rfl
      · exact isNumberChar_of_isDigit (hfraction.2 x hx)

/-- The text of a whole token is read as that token, if what follows ends it. -/
theorem run_write (hq : Quotes.Suits quotes d) {t : Token} (ht : t.IsWhole) {rest : List Char}
    (hrest : ∀ c ∈ rest.head?, t.endsAt d c = true) :
    Lexing.between.run quotes (t.write d ++ rest) =
      (Lexing.between.run quotes rest).map (t :: ·) := by
  cases t with
  | word s =>
    cases hs : s.toList with
    | nil => simp [Token.IsWhole, isWord, hs] at ht
    | cons c cs =>
      simp only [Token.IsWhole, hs, isWord, Bool.and_eq_true, List.all_eq_true] at ht
      rw [Token.write, hs, List.cons_append, run_cons_silent (s := .between) (start_wordStart hq ht.1),
        run_word ht.2, List.singleton_append, ← hs]
      apply run_after
      · rw [finish, String.ofList_toList]
      · intro x hx
        have hx : ¬ isWordChar x = true := by simpa [Token.endsAt] using hrest x hx
        rw [step, if_neg hx, String.ofList_toList]
  | number digits =>
    have hstep : ∀ x ∈ rest.head?, (number digits).step quotes x =
        after quotes (.number digits) x := by
      intro x hx
      have hx : ¬ isNumberChar x = true := by simpa [Token.endsAt] using hrest x hx
      rw [step, if_neg hx]
    cases ht with
    | plain hplain =>
      obtain ⟨c, cs, rfl, hc, hcs⟩ := isPlain_cons hplain
      rw [Token.write, List.cons_append, run_cons_silent (s := .between) (start_digit hq hc),
        run_number hcs]
      exact run_after rfl hstep
    | minus hplain =>
      obtain ⟨c, cs, rfl, hc, hcs⟩ := isPlain_cons hplain
      have hsign : sign.step quotes c = .ok (number ['-', c], []) := by simp [step, hc]
      rw [Token.write, List.cons_append, List.cons_append,
        run_cons_silent (s := .between) (start_minus hq), run_cons_silent hsign, run_number hcs]
      exact run_after rfl hstep
  | name s =>
    have hquote : ∀ c ∈ rest.head?, c ≠ d.identifierQuote := by
      intro c hc
      simpa [Token.endsAt] using hrest c hc
    rw [Token.write, run_enclose (start_name hq) _ hquote, String.ofList_toList]
    rfl
  | text s =>
    have hquote : ∀ c ∈ rest.head?, c ≠ '\'' := by
      intro c hc
      simpa [Token.endsAt] using hrest c hc
    rw [Token.write, run_enclose (start_text hq) _ hquote, String.ofList_toList]
    rfl
  | symbol c => exact run_cons (s := .between) (start_symbol hq ht) rest
  | space => exact run_cons (s := .between) (start_space hq) rest

end Lexing

/-! ## Tokens that do not touch -/

theorem endsAt_space (d : Dialect) (t : Token) : t.endsAt d ' ' = true := by
  cases t with
  | name s => cases d <;> rfl
  | _ => rfl

theorem endsAt_symbol {t : Token} {c : Char} (hc : isSymbol c = true)
    (h : t.apart (.symbol c) = true) : t.endsAt d c = true := by
  cases t with
  | word s =>
    have hword : ¬ isWordChar c = true := not_class_of_isSymbol hc (by decide)
    simp [Token.endsAt, hword]
  | name s =>
    have hquote : ¬ decide (c = d.identifierQuote) = true := by
      cases d with
      | mysql => exact @not_class_of_isSymbol (· = '`') c hc (by decide)
      | _ => exact @not_class_of_isSymbol (· = '"') c hc (by decide)
    simpa [Token.endsAt] using hquote
  | text s =>
    have hquote : ¬ decide (c = '\'') = true :=
      @not_class_of_isSymbol (· = '\'') c hc (by decide)
    simpa [Token.endsAt] using hquote
  | number digits =>
    have hpoint : c ≠ '.' := by simpa [Token.apart] using h
    have hdigit : ¬ c.isDigit = true := not_class_of_isSymbol hc (by decide)
    simp [Token.endsAt, isNumberChar, hpoint, hdigit]
  | symbol x => rfl
  | space => rfl

/-- The first character of a token that may follow another ends the other. -/
theorem endsAt_of_apart {t u : Token} (h : t.apart u = true) (hu : u.IsWhole) (rest : List Char) :
    ∀ c ∈ (u.write d ++ rest).head?, t.endsAt d c = true := by
  intro c hc
  cases u with
  | space =>
    obtain rfl : ' ' = c := by simpa [Token.write] using hc
    exact endsAt_space d t
  | symbol x =>
    obtain rfl : x = c := by simpa [Token.write] using hc
    exact endsAt_symbol hu h
  | _ =>
    -- only a space or a symbol is followed by anything else
    cases t with
    | space => rfl
    | symbol x => rfl
    | _ => simp [Token.apart] at h

/-- Tokens as they are to be read: each of them whole, none of them touching the next. -/
structure Readable (ts : List Token) : Prop where
  whole : ∀ t ∈ ts, t.IsWhole
  apart : ts.IsChain fun t u => t.apart u = true

/-- Reading undoes writing: the whole text is read, and gives exactly the tokens written. -/
theorem scan_writeAll (hq : Quotes.Suits quotes d) {ts : List Token} (h : Readable ts) :
    Token.scan quotes (Token.writeAll d ts) = .ok ts := by
  obtain ⟨hwhole, hapart⟩ := h
  rw [Token.scan]
  induction ts with
  | nil => rfl
  | cons t ts ih =>
    have hrest : ∀ c ∈ (Token.writeAll d ts).head?, t.endsAt d c = true := by
      cases ts with
      | nil => simp [Token.writeAll]
      | cons u us =>
        rw [List.isChain_cons_cons] at hapart
        exact endsAt_of_apart hapart.1 (hwhole u (by simp)) _
    have ih := ih (fun u hu => hwhole u (List.mem_cons_of_mem t hu)) hapart.tail
    have hwrite : Token.writeAll d (t :: ts) = t.write d ++ Token.writeAll d ts := rfl
    rw [hwrite, Lexing.run_write hq (hwhole t List.mem_cons_self) hrest, ih]
    rfl

end QueryLoom.Sql
