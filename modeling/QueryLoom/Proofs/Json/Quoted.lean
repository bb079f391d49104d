import QueryLoom.Json.Token.Lexer
import QueryLoom.Json.Tree

/-!
# Quoted texts in JSON

1. `Piece.ofChar` is the piece as which a written character is read: characters without a short
   escape are written by their number, all others stand for themselves.
2. A quoted text is read as the pieces of its characters (`Lexing.run_quoted`), and these pieces
   spell the text (`joinPieces_ofChar`).
-/

namespace QueryLoom.Json

/-- Whether a character has an escape of one letter. -/
def hasShortEscape (c : Char) : Bool := ['\x08', '\x0c', '\n', '\r', '\t'].contains c

/-- A character of a quoted text, as it is read from its written form. -/
def Piece.ofChar (c : Char) : Piece :=
  if c.toNat < 0x20 && !hasShortEscape c then .unit c.toNat else .char c

theorem hexValue?_hexDigit (n : Nat) : hexValue? (hexDigit n) = some (n % 16) := by
  have hall : ∀ m : Fin 16, hexValue? ((Nat.toDigits 16 m.val).headD '0') = some m.val := by decide
  exact hall ⟨n % 16, Nat.mod_lt n (by decide)⟩

namespace Lexing

/-- A written character is read as its piece. -/
theorem run_escapeChar (ps : List Piece) (c : Char) (rest : List Char) :
    (Lexing.quote ps .plain).run (escapeChar c ++ rest) =
      (Lexing.quote (ps ++ [Piece.ofChar c]) .plain).run rest := by
  by_cases hshort : hasShortEscape c = true
  · have hc : c = '\x08' ∨ c = '\x0c' ∨ c = '\n' ∨ c = '\r' ∨ c = '\t' := by
      simpa [hasShortEscape] using hshort
    rcases hc with rfl | rfl | rfl | rfl | rfl <;> rfl
  by_cases hquote : c = '"' ∨ c = '\\'
  · rcases hquote with rfl | rfl <;> rfl
  obtain ⟨hq, hb⟩ := not_or.1 hquote
  have hnone : c ≠ '\x08' ∧ c ≠ '\x0c' ∧ c ≠ '\n' ∧ c ≠ '\r' ∧ c ≠ '\t' := by
    simpa [hasShortEscape] using hshort
  obtain ⟨hback, hfeed, hline, hreturn, htab⟩ := hnone
  by_cases hcontrol : c.toNat < 0x20
  · -- four hexadecimal digits, of which the first two are zero
    have hescape : escapeChar c =
        ['\\', 'u', '0', '0', hexDigit (c.toNat / 16), hexDigit c.toNat] := by
      simp [escapeChar, hq, hb, hback, hfeed, hline, hreturn, htab, hcontrol]
    have hpiece : Piece.ofChar c = .unit c.toNat := by simp [Piece.ofChar, hcontrol, hshort]
    have hvalue : c.toNat / 16 % 16 * 16 + c.toNat % 16 = c.toNat := by omega
    have hzero : hexValue? '0' = some 0 := rfl
    rw [hescape, hpiece]
    simp [run_cons, step, stepQuote, hexValue?_hexDigit, hzero, hvalue]
  · have hescape : escapeChar c = [c] := by
      simp [escapeChar, hq, hb, hback, hfeed, hline, hreturn, htab, hcontrol]
    have hpiece : Piece.ofChar c = .char c := by simp [Piece.ofChar, hcontrol]
    rw [hescape, hpiece]
    simp [run_cons, step, stepQuote, hq, hb, hcontrol]

theorem run_escaped (ps : List Piece) (cs : List Char) (rest : List Char) :
    (Lexing.quote ps .plain).run (cs.flatMap escapeChar ++ '"' :: rest) =
      .text (ps ++ cs.map Piece.ofChar) :: Lexing.between.run rest := by
  induction cs generalizing ps with
  | nil =>
    rw [List.map_nil, List.append_nil]
    rfl
  | cons c cs ih => rw [List.flatMap_cons, List.append_assoc, run_escapeChar, ih]; simp

/-- A quoted text is read as one token, whatever follows. -/
theorem run_quoted (cs rest : List Char) :
    Lexing.between.run (quoted cs ++ rest) =
      .text (cs.map Piece.ofChar) :: Lexing.between.run rest := by
  have hbody := run_escaped [] cs rest
  have hopen : Lexing.between.run ('"' :: (cs.flatMap escapeChar ++ '"' :: rest)) =
      (Lexing.quote [] .plain).run (cs.flatMap escapeChar ++ '"' :: rest) := rfl
  rw [quoted, List.cons_append, List.append_assoc, List.singleton_append, hopen, hbody,
    List.nil_append]

end Lexing

/-- A unit that is no surrogate spells a character. -/
theorem joinPieces_unit {n : Nat} (hlow : isLowSurrogate n = false)
    (hhigh : isHighSurrogate n = false) (ps : List Piece) :
    joinPieces (.unit n :: ps) = (joinPieces ps).map (Char.ofNat n :: ·) := by
  rw [joinPieces.eq_def]
  simp [hlow, hhigh]

/-- The pieces of the characters of a text spell the text. -/
theorem joinPieces_ofChar (cs : List Char) : joinPieces (cs.map Piece.ofChar) = some cs := by
  induction cs with
  | nil => rfl
  | cons c cs ih =>
    rw [List.map_cons, Piece.ofChar]
    split
    · rename_i hc
      -- a control character is no surrogate
      have hlt : c.toNat < 0x20 := by
        rw [Bool.and_eq_true, decide_eq_true_eq] at hc
        exact hc.1
      have hlow : isLowSurrogate c.toNat = false := by simp [isLowSurrogate]; omega
      have hhigh : isHighSurrogate c.toNat = false := by simp [isHighSurrogate]; omega
      rw [joinPieces_unit hlow hhigh, ih, Char.ofNat_toNat]
      rfl
    · simp [joinPieces, ih]

end QueryLoom.Json
