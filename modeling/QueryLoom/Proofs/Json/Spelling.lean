import QueryLoom.Proofs.Json.Lexing

/-!
# Numbers in JSON as they are spelled

1. **Grammar**: `Spells` relates the texts of numbers to their parts. The whole part has no zero
   before other digits; fraction and exponent may be absent, but have digits where they are not.
2. **Reading**: each part is read as it is spelled (`Lexing.run_exponentPart`,
   `Lexing.run_fractionPart`), and so is the number, whatever follows that does not continue it
   (`Spells.reads`).
-/

namespace QueryLoom.Json

open Decimal (IsDigits)
open Decimal.Layout (signed)

/-! ## Grammar -/

/-- Digits before the point. -/
inductive SpellsWhole : List Char → Prop where
  | zero : SpellsWhole ['0']
  | digits {d : Char} {ds : List Char} : d ≠ '0' → IsDigits (d :: ds) → SpellsWhole (d :: ds)

/-- The point with the digits after it. -/
inductive SpellsFraction : List Char → List Char → Prop where
  | absent : SpellsFraction [] []
  | present {ds : List Char} : IsDigits ds → SpellsFraction ('.' :: ds) ds

/-- The mark of an exponent with its sign and its digits. -/
inductive SpellsExponent : List Char → Option (Bool × List Char) → Prop where
  | absent : SpellsExponent [] none
  | unsigned {mark : Char} {ds : List Char} :
    mark ∈ ['e', 'E'] → IsDigits ds → SpellsExponent (mark :: ds) (some (false, ds))
  | signed {mark sign : Char} {ds : List Char} :
    mark ∈ ['e', 'E'] → sign ∈ ['+', '-'] → IsDigits ds →
      SpellsExponent (mark :: sign :: ds) (some (sign == '-', ds))

/-- A number with its parts. -/
inductive Spells : List Char → Numeral → Prop where
  | mk {negative : Bool} {whole fs fraction es : List Char} {exponent : Option (Bool × List Char)} :
    SpellsWhole whole → SpellsFraction fs fraction → SpellsExponent es exponent →
      Spells (signed negative (whole ++ (fs ++ es))) ⟨negative, whole, fraction, exponent⟩

/-! ## Reading -/

namespace Lexing

theorem foldl_addFraction (ds : List Char) (n : Numeral) :
    ds.foldl addFraction n = { n with fraction := n.fraction ++ ds } := by
  induction ds generalizing n with
  | nil => simp
  | cons d ds ih => simp [ih, addFraction]

theorem foldl_addExponent (ds : List Char) {n : Numeral} {negative : Bool} {es : List Char}
    (h : n.exponent = some (negative, es)) :
    ds.foldl addExponent n = { n with exponent := some (negative, es ++ ds) } := by
  induction ds generalizing n es with
  | nil =>
    rw [List.append_nil, ← h]
    rfl
  | cons d ds ih =>
    have hadd : addExponent n d = { n with exponent := some (negative, es ++ [d]) } := by
      simp [addExponent, h]
    rw [List.foldl_cons, hadd, ih rfl, List.append_assoc]
    rfl

theorem step_fraction (n : Numeral) (c : Char) (h : isDigit c = true) :
    (Lexing.digits n .fraction).step c = (.digits (addFraction n c) .fraction, []) := by
  simp [step, stepNumber, h]

theorem step_exponent (n : Numeral) (c : Char) (h : isDigit c = true) :
    (Lexing.digits n .exponent).step c = (.digits (addExponent n c) .exponent, []) := by
  simp [step, stepNumber, h]

theorem isDigit_head {d : Char} {ds : List Char} (h : IsDigits (d :: ds)) : isDigit d = true :=
  isDigit_iff.2 (h.2 d List.mem_cons_self)

variable {rest : List Char}

/-- The digits of an exponent, after its mark or its sign. -/
theorem run_exponentDigits {n : Numeral} {part : NumberPart} {negative : Bool}
    {d : Char} {ds : List Char} (hds : IsDigits (d :: ds))
    (hstep : (Lexing.digits n part).step d = (.digits (addExponent n d) .exponent, []))
    (hadd : (addExponent n d).exponent = some (negative, [d])) (hrest : EndsNumber rest) :
    (Lexing.digits n part).run (d :: ds ++ rest) =
      .number { n with exponent := some (negative, d :: ds) } :: Lexing.between.run rest := by
  have hothers : { addExponent n d with exponent := some (negative, d :: ds) } =
      { n with exponent := some (negative, d :: ds) } := by
    rw [addExponent]
    cases n.exponent <;> rfl
  rw [List.cons_append, run_cons, hstep, List.nil_append,
    run_foldl step_exponent (fun c hc => hds.2 c (List.mem_cons_of_mem _ hc)),
    foldl_addExponent ds hadd, List.singleton_append, run_ended rfl hrest, hothers]

theorem step_mark {part : NumberPart} (hpart : part = .zero ∨ part = .whole ∨ part = .fraction)
    {mark : Char} (h : mark ∈ ['e', 'E']) (n : Numeral) :
    (Lexing.digits n part).step mark = (.digits n .mark, []) := by
  have hmark : mark = 'e' ∨ mark = 'E' := by simpa using h
  rcases hpart with rfl | rfl | rfl <;> rcases hmark with rfl | rfl <;> rfl

theorem step_markDigit {n : Numeral} {d : Char} (h : isDigit d = true) :
    (Lexing.digits n .mark).step d = (.digits (addExponent n d) .exponent, []) := by
  have hne : ∀ c : Char, isDigit c = false → (d == c) = false := by
    intro c hc
    rw [beq_eq_false_iff_ne]
    rintro rfl
    rw [h] at hc
    cases hc
  simp [step, stepNumber, h, hne '+' rfl, hne '-' rfl]

/-- An exponent ends a number. -/
theorem run_exponentPart {n : Numeral} {part : NumberPart}
    (hpart : part = .zero ∨ part = .whole ∨ part = .fraction) (hn : n.exponent = none)
    {es : List Char} {exponent : Option (Bool × List Char)} (h : SpellsExponent es exponent)
    (hrest : EndsNumber rest) :
    (Lexing.digits n part).run (es ++ rest) =
      .number { n with exponent := exponent } :: Lexing.between.run rest := by
  cases h with
  | absent =>
    have hend : part.mayEnd = true := by rcases hpart with rfl | rfl | rfl <;> rfl
    rw [← hn]
    exact run_ended hend hrest
  | @unsigned mark ds hmark hds =>
    obtain _ | ⟨d, ds⟩ := ds
    · exact absurd rfl hds.1
    · have hadd : (addExponent n d).exponent = some (false, [d]) := by rw [addExponent, hn]
      rw [List.cons_append, run_cons, step_mark hpart hmark, List.nil_append]
      exact run_exponentDigits hds (step_markDigit (isDigit_head hds)) hadd hrest
  | @signed mark sign ds hmark hsign hds =>
    obtain _ | ⟨d, ds⟩ := ds
    · exact absurd rfl hds.1
    · have hsign' : (Lexing.digits n .mark).step sign =
          (.digits (signExponent n (sign == '-')) .markSign, []) := by
        have hsign : sign = '+' ∨ sign = '-' := by simpa using hsign
        rcases hsign with rfl | rfl <;> rfl
      have hdigit : (Lexing.digits (signExponent n (sign == '-')) .markSign).step d =
          (.digits (addExponent (signExponent n (sign == '-')) d) .exponent, []) := by
        simp [step, stepNumber, isDigit_head hds]
      rw [List.cons_append, run_cons, step_mark hpart hmark, List.nil_append, List.cons_append,
        run_cons, hsign', List.nil_append]
      exact run_exponentDigits hds hdigit rfl hrest

/-- A fraction, and an exponent after it. -/
theorem run_fractionPart {n : Numeral} {part : NumberPart} (hpart : part = .zero ∨ part = .whole)
    (hfraction : n.fraction = []) (hexponent : n.exponent = none) {fs fraction es : List Char}
    {exponent : Option (Bool × List Char)} (hfs : SpellsFraction fs fraction)
    (hes : SpellsExponent es exponent) (hrest : EndsNumber rest) :
    (Lexing.digits n part).run (fs ++ (es ++ rest)) =
      .number { n with fraction := fraction, exponent := exponent } :: Lexing.between.run rest := by
  cases hfs with
  | absent =>
    have hpart : part = .zero ∨ part = .whole ∨ part = .fraction := by
      rcases hpart with hpart | hpart <;> simp [hpart]
    have hall := run_exponentPart hpart hexponent hes hrest
    rw [hfraction] at hall
    exact hall
  | present hds =>
    obtain _ | ⟨d, ds⟩ := fraction
    · exact absurd rfl hds.1
    · have hpoint : (Lexing.digits n part).step '.' = (.digits n .point, []) := by
        rcases hpart with rfl | rfl <;> rfl
      have hdigit : (Lexing.digits n .point).step d =
          (.digits (addFraction n d) .fraction, []) := by
        simp [step, stepNumber, isDigit_head hds]
      have hadd : { addFraction n d with fraction := (addFraction n d).fraction ++ ds } =
          { n with fraction := d :: ds } := by
        rw [addFraction, hfraction]
        rfl
      rw [List.cons_append, run_cons, hpoint, List.nil_append, List.cons_append, run_cons, hdigit,
        List.nil_append, run_foldl step_fraction fun c hc => hds.2 c (List.mem_cons_of_mem _ hc),
        foldl_addFraction, hadd]
      exact run_exponentPart (n := { n with fraction := d :: ds }) (.inr (.inr rfl)) hexponent hes
        hrest

/-- The whole part, with or without a sign before it. -/
theorem exists_run_whole (negative : Bool) {whole : List Char} (h : SpellsWhole whole)
    (cs : List Char) :
    ∃ part, (part = .zero ∨ part = .whole) ∧
      Lexing.between.run (signed negative (whole ++ cs)) =
        (Lexing.digits { negative := negative, whole := whole } part).run cs := by
  have hminus : Lexing.between.step '-' = (.digits { negative := true } .sign, []) := rfl
  cases h with
  | zero =>
    refine ⟨.zero, .inl rfl, ?_⟩
    cases negative <;> rfl
  | @digits d ds hd hds =>
    refine ⟨.whole, .inr rfl, ?_⟩
    have hothers := fun c hc => hds.2 c (List.mem_cons_of_mem d hc)
    cases negative with
    | false =>
      have hstart : Lexing.between.step d = (.digits { whole := [d] } .whole, []) :=
        start_digit (hds.2 d List.mem_cons_self) hd
      rw [signed, if_neg (by decide), List.cons_append, run_cons, hstart, List.nil_append,
        run_digits hothers]
      rfl
    | true =>
      have hstart : (Lexing.digits { negative := true } .sign).step d =
          (.digits { negative := true, whole := [d] } .whole, []) := by
        simp [step, stepNumber, hd, isDigit_head hds, addWhole]
      rw [signed, if_pos rfl, run_cons, hminus, List.nil_append, List.cons_append, run_cons, hstart,
        List.nil_append, run_digits hothers]
      rfl

end Lexing

theorem Spells.reads {cs : List Char} {n : Numeral} (h : Spells cs n) : Reads cs [.number n] := by
  intro rest hrest
  obtain ⟨hwhole, hfraction, hexponent⟩ := h
  rename_i negative whole fs fraction es exponent
  have hassoc : signed negative (whole ++ (fs ++ es)) ++ rest =
      signed negative (whole ++ (fs ++ (es ++ rest))) := by
    cases negative <;> simp [signed]
  obtain ⟨part, hpart, hrun⟩ := Lexing.exists_run_whole negative hwhole (fs ++ (es ++ rest))
  rw [hassoc, hrun, Lexing.run_fractionPart hpart rfl rfl hfraction hexponent hrest]
  rfl

end QueryLoom.Json
