import QueryLoom.Proofs.Json.Decoding

/-!
# Text after a value

1. **Tokens**: `Lexing.given` and `Lexing.after` split what the machine gives out at a place of the
   text (`Lexing.run_append`). Past a closing brace it stands between two tokens, or a fault comes.
   A character that is no blank leads to a token (`Lexing.run_ne_nil`).
2. **Breaks**: a draft on which the building halts ends in a break (`Draft.IsBroken`), and no record
   is decoded from such a draft (`Record.decoder_broken`).
3. **Nothing may follow**: if a record is decoded from a text that ends in a closing brace, the
   tokens of the text end exactly where its value does. So no record is decoded from the same text
   with anything but blanks after it (`Record.text_trailing`).
-/

namespace QueryLoom.Json

/-! ## Tokens -/

/-- Whether the text breaks at a token. -/
def Token.IsFault (t : Token) : Prop := ∃ inside read skip, t = .fault inside read skip

namespace Lexing

/-- The state of the machine after a text. -/
def after (s : Lexing) : List Char → Lexing
  | [] => s
  | c :: cs => (s.step c).1.after cs

/-- What the machine has given out after a text. -/
def given (s : Lexing) : List Char → List Token
  | [] => []
  | c :: cs => (s.step c).2 ++ (s.step c).1.given cs

theorem run_append (s : Lexing) (cs ds : List Char) :
    s.run (cs ++ ds) = s.given cs ++ (s.after cs).run ds := by
  induction cs generalizing s with
  | nil => rfl
  | cons c cs ih => rw [List.cons_append, run_cons, ih, given, after, List.append_assoc]

theorem after_append (s : Lexing) (cs ds : List Char) :
    s.after (cs ++ ds) = (s.after cs).after ds := by
  induction cs generalizing s with
  | nil => rfl
  | cons c cs ih => exact ih _

/-- Whether the machine is inside a token. -/
def IsInside : Lexing → Prop
  | .between | .stopped => False
  | .word _ _ | .quote _ _ | .digits _ _ => True

/-- What a step comes to that reads more than a blank between two tokens: the machine is inside a
token, or it has given one out, and if it stops, that is a fault. -/
inductive Yields : Lexing × List Token → Prop where
  | inside {s : Lexing} : s.IsInside → Yields (s, [])
  | token {s : Lexing} (ts : List Token) (t : Token) : s ≠ .stopped → Yields (s, ts ++ [t])
  | fault (ts : List Token) {t : Token} : t.IsFault → Yields (.stopped, ts ++ [t])

theorem between_ne_stopped : Lexing.between ≠ .stopped := by
  rintro ⟨⟩

theorem IsInside.ne_stopped {s : Lexing} (h : s.IsInside) : s ≠ .stopped := by
  rintro rfl
  exact h

theorem yields_malformed (inside : Opening) : Yields (malformed inside) :=
  .fault [] ⟨inside, _, _, rfl⟩

theorem yields_brokenQuote (ps : List Piece) : Yields (brokenQuote ps) := .fault [] ⟨_, _, _, rfl⟩

theorem yields_ite {p : Prop} [Decidable p] {x y : Lexing × List Token} (hx : Yields x)
    (hy : Yields y) : Yields (if p then x else y) := by
  split
  · exact hx
  · exact hy

theorem yields_start {c : Char} (hc : isJsonBlank c = false) : Yields (start c) := by
  rw [start, if_neg (by simp [hc])]
  repeat' apply yields_ite
  all_goals
    first
      | exact .inside trivial
      | exact yields_malformed _
      | exact .token [] _ between_ne_stopped

/-- A token that ends before a character is given out first. -/
theorem yields_start_after (t : Token) (c : Char) : Yields ((start c).1, t :: (start c).2) := by
  cases hc : isJsonBlank c with
  | true =>
    rw [start, if_pos hc]
    exact .token [] t between_ne_stopped
  | false =>
    have hyields := yields_start hc
    generalize start c = next at hyields ⊢
    cases hyields with
    | inside hs => exact .token [] t hs.ne_stopped
    | token ts u hs => exact .token (t :: ts) u hs
    | fault ts hu => exact .fault (t :: ts) hu

theorem yields_stepQuote (ps : List Piece) (c : Char) (q : Quoting) :
    Yields (stepQuote ps c q) := by
  have hplain (q : Quoting) (ps : List Piece) : Yields (.quote ps q, []) := .inside trivial
  cases q with
  | plain =>
    exact yields_ite (.token [] _ between_ne_stopped)
      (yields_ite (hplain _ _) (yields_ite (yields_brokenQuote ps) (hplain _ _)))
  | escape =>
    rw [stepQuote]
    refine yields_ite (hplain _ _) ?_
    split
    · exact hplain _ _
    · exact yields_brokenQuote ps
  | hex value count =>
    rw [stepQuote]
    split
    · exact yields_ite (hplain _ _) (hplain _ _)
    · exact yields_ite (yields_brokenQuote ps) (hplain _ _)
  | badHex missing => exact yields_ite (yields_brokenQuote ps) (hplain _ _)

theorem yields_stepNumber (n : Numeral) (c : Char) (part : NumberPart) :
    Yields (stepNumber n c part) := by
  cases part
  all_goals
    rw [stepNumber]
    repeat' apply yields_ite
  all_goals
    first
      | exact .inside trivial
      | exact yields_malformed _
      | exact yields_start_after _ c

/-- What one character can do, unless it is a blank between two tokens. -/
theorem yields_step {s : Lexing} (hs : s ≠ .stopped) {c : Char}
    (hc : s = .between → isJsonBlank c = false) : Yields (s.step c) := by
  cases s with
  | between => exact yields_start (hc rfl)
  | word rest t =>
    cases rest with
    | nil => exact yields_start_after t c
    | cons d rest =>
      generalize hnext : Lexing.step (.word (d :: rest) t) c = next
      simp only [step] at hnext
      split_ifs at hnext <;> subst hnext
      · exact .token [] t between_ne_stopped
      · exact .inside trivial
      · exact yields_malformed _
  | quote ps q => exact yields_stepQuote ps c q
  | digits n part => exact yields_stepNumber n c part
  | stopped => exact absurd rfl hs

theorem step_blank {c : Char} (hc : isJsonBlank c = true) :
    Lexing.between.step c = (.between, []) := by
  rw [step, start, if_pos hc]

/-- A step leads to a token, at the latest where the one is complete that the machine is inside. -/
theorem Yields.append_run_ne_nil {next : Lexing × List Token} (h : Yields next) {cs : List Char}
    (hinside : next.1.IsInside → next.1.run cs ≠ []) : next.2 ++ next.1.run cs ≠ [] := by
  cases h with
  | inside hs => exact hinside hs
  | token ts t hs => simp
  | fault ts ht => simp

theorem run_ne_nil_of_isInside {s : Lexing} (hs : s.IsInside) (cs : List Char) :
    s.run cs ≠ [] := by
  induction cs generalizing s with
  | nil =>
    cases s with
    | between => cases hs
    | stopped => cases hs
    | word rest t => nofun
    | quote ps q => nofun
    | digits n part => cases part <;> nofun
  | cons c cs ih =>
    have hyields : Yields (s.step c) :=
      yields_step hs.ne_stopped (by rintro rfl; cases hs)
    exact hyields.append_run_ne_nil ih

/-- From between two tokens a character that is no blank leads to a token. -/
theorem run_ne_nil {cs : List Char} (h : ∃ c ∈ cs, isJsonBlank c = false) :
    Lexing.between.run cs ≠ [] := by
  induction cs with
  | nil =>
    obtain ⟨c, hc, -⟩ := h
    cases hc
  | cons c cs ih =>
    cases hc : isJsonBlank c with
    | true =>
      rw [run_cons, step_blank hc]
      refine ih ?_
      obtain ⟨d, hd, hblank⟩ := h
      rcases List.mem_cons.1 hd with rfl | hd
      · rw [hc] at hblank
        cases hblank
      · exact ⟨d, hd, hblank⟩
    | false => exact (yields_start hc).append_run_ne_nil fun hs => run_ne_nil_of_isInside hs cs

theorem given_stopped (cs : List Char) : Lexing.stopped.given cs = [] := by
  induction cs with
  | nil => rfl
  | cons c cs ih => exact ih

theorem Yields.exists_fault {next : Lexing × List Token} (h : Yields next)
    (hstopped : next.1 = .stopped) : ∃ ts t, Token.IsFault t ∧ next.2 = ts ++ [t] := by
  cases h with
  | inside hs => exact absurd hstopped hs.ne_stopped
  | token ts t hs => exact absurd hstopped hs
  | fault ts ht => exact ⟨ts, _, ht, rfl⟩

/-- A machine that has stopped gave out a fault last. -/
theorem given_of_after_stopped {s : Lexing} (hs : s ≠ .stopped) {cs : List Char}
    (h : s.after cs = .stopped) : ∃ ts t, Token.IsFault t ∧ s.given cs = ts ++ [t] := by
  induction cs generalizing s with
  | nil => exact absurd h hs
  | cons c cs ih =>
    rw [after] at h
    rw [given]
    by_cases hnext : (s.step c).1 = .stopped
    · -- here the machine stops
      have hyields : Yields (s.step c) := by
        refine yields_step hs ?_
        rintro rfl
        by_contra hc
        rw [step_blank (by simpa using hc)] at hnext
        cases hnext
      obtain ⟨ts, t, ht, hstep⟩ := hyields.exists_fault hnext
      exact ⟨ts, t, ht, by rw [hstep, hnext, given_stopped, List.append_nil]⟩
    · obtain ⟨ts, t, ht, hgiven⟩ := ih hnext h
      exact ⟨(s.step c).2 ++ ts, t, ht, by rw [hgiven, List.append_assoc]⟩

/-- A closing brace is no part of a number. -/
theorem step_brace_ne_digits (s : Lexing) (n : Numeral) (part : NumberPart) :
    (s.step '}').1 ≠ .digits n part := by
  cases s with
  | between => rintro ⟨⟩
  | word rest t =>
    cases rest with
    | nil => rintro ⟨⟩
    | cons d rest =>
      simp only [step]
      split_ifs <;> rintro ⟨⟩
  | quote ps q =>
    cases q with
    | plain => rintro ⟨⟩
    | escape => rintro ⟨⟩
    | hex value count =>
      have hhex : hexValue? '}' = none := by decide
      simp only [step, stepQuote, hhex]
      split_ifs <;> rintro ⟨⟩
    | badHex missing =>
      simp only [step, stepQuote]
      split_ifs <;> rintro ⟨⟩
  | digits m part' => cases part' <;> rintro ⟨⟩
  | stopped => rintro ⟨⟩

/-- What the end of a text after a closing brace gives out. -/
theorem finish_step_brace (s : Lexing) :
    (s.step '}').1 = .between ∨ (s.step '}').1 = .stopped ∨
      ∃ t, Token.IsFault t ∧ (s.step '}').1.finish = [t] := by
  cases hnext : (s.step '}').1 with
  | between => exact .inl rfl
  | stopped => exact .inr (.inl rfl)
  | word rest t => exact .inr (.inr ⟨_, ⟨_, _, _, rfl⟩, rfl⟩)
  | quote ps q => exact .inr (.inr ⟨_, ⟨_, _, _, rfl⟩, rfl⟩)
  | digits n part => exact absurd hnext (s.step_brace_ne_digits n part)

/-- The tokens of a text that ends in a closing brace: after the brace the machine stands between
two tokens, or the last token is a fault. -/
theorem run_brace (s : Lexing) (hs : s ≠ .stopped) (cs : List Char) :
    s.after (cs ++ ['}']) = .between ∨
      ∃ ts t, Token.IsFault t ∧ s.run (cs ++ ['}']) = ts ++ [t] := by
  have hrun : s.run (cs ++ ['}']) = s.given (cs ++ ['}']) ++ (s.after (cs ++ ['}'])).finish := by
    have happend := s.run_append (cs ++ ['}']) []
    rwa [List.append_nil] at happend
  have hlast : s.after (cs ++ ['}']) = ((s.after cs).step '}').1 := s.after_append cs ['}']
  rcases (s.after cs).finish_step_brace with hbetween | hstopped | ⟨t, ht, hfinish⟩
  · exact .inl (hlast.trans hbetween)
  · rw [← hlast] at hstopped
    obtain ⟨ts, t, ht, hgiven⟩ := given_of_after_stopped hs hstopped
    rw [hstopped, hgiven] at hrun
    exact .inr ⟨ts, t, ht, hrun.trans (List.append_nil _)⟩
  · rw [hlast, hfinish] at hrun
    exact .inr ⟨_, t, ht, hrun⟩

end Lexing

/-! ## Breaks -/

/-- Whether a draft ends in a break. -/
inductive Draft.IsBroken : Draft → Prop where
  | array (items : List Draft) (b : Break) : IsBroken (.array items (.broken b))
  | object (members : List (Label × Draft)) (b : Break) : IsBroken (.object members (.broken b))
  | unreadable (opening : Opening) (read : Break) (skip : Option Break) :
    IsBroken (.unreadable opening read skip)

theorem Draft.IsBroken.atDepth {d : Draft} (h : d.IsBroken) (depth : Nat) (opening : Opening)
    (skip : Option Break) : (d.atDepth depth opening skip).IsBroken := by
  rw [Draft.atDepth]
  split
  · exact .unreadable _ _ _
  · exact h

theorem isBroken_abandon (b : Break) {last : Draft} (h : last.IsBroken) (frames : List Frame) :
    (abandon b last frames).IsBroken := by
  induction frames generalizing last with
  | nil => exact h
  | cons f frames ih =>
    cases f with
    | array items => exact ih ((Draft.IsBroken.array _ b).atDepth _ _ _)
    | object members => exact ih ((Draft.IsBroken.object _ b).atDepth _ _ _)
    | member members key => exact ih ((Draft.IsBroken.object _ b).atDepth _ _ _)

/-- An open bracket ends in a break, whatever stands last in it. -/
theorem isBroken_abandon_cons (b : Break) (last : Draft) (f : Frame) (frames : List Frame) :
    (abandon b last (f :: frames)).IsBroken := by
  cases f with
  | array items => exact isBroken_abandon b ((Draft.IsBroken.array _ b).atDepth _ _ _) _
  | object members => exact isBroken_abandon b ((Draft.IsBroken.object _ b).atDepth _ _ _) _
  | member members key => exact isBroken_abandon b ((Draft.IsBroken.object _ b).atDepth _ _ _) _

theorem isBroken_abandonOpen (b : Break) (frames : List Frame) :
    (abandonOpen b frames).IsBroken := by
  cases frames with
  | nil => exact .unreadable _ _ _
  | cons f frames =>
    cases f with
    | array items => exact isBroken_abandon b ((Draft.IsBroken.array _ b).atDepth _ _ _) _
    | object members => exact isBroken_abandon b ((Draft.IsBroken.object _ b).atDepth _ _ _) _
    | member members key => exact isBroken_abandon b ((Draft.IsBroken.object _ b).atDepth _ _ _) _

theorem isBroken_abandonKey (read skip : Break) (found : Draft) (frames : List Frame) :
    (abandonKey read skip found frames).IsBroken := by
  rw [abandonKey.eq_def]
  split
  · exact isBroken_abandon_cons _ _ _ _
  · exact isBroken_abandonOpen _ _

namespace Step

/-- Whether a step that halts does so with a break. -/
def Breaks : Step → Prop
  | .halt d => d.IsBroken
  | .next _ _ | .done _ => True

theorem breaks_give (d : Draft) (frames : List Frame) : (give d frames).Breaks := by
  cases frames with
  | nil => trivial
  | cons f frames => cases f <;> trivial

theorem breaks_onValue (frames : List Frame) (t : Token) : (onValue frames t).Breaks := by
  cases t with
  | openArray => trivial
  | openObject => trivial
  | null => exact breaks_give _ _
  | bool b => exact breaks_give _ _
  | number n => exact breaks_give _ _
  | text ps => exact breaks_give _ _
  | _ => exact isBroken_abandon _ (.unreadable _ _ _) _

theorem breaks_onKey (frames : List Frame) (t : Token) : (onKey frames t).Breaks := by
  rw [onKey.eq_def]
  split
  · trivial
  · exact isBroken_abandonKey _ _ _ _
  · exact isBroken_abandonKey _ _ _ _

theorem breaks_onSeparator (frames : List Frame) (t : Token) : (onSeparator frames t).Breaks := by
  rw [onSeparator.eq_def]
  split
  · exact breaks_give _ _
  · exact breaks_give _ _
  · trivial
  · trivial
  · exact isBroken_abandonOpen _ _

theorem breaks_take (frames : List Frame) (awaiting : Awaiting) (t : Token) :
    (take frames awaiting t).Breaks := by
  cases awaiting with
  | value => exact breaks_onValue frames t
  | firstItem =>
    rw [take]
    split
    · exact breaks_onSeparator frames t
    · exact breaks_onValue frames t
  | key => exact breaks_onKey frames t
  | firstKey =>
    rw [take]
    split
    · exact breaks_onSeparator frames t
    · exact breaks_onKey frames t
  | colon =>
    rw [take]
    split
    · trivial
    · exact isBroken_abandonOpen _ _
  | separator => exact breaks_onSeparator frames t

/-- A fault stops the building. -/
theorem take_fault (frames : List Frame) (awaiting : Awaiting) {t : Token} (ht : t.IsFault) :
    ∃ d, take frames awaiting t = .halt d := by
  obtain ⟨inside, read, skip, rfl⟩ := ht
  have hkey : ∃ d, onKey frames (.fault inside read skip) = .halt d := by
    generalize hfault : Token.fault inside read skip = t
    rw [onKey.eq_def]
    split
    · cases hfault
    · exact ⟨_, rfl⟩
    · exact ⟨_, rfl⟩
  cases awaiting with
  | value => exact ⟨_, rfl⟩
  | firstItem => exact ⟨_, rfl⟩
  | key => exact hkey
  | firstKey => exact hkey
  | colon => exact ⟨_, rfl⟩
  | separator =>
    refine ⟨abandonOpen .malformed frames, ?_⟩
    rw [take, onSeparator.eq_def]
    split <;> first | rfl | contradiction

theorem isBroken_finish (frames : List Frame) (awaiting : Awaiting) :
    (finish frames awaiting).IsBroken := by
  cases awaiting with
  | value => exact isBroken_abandon _ (.unreadable _ _ _) _
  | key => exact isBroken_abandonKey _ _ _ _
  | _ => exact isBroken_abandonOpen _ _

end Step

/-! ## Records -/

section

variable {α : Type} {r : Record α}

theorem Record.ofMembers_broken {seen : List String} {a : α} {ms : List (Label × Draft)} {b : Break}
    (x : α) : r.ofMembers seen a ms (.broken b) ≠ .ok x := by
  induction ms generalizing seen a with
  | nil => nofun
  | cons m ms ih =>
    obtain ⟨l, d⟩ := m
    intro h
    obtain ⟨k, -, hrest⟩ := ok_of_bind h
    split at hrest
    · split at hrest
      · cases hrest
      · exact ih hrest
    · split at hrest
      · cases hrest
      · obtain ⟨a', -, hrest⟩ := ok_of_bind hrest
        exact ih hrest

theorem Record.ofItems_broken {index : Nat} {a : α} {fields : List (Field α)} {ds : List Draft}
    {b : Break} (x : α) : r.ofItems index a fields ds (.broken b) ≠ .ok x := by
  induction fields generalizing index a ds with
  | nil => cases ds <;> nofun
  | cons f fields ih =>
    cases ds with
    | nil => nofun
    | cons d ds =>
      intro h
      obtain ⟨a', -, hrest⟩ := ok_of_bind h
      exact ih hrest

/-- No record is decoded from a draft that ends in a break. -/
theorem Record.decoder_broken {d : Draft} (h : d.IsBroken) (a : α) : r.decoder d ≠ .ok a := by
  cases h with
  | array items b => exact ofItems_broken a
  | object members b => exact ofMembers_broken a
  | unreadable opening read skip => cases opening <;> nofun

/-- What a list of tokens comes to if more may follow: the building halts with a break, or the value
ends at one of the tokens, or there is no end of it yet. -/
theorem build_append_cases (frames : List Frame) (awaiting : Awaiting) (ts : List Token) :
    (∃ d : Draft, d.IsBroken ∧ ∀ us, Document.build frames awaiting (ts ++ us) = ⟨d, false⟩) ∨
    (∃ d before t rest, ts = before ++ t :: rest ∧ ¬ t.IsFault ∧
      ∀ us, Document.build frames awaiting (ts ++ us) = ⟨d, !(rest ++ us).isEmpty⟩) ∨
    ∃ frames' awaiting', ∀ us,
      Document.build frames awaiting (ts ++ us) = .build frames' awaiting' us := by
  induction ts generalizing frames awaiting with
  | nil => exact .inr (.inr ⟨frames, awaiting, fun us => rfl⟩)
  | cons t ts ih =>
    have hstep (us : List Token) : Document.build frames awaiting (t :: ts ++ us) =
        (Step.take frames awaiting t).resume (ts ++ us) := Document.build_cons _ _ _ _
    have hbreaks := Step.breaks_take frames awaiting t
    cases htake : Step.take frames awaiting t with
    | next frames' awaiting' =>
      rw [htake] at hstep
      rcases ih frames' awaiting' with
        ⟨d, hd, hbuild⟩ | ⟨d, before, u, rest, rfl, hu, hbuild⟩ | hopen
      · exact .inl ⟨d, hd, fun us => (hstep us).trans (hbuild us)⟩
      · exact .inr (.inl ⟨d, t :: before, u, rest, rfl, hu,
          fun us => (hstep us).trans (hbuild us)⟩)
      · obtain ⟨frames'', awaiting'', hbuild⟩ := hopen
        exact .inr (.inr ⟨frames'', awaiting'', fun us => (hstep us).trans (hbuild us)⟩)
    | done d =>
      rw [htake] at hstep
      refine .inr (.inl ⟨d, [], t, ts, rfl, ?_, hstep⟩)
      intro hfault
      obtain ⟨d', hhalt⟩ := Step.take_fault frames awaiting hfault
      rw [htake] at hhalt
      cases hhalt
    | halt d =>
      rw [htake] at hstep hbreaks
      exact .inl ⟨d, hbreaks, hstep⟩

/-- Tokens from which a record is decoded: the value ends exactly with the last of them, which is no
fault. -/
theorem Record.build_of_document {ts : List Token} {a : α}
    (h : r.decoder.document (.ofTokens ts) = .ok a) :
    ∃ d before t, ts = before ++ [t] ∧ ¬ t.IsFault ∧ r.decoder d = .ok a ∧
      ∀ us, Document.ofTokens (ts ++ us) = ⟨d, !us.isEmpty⟩ := by
  obtain ⟨b, hb, hmore⟩ := ok_of_bind h
  rcases build_append_cases [] .value ts with
    ⟨d, hd, hbuild⟩ | ⟨d, before, t, rest, rfl, ht, hbuild⟩ | hopen
  · -- a break
    have hdoc := hbuild []
    rw [List.append_nil] at hdoc
    rw [Document.ofTokens, hdoc] at hb
    exact absurd hb (decoder_broken hd b)
  · have hdoc := hbuild []
    rw [List.append_nil, List.append_nil] at hdoc
    rw [Document.ofTokens, hdoc] at hb hmore
    cases rest with
    | nil =>
      cases hmore
      exact ⟨d, before, t, rfl, ht, hb, hbuild⟩
    | cons u rest => cases hmore
  · -- no end yet
    obtain ⟨frames, awaiting, hbuild⟩ := hopen
    have hdoc := hbuild []
    rw [List.append_nil] at hdoc
    rw [Document.ofTokens, hdoc] at hb
    exact absurd hb (decoder_broken (Step.isBroken_finish frames awaiting) b)

/-- A record is decoded from a text that ends in a closing brace. With more than blanks after it the
text breaks. -/
theorem Record.text_trailing {s rest : String} {a : α} (h : r.decoder.text s = .ok a)
    (hbrace : ∃ cs, s.toList = cs ++ ['}']) (hrest : ∃ c ∈ rest.toList, isJsonBlank c = false) :
    r.decoder.text (s ++ rest) = fail .malformed := by
  obtain ⟨cs, hcs⟩ := hbrace
  rw [Decoder.text, Document.ofText] at h ⊢
  obtain ⟨d, before, t, hts, ht, hd, hbuild⟩ := build_of_document h
  have hbetween : Lexing.between.after s.toList = .between := by
    rcases Lexing.run_brace .between Lexing.between_ne_stopped cs with hbetween | ⟨us, u, hu, hrun⟩
    · rw [hcs, hbetween]
    · -- the last token is no fault
      rw [Token.scan, hcs, hrun] at hts
      obtain ⟨-, hlast⟩ := List.append_inj' hts rfl
      cases hlast
      exact absurd hu ht
  have hgiven : Token.scan s.toList = Lexing.between.given s.toList := by
    have happend := Lexing.between.run_append s.toList []
    rw [List.append_nil, hbetween] at happend
    exact happend.trans (List.append_nil _)
  have hscan : Token.scan (s ++ rest).toList = Token.scan s.toList ++ Token.scan rest.toList := by
    rw [String.toList_append, hgiven, Token.scan, Lexing.run_append, hbetween]
    rfl
  have hmore : (Token.scan rest.toList).isEmpty = false := by
    rw [List.isEmpty_eq_false_iff]
    exact Lexing.run_ne_nil hrest
  rw [hscan, hbuild, hmore, Decoder.document, hd]
  rfl

end

end QueryLoom.Json
