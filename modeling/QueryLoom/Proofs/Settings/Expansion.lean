import QueryLoom.Proofs.Text.Pattern
import QueryLoom.Settings.Expansion

/-!
# Expanding references

1. **Segments**: a text is split from left to right into literal characters and references
   (`Splits`). There is always one way to do so (`exists_splits`) and only one (`Splits.unique`).
2. **Matches**: at the beginning of a text the pattern of references matches just the segment there,
   if that is a reference (`Segment.Begins.first?_eq`).
3. **Going through the matches**: with some characters passed over since the last match, going on
   gives what comes in place of the segments that are left (`Splits.replaceFrom_eq`).
4. **Main statement**: `expand_splits`.
-/

namespace QueryLoom

open Text Text.Pattern

/-! ## Segments -/

/-- A part of a text: a literal character, or a reference to a variable with or without braces. -/
inductive Segment where
  | char (c : Char)
  | braced (name : List Char)
  | plain (name : List Char)
deriving DecidableEq, Repr

/-- Whether a text after `$` makes a reference of it: a name in braces, or a character of a name. -/
def Refers (rest : List Char) : Prop :=
  (∃ name more, rest = '{' :: (name ++ '}' :: more)) ∨ ∃ c ∈ rest.head?, isNameChar c = true

namespace Segment

/-- The segment as it stands in a text. -/
def source : Segment → List Char
  | .char c => [c]
  | .braced name => '$' :: '{' :: (name ++ ['}'])
  | .plain name => '$' :: name

theorem length_source_pos (segment : Segment) : 0 < segment.source.length := by
  cases segment <;> simp [source]

/-- The variable that is referred to. -/
def name? : Segment → Option String
  | .char _ => none
  | .braced name | .plain name => some (String.ofList name)

/-- Whether a segment is what a text begins with, if `rest` comes after it. A literal `$` makes no
reference with the rest, and a name without braces is as long as it can be. -/
def Begins (rest : List Char) : Segment → Prop
  | .char c => c = '$' → ¬ Refers rest
  | .braced name => '}' ∉ name
  | .plain name =>
    name ≠ [] ∧ (∀ c ∈ name, isNameChar c = true) ∧ ∀ c ∈ rest.head?, isNameChar c = false

end Segment

/-- Whether segments are a text split from left to right. -/
inductive Splits : List Char → List Segment → Prop where
  | nil : Splits [] []
  | cons {segment : Segment} {rest : List Char} {ss : List Segment} :
    segment.Begins rest → Splits rest ss → Splits (segment.source ++ rest) (segment :: ss)

theorem Splits.flatMap_source {cs : List Char} {ss : List Segment} (h : Splits cs ss) :
    ss.flatMap Segment.source = cs := by
  induction h with
  | nil => rfl
  | cons _ _ ih => rw [List.flatMap_cons, ih]

/-- Every text can be split. -/
theorem exists_splits (cs : List Char) : ∃ ss, Splits cs ss := by
  induction hlength : cs.length using Nat.strongRecOn generalizing cs with
  | ind n ih =>
    have hrest (segment : Segment) (rest : List Char) (hbegins : segment.Begins rest)
        (hcs : cs = segment.source ++ rest) : ∃ ss, Splits cs ss := by
      have hpos := segment.length_source_pos
      have hshorter : rest.length < n := by
        rw [← hlength, hcs, List.length_append]
        omega
      obtain ⟨ss, hss⟩ := ih rest.length hshorter rest rfl
      exact ⟨segment :: ss, hcs ▸ .cons hbegins hss⟩
    cases cs with
    | nil => exact ⟨[], .nil⟩
    | cons c cs =>
      by_cases hrefers : c = '$' ∧ Refers cs
      · obtain ⟨rfl, ⟨before, after, rfl⟩ | ⟨d, hd, hname⟩⟩ := hrefers
        · -- the name goes up to the first closing brace
          have hmem : '}' ∈ before ++ '}' :: after := by simp
          obtain ⟨name, rest, heq, hnot⟩ := List.eq_append_cons_of_mem hmem
          refine hrest (.braced name) rest hnot ?_
          simp [Segment.source, heq]
        · obtain ⟨ds, rfl⟩ := List.head?_eq_some_iff.1 hd
          refine hrest (.plain ((d :: ds).takeWhile isNameChar)) ((d :: ds).dropWhile isNameChar)
            ⟨by simp [hname], List.all_eq_true.1 List.all_takeWhile, ?_⟩ ?_
          · intro c hc
            have hnot := List.head?_dropWhile_not isNameChar (d :: ds)
            rw [Option.mem_def.1 hc] at hnot
            simpa using hnot
          · rw [Segment.source, List.cons_append, List.takeWhile_append_dropWhile]
      · exact hrest (.char c) cs (fun hc hr => hrefers ⟨hc, hr⟩) rfl

/-! ## Matches -/

namespace Segment

/-- What stands in which group of a match. -/
def groups? : Segment → Option (List (Nat × List Char))
  | .char _ => none
  | .braced name => some [(1, name)]
  | .plain name => some [(2, name)]

end Segment

theorem ways_bracedReference (cs : List Char) :
    bracedReference.ways ('$' :: '{' :: cs) =
      ((one (· = '}')).ways (cs.dropWhile (· ≠ '}'))).map fun v =>
        ⟨'$' :: '{' :: (cs.takeWhile (· ≠ '}') ++ v.taken),
          (1, cs.takeWhile (· ≠ '}')) :: v.groups, v.rest⟩ := by
  have hother : ∀ c : Char, decide (c ≠ '}') = true → decide (c = '}') = false := by simp
  rw [bracedReference, ways_one_seq (by decide), ways_one_seq (by decide),
    ways_group_run_seq 1 hother, List.map_map, List.map_map]
  rfl

theorem ways_bracedReference_of_ne {cs : List Char} (h : cs.head? ≠ some '{') :
    bracedReference.ways ('$' :: cs) = [] := by
  rw [bracedReference, ways_one_seq (by decide), ways_one_seq_of_not, List.map_nil]
  rintro c hc
  rw [decide_eq_false_iff_not]
  rintro rfl
  exact h hc

theorem ne_brace {cs : List Char} (h : '}' ∉ cs) : ∀ c ∈ cs, decide (c ≠ '}') = true := by
  intro c hc
  rw [decide_eq_true_iff]
  rintro rfl
  exact h hc

theorem ways_bracedReference_of_open {cs : List Char} (h : '}' ∉ cs) :
    bracedReference.ways ('$' :: '{' :: cs) = [] := by
  have hopen : ∀ c ∈ ([] : List Char).head?, decide (c ≠ '}') = false := nofun
  obtain ⟨-, hdrop⟩ := run_append (ne_brace h) hopen
  rw [List.append_nil] at hdrop
  rw [ways_bracedReference, hdrop]
  rfl

/-- A name in braces is matched up to the first closing one. -/
theorem first?_braced {name : List Char} (h : '}' ∉ name) (rest : List Char) :
    referencePattern.first? ('$' :: '{' :: (name ++ '}' :: rest)) =
      some ⟨'$' :: '{' :: (name ++ ['}']), [(1, name)], rest⟩ := by
  have hclosed : ∀ c ∈ ('}' :: rest).head?, decide (c ≠ '}') = false := by simp
  obtain ⟨htake, hdrop⟩ := run_append (ne_brace h) hclosed
  rw [first?, referencePattern, ways, ways_bracedReference, htake, hdrop,
    ways_one_cons (by decide)]
  rfl

/-- Without a name in braces, what stands after `$` is matched as far as it can be in a name. -/
theorem first?_of_not_braced {cs : List Char}
    (h : ∀ name more, cs ≠ '{' :: (name ++ '}' :: more)) :
    referencePattern.first? ('$' :: cs) =
      if cs.takeWhile isNameChar = [] then none
      else some ⟨'$' :: cs.takeWhile isNameChar, [(2, cs.takeWhile isNameChar)],
        cs.dropWhile isNameChar⟩ := by
  -- there is no opening brace, or none that is closed
  have hbraced : bracedReference.ways ('$' :: cs) = [] := by
    by_cases hhead : cs.head? = some '{'
    · obtain ⟨ds, rfl⟩ := List.head?_eq_some_iff.1 hhead
      apply ways_bracedReference_of_open
      intro hmem
      obtain ⟨name, more, rfl⟩ := List.append_of_mem hmem
      exact h name more rfl
    · exact ways_bracedReference_of_ne hhead
  rw [first?, referencePattern, ways, hbraced, List.nil_append, plainReference,
    ways_one_seq (by decide), List.head?_map, head?_ways_group_run]
  split <;> rfl

theorem first?_of_ne {c : Char} (h : c ≠ '$') (cs : List Char) :
    referencePattern.first? (c :: cs) = none := by
  have hc : ∀ d ∈ (c :: cs).head?, decide (d = '$') = false := by simpa using h
  rw [first?, referencePattern, ways, bracedReference, plainReference, ways_one_seq_of_not hc,
    ways_one_seq_of_not hc]
  rfl

/-- At the beginning of a text the pattern matches exactly a reference. -/
theorem Segment.Begins.first?_eq {segment : Segment} {rest : List Char} (h : segment.Begins rest) :
    referencePattern.first? (segment.source ++ rest) =
      segment.groups?.map fun groups => ⟨segment.source, groups, rest⟩ := by
  cases segment with
  | char c =>
    by_cases hc : c = '$'
    · obtain ⟨hbraced, hplain⟩ := not_or.1 (h hc)
      have hnone : rest.takeWhile isNameChar = [] := by
        cases rest with
        | nil => rfl
        | cons d rest =>
          have hd : isNameChar d = false := by simpa using hplain
          simp [hd]
      rw [hc, source, List.singleton_append, first?_of_not_braced fun name more hrest =>
        hbraced ⟨name, more, hrest⟩, if_pos hnone]
      rfl
    · exact first?_of_ne hc rest
  | braced name =>
    have hfirst := first?_braced h rest
    simpa [source, groups?] using hfirst
  | plain name =>
    obtain ⟨hne, hname, hrest⟩ := h
    obtain ⟨htake, hdrop⟩ := run_append hname hrest
    -- a name without braces does not begin with one
    have hbrace : ∀ before more, name ++ rest ≠ '{' :: (before ++ '}' :: more) := by
      intro before more heq
      obtain ⟨c, name, rfl⟩ := List.exists_cons_of_ne_nil hne
      obtain ⟨rfl, -⟩ := List.cons.inj heq
      exact absurd (hname '{' List.mem_cons_self) (by decide)
    rw [source, List.cons_append, first?_of_not_braced hbrace, htake, hdrop, if_neg hne]
    rfl

/-- Two segments that one text begins with are the same. -/
theorem Segment.Begins.eq_of_append {segment segment' : Segment} {rest rest' : List Char}
    (h : segment.Begins rest) (h' : segment'.Begins rest')
    (heq : segment.source ++ rest = segment'.source ++ rest') :
    segment = segment' ∧ rest = rest' := by
  -- the match tells which reference it is, and only a literal character has none
  have hfirst := h.first?_eq
  rw [heq, h'.first?_eq] at hfirst
  cases segment with
  | char c =>
    cases segment' with
    | char c' =>
      obtain ⟨rfl, rfl⟩ := List.cons.inj heq
      exact ⟨rfl, rfl⟩
    | braced _ | plain _ => cases hfirst
  | braced name =>
    cases segment' with
    | braced name' =>
      simp only [groups?, Option.map_some, Option.some.injEq, Way.mk.injEq, List.cons.injEq,
        Prod.mk.injEq] at hfirst
      obtain ⟨-, ⟨⟨-, rfl⟩, -⟩, rfl⟩ := hfirst
      exact ⟨rfl, rfl⟩
    | char _ | plain _ => cases hfirst
  | plain name =>
    cases segment' with
    | plain name' =>
      cases hfirst
      exact ⟨rfl, rfl⟩
    | char _ | braced _ => cases hfirst

theorem Splits.eq_nil_or_cons {cs : List Char} {ss : List Segment} (h : Splits cs ss) :
    (cs = [] ∧ ss = []) ∨ ∃ segment rest ss', cs = Segment.source segment ++ rest ∧
      ss = segment :: ss' ∧ segment.Begins rest ∧ Splits rest ss' := by
  cases h with
  | nil => exact .inl ⟨rfl, rfl⟩
  | cons hbegins hrest => exact .inr ⟨_, _, _, rfl, rfl, hbegins, hrest⟩

/-- A text is split in one way only. -/
theorem Splits.unique {cs : List Char} {ss ss' : List Segment} (h : Splits cs ss)
    (h' : Splits cs ss') : ss' = ss := by
  induction h generalizing ss' with
  | nil =>
    obtain ⟨-, rfl⟩ | ⟨segment, rest, _, heq, -⟩ := h'.eq_nil_or_cons
    · rfl
    · -- a segment takes at least one character
      have hpos := segment.length_source_pos
      rw [(List.append_eq_nil_iff.1 heq.symm).1] at hpos
      cases hpos
  | @cons segment rest ss hbegins _ ih =>
    obtain ⟨hnil, -⟩ | ⟨segment', rest', ss', heq, rfl, hbegins', hrest'⟩ := h'.eq_nil_or_cons
    · have hpos := segment.length_source_pos
      rw [(List.append_eq_nil_iff.1 hnil).1] at hpos
      cases hpos
    · obtain ⟨rfl, rfl⟩ := hbegins.eq_of_append hbegins' heq
      rw [ih hrest']

/-! ## Going through the matches -/

namespace Segment

/-- What comes in place of a segment. -/
def value (env : Environment) (segment : Segment) : List Char :=
  match segment.name? with
  | none => segment.source
  | some name => ((env name).getD "").toList

end Segment

/-- The variables that segments refer to, in order. -/
def referredNames (ss : List Segment) : List String := ss.filterMap Segment.name?

/-- The values in place of the segments, or the first variable that is not set. -/
def outcome (env : Environment) (ss : List Segment) : Except String (List Char) :=
  match (referredNames ss).find? fun name => (env name).isNone with
  | some name => .error name
  | none => .ok (ss.flatMap (Segment.value env))

theorem outcome_eq_ok_iff {env : Environment} {ss : List Segment} {cs : List Char} :
    outcome env ss = .ok cs ↔
      (∀ name ∈ referredNames ss, (env name).isSome = true) ∧
        cs = ss.flatMap (Segment.value env) := by
  rw [outcome]
  cases hfind : (referredNames ss).find? fun name => (env name).isNone with
  | none =>
    have hset : ∀ name ∈ referredNames ss, (env name).isSome = true := by
      simpa [Option.isSome_iff_ne_none] using List.find?_eq_none.1 hfind
    constructor
    · intro h
      exact ⟨hset, (Except.ok.inj h).symm⟩
    · rintro ⟨-, rfl⟩
      rfl
  | some name =>
    have hmem := List.mem_of_find?_eq_some hfind
    have hunset := List.find?_some hfind
    constructor
    · nofun
    · rintro ⟨hset, -⟩
      have hname := hset name hmem
      rw [Option.isNone_iff_eq_none] at hunset
      rw [hunset] at hname
      cases hname

theorem outcome_eq_error_iff {env : Environment} {ss : List Segment} {name : String} :
    outcome env ss = .error name ↔ env name = none ∧
      ∃ before after, referredNames ss = before ++ name :: after ∧
        ∀ n ∈ before, (env n).isSome = true := by
  have hfind : outcome env ss = .error name ↔
      (referredNames ss).find? (fun n => (env n).isNone) = some name := by
    rw [outcome]
    cases (referredNames ss).find? fun n => (env n).isNone <;> simp
  rw [hfind, List.find?_eq_some_iff_append]
  simp

theorem outcome_char (env : Environment) (c : Char) (ss : List Segment) :
    outcome env (.char c :: ss) = (outcome env ss).map (c :: ·) := by
  have hnames : referredNames (.char c :: ss) = referredNames ss := rfl
  rw [outcome, outcome, hnames]
  cases (referredNames ss).find? fun name => (env name).isNone <;> rfl

theorem outcome_reference {env : Environment} {segment : Segment} {name : String}
    (h : segment.name? = some name) (ss : List Segment) :
    outcome env (segment :: ss) =
      (env.lookup name).bind fun value => (outcome env ss).map (value ++ ·) := by
  have hnames : referredNames (segment :: ss) = name :: referredNames ss :=
    List.filterMap_cons_some h
  rw [outcome, outcome, hnames, List.find?_cons, Environment.lookup]
  cases hvalue : env name with
  | none => rfl
  | some v =>
    have hsegment : segment.value env = v.toList := by simp [Segment.value, h, hvalue]
    cases (referredNames ss).find? fun name => (env name).isNone with
    | none => simp [Except.bind, Except.map, hsegment]
    | some _ => rfl

theorem Segment.referredName_of_groups {segment : Segment} {groups : List (Nat × List Char)}
    (h : segment.groups? = some groups) (place : Nat) :
    ∃ name, segment.name? = some name ∧
      referredName ⟨place, place + segment.source.length, groups⟩ = name := by
  cases segment with
  | char c => cases h
  | braced name | plain name =>
    cases h
    exact ⟨String.ofList name, rfl, rfl⟩

/-- The matches in a text that begins with a segment: the segment, if it is a reference, and those
in the rest. -/
theorem occurrencesFrom_source {segment : Segment} {rest : List Char} (h : segment.Begins rest)
    (place : Nat) :
    referencePattern.occurrencesFrom place (segment.source ++ rest) =
      (segment.groups?.map fun groups =>
        (⟨place, place + segment.source.length, groups⟩ : Occurrence)).toList ++
      referencePattern.occurrencesFrom (place + segment.source.length) rest := by
  have hfirst := h.first?_eq
  obtain ⟨c, cs, hcs⟩ := List.exists_cons_of_length_pos segment.length_source_pos
  rw [hcs, List.cons_append] at hfirst ⊢
  rw [occurrencesFrom, hfirst]
  cases segment with
  | char d =>
    cases hcs
    rfl
  | braced name | plain name =>
    obtain ⟨rfl, rfl⟩ := List.cons.inj hcs
    simp [Segment.groups?]

/-- Going on through the matches in what is left of a text gives what comes in place of its
segments, after the result so far and the characters passed over since the last match. -/
theorem Splits.replaceFrom_eq {cs : List Char} {ss : List Segment} (h : Splits cs ss)
    (env : Environment) {text : List Char} {last place : Nat} {passed : List Char}
    (hrest : text.drop last = passed ++ cs) (hplace : place = last + passed.length)
    (result : List Char) :
    replaceFrom env text last result (referencePattern.occurrencesFrom place cs) =
      (outcome env ss).map (result ++ passed ++ ·) := by
  induction h generalizing last place passed result with
  | nil =>
    rw [occurrencesFrom, replaceFrom, hrest]
    simp [outcome, referredNames, Except.map]
  | @cons segment rest ss hbegins _ ih =>
    rw [occurrencesFrom_source hbegins]
    cases hgroups : segment.groups? with
    | none =>
      -- a literal character is passed over
      cases segment with
      | char c =>
        have hrest' : text.drop last = (passed ++ [c]) ++ rest := by
          rw [hrest, List.append_assoc]
          rfl
        have hplace' : place + 1 = last + (passed ++ [c]).length := by
          rw [hplace, List.length_append]
          rfl
        rw [outcome_char, Segment.source, List.length_singleton, Option.map_none,
          Option.toList_none, List.nil_append, ih hrest' hplace']
        cases outcome env ss <;> simp [Except.map]
      | braced _ | plain _ => cases hgroups
    | some groups =>
      -- a match: what was passed over is done with, and so is the match
      obtain ⟨name, hname, hreferred⟩ := Segment.referredName_of_groups hgroups place
      have hpassed : (text.drop last).take (place - last) = passed := by
        rw [hrest, hplace, Nat.add_sub_cancel_left, List.take_left]
      have hrest' : text.drop (place + segment.source.length) = [] ++ rest := by
        rw [hplace, ← List.drop_drop, ← List.drop_drop, hrest, List.drop_left, List.drop_left,
          List.nil_append]
      rw [outcome_reference hname, Option.map_some, Option.toList_some, List.singleton_append,
        replaceFrom, hreferred, hpassed]
      cases env.lookup name with
      | error _ => rfl
      | ok value =>
        have hgo := ih hrest' rfl (result ++ passed ++ value)
        rw [List.append_nil] at hgo
        refine hgo.trans ?_
        cases outcome env ss <;> simp [Except.map, Except.bind]

theorem expand_eq (env : Environment) {s : String} {ss : List Segment} (h : Splits s.toList ss) :
    expand env s = (outcome env ss).map String.ofList := by
  have hrest : s.toList.drop 0 = [] ++ s.toList := rfl
  have hplace : 0 = 0 + ([] : List Char).length := rfl
  rw [expand, occurrences, h.replaceFrom_eq env hrest hplace []]
  cases outcome env ss <;> rfl

/-- Without `$` all characters are literal. -/
theorem splits_chars {cs : List Char} (h : '$' ∉ cs) : Splits cs (cs.map .char) := by
  induction cs with
  | nil => exact .nil
  | cons c cs ih =>
    obtain ⟨hc, hcs⟩ := not_or.1 (mt List.mem_cons.2 h)
    have hbegins : (Segment.char c).Begins cs := fun heq => absurd heq.symm hc
    exact .cons hbegins (ih hcs)

theorem outcome_chars (env : Environment) (cs : List Char) :
    outcome env (cs.map .char) = .ok cs := by
  induction cs with
  | nil => rfl
  | cons c cs ih =>
    rw [List.map_cons, outcome_char, ih]
    rfl

/-! ## Main statement -/

/-- A text is split from left to right in exactly one way. Its expansion succeeds exactly if every
variable referred to is set, and is then the text with the value of its variable in place of each
reference and nothing else changed; otherwise it fails with the first variable that is not set.
Without `$` a text is left as it is. -/
theorem expand_splits (env : Environment) (s : String) :
    ∃ ss, Splits s.toList ss ∧ (∀ ss', Splits s.toList ss' → ss' = ss) ∧
      ss.flatMap Segment.source = s.toList ∧
      ((∃ t, expand env s = .ok t) ↔ ∀ name ∈ referredNames ss, (env name).isSome = true) ∧
      (∀ t, expand env s = .ok t → t.toList = ss.flatMap (Segment.value env)) ∧
      (∀ name, expand env s = .error name ↔ env name = none ∧
        ∃ before after, referredNames ss = before ++ name :: after ∧
          ∀ n ∈ before, (env n).isSome = true) ∧
      ('$' ∉ s.toList → expand env s = .ok s) := by
  obtain ⟨ss, hss⟩ := exists_splits s.toList
  have hok (t : String) : expand env s = .ok t ↔ outcome env ss = .ok t.toList := by
    rw [expand_eq env hss]
    cases outcome env ss with
    | error _ => simp [Except.map]
    | ok cs =>
      rw [Except.map, Except.ok.injEq, Except.ok.injEq, ← String.toList_inj, String.toList_ofList]
  refine ⟨ss, hss, fun _ => hss.unique, hss.flatMap_source, ?succeeds, ?result, ?fails, ?plain⟩
  case succeeds =>
    constructor
    · rintro ⟨t, ht⟩
      exact (outcome_eq_ok_iff.1 ((hok t).1 ht)).1
    · intro hset
      refine ⟨String.ofList (ss.flatMap (Segment.value env)), (hok _).2 ?_⟩
      exact outcome_eq_ok_iff.2 ⟨hset, String.toList_ofList⟩
  case result =>
    intro t ht
    exact (outcome_eq_ok_iff.1 ((hok t).1 ht)).2
  case fails =>
    intro name
    rw [← outcome_eq_error_iff, expand_eq env hss]
    cases outcome env ss <;> simp [Except.map]
  case plain =>
    intro hnone
    rw [expand_eq env (splits_chars hnone), outcome_chars]
    exact congrArg Except.ok String.ofList_toList

end QueryLoom
