import QueryLoom.Assistant.Reply
import QueryLoom.Proofs.Assistant.Parts

/-!
# Replies deliver their actions

1. `Reply.Wraps` lists the ways in which the text of a reply may be wrapped. The body cut out of a
   wrapped text in braces is that text, whatever stands inside its braces (`Reply.body_carried`).
2. `Reply.Encodes` relates an action and a text to the members that hold them. These are found in
   any order (`Reply.Encodes.decodes`).
3. So an action that was read, sent in a reply, is the action of the reply, and the reply's text is
   the text sent (`Reply.parse_delivers`).
-/

namespace QueryLoom

open Json

/-! ## Blanks around a text -/

namespace Text

theorem trimStart_append {before : List Char} (h : ∀ c ∈ before, isBlank c) (cs : List Char) :
    trimStart (before ++ cs) = trimStart cs :=
  List.dropWhile_append_of_pos h

theorem trimEnd_append {after : List Char} (h : ∀ c ∈ after, isBlank c) (cs : List Char) :
    trimEnd (cs ++ after) = trimEnd cs := by
  rw [trimEnd, trimEnd, List.reverse_append,
    List.dropWhile_append_of_pos fun c hc => h c (List.mem_reverse.1 hc)]

/-- Whether no blank is taken from a text: none at its start whatever follows, and none at its end
whatever stands before. -/
structure IsTight (cs : List Char) : Prop where
  start : ∀ rest, trimStart (cs ++ rest) = cs ++ rest
  finish : ∀ front, trimEnd (front ++ cs) = front ++ cs

theorem isTight_of_ends {first last : Char} (hfirst : isBlank first = false)
    (hlast : isBlank last = false) (inside : List Char) :
    IsTight (first :: (inside ++ [last])) where
  start := by
    intro rest
    exact List.dropWhile_cons_of_neg (by simp [hfirst])
  finish := by
    intro front
    rw [← List.cons_append, ← List.append_assoc, trimEnd, List.reverse_append,
      List.reverse_singleton, List.singleton_append, List.dropWhile_cons_of_neg (by simp [hlast]),
      List.reverse_cons, List.reverse_reverse]

/-- What stands between two texts does not matter. -/
theorem IsTight.between {a b : List Char} (ha : IsTight a) (hb : IsTight b) (inside : List Char) :
    IsTight (a ++ (inside ++ b)) where
  start := by
    intro rest
    rw [List.append_assoc, ha.start]
  finish := by
    intro front
    rw [← List.append_assoc a, ← List.append_assoc, hb.finish]

theorem IsTight.trim_around {cs before after : List Char} (h : IsTight cs)
    (hbefore : ∀ c ∈ before, isBlank c) (hafter : ∀ c ∈ after, isBlank c) :
    trim (before ++ (cs ++ after)) = cs := by
  have hend : trimEnd cs = cs := h.finish []
  rw [trim, trimStart_append hbefore, h.start, trimEnd_append hafter, hend]

theorem IsTight.trim_eq {cs : List Char} (h : IsTight cs) : trim cs = cs := by
  have htrim := h.trim_around (List.forall_mem_nil _) (List.forall_mem_nil _)
  rwa [List.nil_append, List.append_nil] at htrim

end Text

namespace Reply

open Text

/-! ## Wrapped texts -/

/-- Whether a text stands in braces. -/
def IsBraced (cs : List Char) : Prop := ∃ inside, cs = '{' :: (inside ++ ['}'])

/-- The ways to wrap a text: not at all, or in a fence that may say that JSON stands in it, with
blanks between the text and the marks of the fence. -/
inductive Wraps (cs : List Char) : List Char → Prop where
  | bare : Wraps cs cs
  | fenced {language before after : List Char} : language = [] ∨ language = ['j', 's', 'o', 'n'] →
    (∀ c ∈ before, isBlank c) → (∀ c ∈ after, isBlank c) →
      Wraps cs (fence ++ (language ++ (before ++ (cs ++ after)) ++ fence))

/-- Whether a content is a text, wrapped in one of the ways, with blanks around the whole. -/
def Carries (content cs : List Char) : Prop :=
  ∃ before wrapped after, Wraps cs wrapped ∧ (∀ c ∈ before, isBlank c) ∧
    (∀ c ∈ after, isBlank c) ∧ content = before ++ (wrapped ++ after)

theorem IsBraced.isTight {cs : List Char} (h : IsBraced cs) : IsTight cs := by
  obtain ⟨inside, rfl⟩ := h
  exact isTight_of_ends (by decide) (by decide) inside

theorem isTight_fence : IsTight fence := isTight_of_ends (by decide) (by decide) ['`']

theorem Wraps.isTight {cs wrapped : List Char} (h : Wraps cs wrapped) (hcs : IsBraced cs) :
    IsTight wrapped := by
  cases h with
  | bare => exact hcs.isTight
  | fenced => exact isTight_fence.between isTight_fence _

theorem dropFront?_append (front cs : List Char) : dropFront? front (front ++ cs) = some cs := by
  simp [dropFront?]

theorem dropFront?_of_ne {c d : Char} (h : c ≠ d) (front cs : List Char) :
    dropFront? (c :: front) (d :: cs) = none := by
  simp [dropFront?, h]

theorem dropBack?_append (back cs : List Char) : dropBack? back (cs ++ back) = some cs := by
  simp [dropBack?]

/-- The word that says what stands in a fence is left out. Where there is none, a blank or a brace
follows, with which the word does not begin. -/
theorem dropFront?_language {language before cs : List Char}
    (hlanguage : language = [] ∨ language = ['j', 's', 'o', 'n'])
    (hbefore : ∀ c ∈ before, isBlank c) (hcs : IsBraced cs) (rest : List Char) :
    (dropFront? ['j', 's', 'o', 'n'] (language ++ (before ++ (cs ++ rest)))).getD
      (language ++ (before ++ (cs ++ rest))) = before ++ (cs ++ rest) := by
  obtain ⟨inside, rfl⟩ := hcs
  rcases hlanguage with rfl | rfl
  · -- the first character is the brace or a blank
    cases before with
    | nil =>
      show (dropFront? _ ('{' :: _)).getD _ = _
      rw [dropFront?_of_ne (by decide)]
      rfl
    | cons b bs =>
      have hb : 'j' ≠ b := by
        rintro rfl
        exact absurd (hbefore _ List.mem_cons_self) (by decide)
      show (dropFront? _ (b :: _)).getD _ = _
      rw [dropFront?_of_ne hb]
      rfl
  · rw [dropFront?_append, Option.getD_some]

/-- A text in a fence is what stands in the fence. The fence is taken off at the two ends only, so
that fences inside the text do not matter. -/
theorem fenced?_fence {language before cs after : List Char}
    (hlanguage : language = [] ∨ language = ['j', 's', 'o', 'n'])
    (hbefore : ∀ c ∈ before, isBlank c) (hafter : ∀ c ∈ after, isBlank c) (hcs : IsBraced cs) :
    fenced? (fence ++ (language ++ (before ++ (cs ++ after)) ++ fence)) = some cs := by
  have hassoc : language ++ (before ++ (cs ++ after)) ++ fence =
      language ++ (before ++ (cs ++ (after ++ fence))) := by
    simp only [List.append_assoc]
  have hstart : trimStart (before ++ (cs ++ (after ++ fence))) = cs ++ after ++ fence := by
    rw [trimStart_append hbefore, hcs.isTight.start, List.append_assoc]
  have hfinish : trimEnd (cs ++ after) = cs := by
    rw [trimEnd_append hafter]
    exact hcs.isTight.finish []
  rw [fenced?, dropFront?_append, hassoc]
  simp only [Option.bind_eq_bind, Option.bind_some]
  rw [dropFront?_language hlanguage hbefore hcs, hstart, dropBack?_append, Option.bind_some,
    hfinish]
  rfl

/-- The body of a content is the text in braces that it carries. -/
theorem body_carried {content cs : List Char} (hcs : IsBraced cs) (h : Carries content cs) :
    body content = cs := by
  obtain ⟨before, wrapped, after, hwraps, hbefore, hafter, rfl⟩ := h
  have hwhole := (hwraps.isTight hcs).trim_around hbefore hafter
  have htrim : trim cs = cs := hcs.isTight.trim_eq
  have hbraces := hcs
  obtain ⟨inside, hinside⟩ := hbraces
  cases hwraps with
  | bare =>
    -- a brace is no backtick, so there is no fence, whatever the text ends in
    have hnone : fenced? cs = none := by
      rw [hinside, fenced?, fence, dropFront?_of_ne (by decide)]
      rfl
    rw [body, hwhole, hnone, hinside]
    rfl
  | fenced hlanguage hinner houter =>
    rw [body, hwhole, fenced?_fence hlanguage hinner houter hcs, hinside]
    rw [hinside] at htrim
    simp [Option.filter, htrim]

/-! ## Members of a reply -/

/-- The members that a reply may have, with the command and the response given. -/
inductive IsMember (command : Json) (response : String) : String × Json → Prop where
  | thought (s : String) : IsMember command response ("thought", .text s)
  | confidence (v : Json) : IsMember command response ("confidence", v)
  | command : IsMember command response ("command", command)
  | response : IsMember command response ("response", .text response)

/-- Whether members hold an action and a response, in any order, and a thought and a confidence if
one likes. -/
structure Encodes (a : Action) (response : String) (ms : List (String × Json)) : Prop where
  nodup : (Entries.keys ms).Nodup
  isMember : ∀ m ∈ ms, IsMember a.toJson response m
  command : "command" ∈ Entries.keys ms
  response : "response" ∈ Entries.keys ms

/-- Members put into a reply one after the other: the command and the response are set where they
stand, the others change nothing. -/
theorem ofMembers_eq {command : Json} (hnull : command ≠ .null) {response : String} {e : Ending}
    (he : e.break? = none) {ms : List (String × Json)} (hnodup : (Entries.keys ms).Nodup)
    (hms : ∀ m ∈ ms, IsMember command response m) {seen : List String}
    (hseen : ∀ k ∈ Entries.keys ms, seen.contains k = false) (m : Members) :
    Members.record.ofMembers seen m (memberDrafts e ms) e =
      .ok
        { command := if "command" ∈ Entries.keys ms then some command else m.command
          response := if "response" ∈ Entries.keys ms then some response else m.response } := by
  induction ms generalizing seen m with
  | nil =>
    rw [memberDrafts, Record.ofMembers, atEnd_of_break? he]
    rfl
  | cons p ms ih =>
    obtain ⟨k, v⟩ := p
    have hkeys : Entries.keys ((k, v) :: ms) = k :: Entries.keys ms := rfl
    rw [hkeys, List.nodup_cons] at hnodup
    rw [hkeys, List.forall_mem_cons] at hseen
    rw [List.forall_mem_cons] at hms
    obtain ⟨hnew, hnodup⟩ := hnodup
    obtain ⟨hfirst, hseen⟩ := hseen
    obtain ⟨hp, hms⟩ := hms
    have hseen' : ∀ l ∈ Entries.keys ms, (k :: seen).contains l = false := by
      intro l hl
      have hne : l ≠ k := by
        rintro rfl
        exact hnew hl
      rw [List.contains_cons, hseen l hl, beq_false_of_ne hne]
      rfl
    have hrest := ih hnodup hms hseen'
    rw [hkeys]
    -- what the first member sets is set for good: its key does not come again
    cases hp with
    | thought s =>
      rw [memberDrafts, Record.ofMembers_cons rfl hfirst]
      exact (hrest m).trans (by simp)
    | confidence v =>
      obtain ⟨o, ho⟩ : ∃ o, Decoder.optional Decoder.any (v.draft e) = .ok o := by
        by_cases hv : v = .null
        · exact ⟨none, by rw [hv]; rfl⟩
        · exact ⟨some v, (decodes_any v).optional hv e he⟩
      rw [memberDrafts, Record.ofMembers_cons rfl hfirst]
      show ((Decoder.optional Decoder.any _).map _ >>= _) = _
      rw [ho]
      exact (hrest m).trans (by simp)
    | command =>
      have hcommand : Decoder.optional Decoder.any (command.draft e) = .ok (some command) :=
        (decodes_any command).optional hnull e he
      rw [memberDrafts, Record.ofMembers_cons rfl hfirst]
      show ((Decoder.optional Decoder.any _).map _ >>= _) = _
      rw [hcommand]
      exact (hrest { m with command := some command }).trans (by simp [hnew])
    | response =>
      rw [memberDrafts, Record.ofMembers_cons rfl hfirst]
      exact (hrest { m with response := some response }).trans (by simp [hnew])

theorem Encodes.decodes {a : Action} {response : String} {ms : List (String × Json)}
    (h : Encodes a response ms) :
    Decodes Members.record.decoder (.object ms) ⟨some a.toJson, some response⟩ := by
  intro e he
  have hnull : a.toJson ≠ .null := by
    rw [Action.toJson]
    nofun
  have hmembers := ofMembers_eq hnull he h.nodup h.isMember (fun _ _ => List.contains_nil) {}
  rw [if_pos h.command, if_pos h.response] at hmembers
  exact hmembers

/-! ## Delivery -/

/-- The command of a reply is the action that it encodes. -/
theorem actionOf?_toJson {a : Action} (hread : a.IsRead) (hexact : a.IsExact) :
    actionOf? a.toJson = some a := by
  have hlast : a.toJson.lastWins = a.toJson := Action.settled hread
  rw [actionOf?, hlast, (Action.decodes hread hexact).value]
  rfl

/-- The written forms of a reply's object stand in braces. -/
theorem isBraced_compact (ms : List (String × Json)) : IsBraced (Json.object ms).compact.toList :=
  ⟨_, by rw [compact, String.toList_ofList, write]⟩

theorem isBraced_indented (ms : List (String × Json)) :
    IsBraced (Json.object ms).indented.toList := by
  rw [indented, String.toList_ofList, writeLines, block]
  split
  · exact ⟨[], rfl⟩
  · exact ⟨_, rfl⟩

theorem Encodes.fits {a : Action} (ha : a.IsExact) {response : String} {ms : List (String × Json)}
    (h : Encodes a response ms)
    (hconfidence : ∀ v, ("confidence", v) ∈ ms → ∃ n : Number, n.IsInteger ∧ v = .number n) :
    Fits 6 (.object ms) := by
  refine fits_object_iff.2 fun m hm => ?_
  cases h.isMember m hm with
  | thought s => exact .text
  | confidence v =>
    obtain ⟨n, hn, rfl⟩ := hconfidence v hm
    exact .number hn
  | command => exact Action.fits ha
  | response => exact .text

/-- A content whose body is a reply's object. -/
theorem parse_of_body {content s : String} (hbody : body content.toList = s.toList) {m : Members}
    (hs : Members.record.decoder.text s = .ok m) :
    parse content =
      ⟨m.command.bind actionOf?, (m.response.filter (· ≠ "")).getD missingText⟩ := by
  unfold parse
  simp only [hbody, String.ofList_toList, hs]

/-- An action that was decoded from JSON and compares with no real number is delivered. Its encoding
and a response that is not empty stand in an object, next to a thought and a confidence or not, in
any order. Every content that carries a text of that object, bare or in a fence, blanks around it or
not, is a reply with just that action and just that response. The response and all other texts in
the object may hold what they like, braces and fences included. Both written forms of the object are
such texts if the confidence is an integer. -/
theorem parse_delivers {a : Action} (hread : ∃ d, Action.decoder d = .ok a) (hexact : a.IsExact)
    {response : String} (hresponse : response ≠ "") {ms : List (String × Json)}
    (hms : Encodes a response ms) :
    (∀ s : String, Decoder.any.text s = .ok (.object ms) → IsBraced s.toList →
      ∀ content : String, Carries content.toList s.toList →
        parse content = ⟨some a, response⟩) ∧
    ((∀ v, ("confidence", v) ∈ ms → ∃ n : Number, n.IsInteger ∧ v = .number n) →
      ∀ s ∈ [(Json.object ms).compact, (Json.object ms).indented],
        Decoder.any.text s = .ok (.object ms) ∧ IsBraced s.toList) := by
  constructor
  · intro s hs hbraced content hcontent
    obtain ⟨d, hd⟩ := hread
    have ha : a.IsRead := Action.ensures_isRead d a hd
    have hdecoded := hms.decodes.text hs
    have hresponse' : (some response).filter (· ≠ "") = some response := by
      simp [Option.filter, hresponse]
    rw [parse_of_body (body_carried hbraced hcontent) hdecoded, Option.bind_some,
      actionOf?_toJson ha hexact, hresponse', Option.getD_some]
  · intro hconfidence s hs
    have hfits := hms.fits hexact hconfidence
    simp only [List.mem_cons, List.not_mem_nil, or_false] at hs
    rcases hs with rfl | rfl
    · exact ⟨(decodes_any _).text_compact hfits (by decide), isBraced_compact ms⟩
    · exact ⟨(decodes_any _).text_indented hfits (by decide), isBraced_indented ms⟩

/-- A model whose tables stand in an order of their own, in an indented object inside a fence, with
blanks beyond the plain ones. The response is itself a fenced reply, and a field holds the end of a
fence. -/
theorem parse_delivers_fenced :
    let model : Model := ⟨[("b", ["x", "\x7d\n```"]), ("a", [])]⟩
    let a : Action := .proposeModel { model, joins := [⟨"b", "a", .left, ⟨"x", "y"⟩⟩] }
    let response := "```json\n\x7b\"command\": null\x7d\n```"
    let ms :=
      [("response", Json.text response), ("confidence", .number (.integer 7)),
        ("command", a.toJson), ("thought", .text "\x7b")]
    let s := (Json.object ms).indented
    let inside := ['j', 's', 'o', 'n'] ++ (['\u00a0', '\n'] ++ (s.toList ++ ['\u3000']))
    let content := String.ofList (['\u2003'] ++ (fence ++ (inside ++ fence) ++ ['\n', '\u0085']))
    ((∃ d, Action.decoder d = .ok a) ∧ a.IsExact ∧ response ≠ "" ∧ Encodes a response ms ∧
      Decoder.any.text s = .ok (.object ms) ∧ IsBraced s.toList ∧ Carries content.toList s.toList) ∧
      parse content = ⟨some a, response⟩ := by
  intro model a response ms s inside content
  have hread : a.IsRead := (by decide : ["b", "a"].Nodup)
  have hexact : a.IsExact := nofun
  have hdecoded : ∃ d, Action.decoder d = .ok a := ⟨_, (Action.decodes hread hexact).value⟩
  have hresponse : response ≠ "" := by decide
  have hms : Encodes a response ms :=
    { nodup := by decide
      isMember := by
        intro m hm
        simp only [ms, List.mem_cons, List.not_mem_nil, or_false] at hm
        rcases hm with rfl | rfl | rfl | rfl
        · exact .response
        · exact .confidence _
        · exact .command
        · exact .thought _
      command := by decide
      response := by decide }
  have hconfidence : ∀ v, ("confidence", v) ∈ ms → ∃ n : Number, n.IsInteger ∧ v = .number n := by
    intro v hv
    have hv : v = .number (.integer 7) := by simpa [ms] using hv
    exact ⟨.integer 7, by simp [Number.IsInteger], hv⟩
  have hcontent : Carries content.toList s.toList := by
    refine ⟨_, _, _, .fenced (.inr rfl) ?_ ?_, ?_, ?_, String.toList_ofList⟩ <;>
      exact List.all_eq_true.1 rfl
  obtain ⟨hdelivers, hwritten⟩ := parse_delivers hdecoded hexact hresponse hms
  obtain ⟨htext, hbraced⟩ := hwritten hconfidence s (List.mem_cons_of_mem _ List.mem_cons_self)
  exact ⟨⟨hdecoded, hexact, hresponse, hms, htext, hbraced, hcontent⟩,
    hdelivers s htext hbraced content hcontent⟩

end Reply

end QueryLoom
