import Mathlib.Data.List.DropRight
import QueryLoom.Proofs.Assistant.Delivery
import QueryLoom.Proofs.Json.Trailing

/-!
# Replies between other texts

1. **Ends of a text**: taking blanks or a mark off the ends of a text that has an object in it
   touches only what stands around the object.
2. **What stands around**: `Reply.surroundings` is what is left before and after an object when
   blanks and a fence have been taken off. The object is cut out unless something is left after it
   and nothing before it (`Reply.body_surrounded`).
3. **Prose after an object**: `Reply.Trails` says when that is so. Then the text is no reply with an
   action, otherwise it is the reply that the object is (`Reply.parse_surrounded`).
-/

namespace QueryLoom

open Json

/-! ## Ends of a text -/

namespace Text

theorem trimStart_eq_nil_iff {cs : List Char} : trimStart cs = [] ↔ ∀ c ∈ cs, isBlank c :=
  List.dropWhile_eq_nil_iff

theorem trimEnd_eq_nil_iff {cs : List Char} : trimEnd cs = [] ↔ ∀ c ∈ cs, isBlank c :=
  List.rdropWhile_eq_nil_iff

theorem trimStart_trimStart (cs : List Char) : trimStart (trimStart cs) = trimStart cs :=
  List.dropWhile_idempotent _ _

theorem trimEnd_trimEnd (cs : List Char) : trimEnd (trimEnd cs) = trimEnd cs :=
  List.rdropWhile_idempotent _ _

/-- The blanks that are taken off. -/
theorem exists_append_trimStart (cs : List Char) :
    ∃ before, (∀ c ∈ before, isBlank c) ∧ cs = before ++ trimStart cs :=
  ⟨cs.takeWhile isBlank, fun _ hc => List.mem_takeWhile_imp hc,
    List.takeWhile_append_dropWhile.symm⟩

theorem exists_trimEnd_append (cs : List Char) :
    ∃ after, (∀ c ∈ after, isBlank c) ∧ cs = trimEnd cs ++ after := by
  refine ⟨cs.rtakeWhile isBlank, fun _ hc => List.mem_rtakeWhile_imp hc, ?_⟩
  exact List.rdropWhile_append_rtakeWhile.symm

/-- Blanks are taken off before a text that has none at its start. -/
theorem IsTight.trimStart_append {cs : List Char} (h : IsTight cs) (front rest : List Char) :
    trimStart (front ++ (cs ++ rest)) = trimStart front ++ (cs ++ rest) := by
  rw [trimStart, List.dropWhile_append]
  split
  · next hempty =>
    have hfront : trimStart front = [] := List.isEmpty_iff.1 hempty
    rw [hfront]
    exact h.start rest
  · rfl

theorem IsTight.trimEnd_append {cs : List Char} (h : IsTight cs) (front rest : List Char) :
    trimEnd (front ++ (cs ++ rest)) = front ++ (cs ++ trimEnd rest) := by
  rw [trimEnd, List.reverse_append, List.reverse_append, List.append_assoc, List.dropWhile_append]
  split
  · next hempty =>
    have hrest : trimEnd rest = [] := by
      rw [trimEnd, List.isEmpty_iff.1 hempty, List.reverse_nil]
    have hfront : trimEnd (front ++ cs) = front ++ cs := h.finish front
    rw [trimEnd, List.reverse_append] at hfront
    rw [hfront, hrest, List.append_nil]
  · simp [trimEnd]

theorem IsTight.trim_append {cs : List Char} (h : IsTight cs) (front rest : List Char) :
    trim (front ++ (cs ++ rest)) = trimStart front ++ (cs ++ trimEnd rest) := by
  rw [trim, h.trimStart_append, h.trimEnd_append]

end Text

namespace Reply

open Text

theorem dropFront?_eq_some_iff {front cs rest : List Char} :
    dropFront? front cs = some rest ↔ cs = front ++ rest := by
  constructor
  · intro h
    rw [dropFront?] at h
    split at h
    · next hprefix =>
      cases h
      exact List.prefix_iff_eq_append.1 (List.isPrefixOf_iff_prefix.1 hprefix) |>.symm
    · cases h
  · rintro rfl
    exact dropFront?_append front rest

theorem dropBack?_eq_some_iff {back cs rest : List Char} :
    dropBack? back cs = some rest ↔ cs = rest ++ back := by
  constructor
  · intro h
    rw [dropBack?] at h
    split at h
    · next hsuffix =>
      cases h
      exact List.suffix_iff_eq_append.1 (List.isSuffixOf_iff_suffix.1 hsuffix) |>.symm
    · cases h
  · rintro rfl
    exact dropBack?_append back rest

/-- A mark without a character is taken off what stands before the character, or not at all. -/
theorem dropFront?_append_cons {mark : List Char} {c : Char} (hc : c ∉ mark)
    (front rest : List Char) :
    dropFront? mark (front ++ c :: rest) = (dropFront? mark front).map (· ++ c :: rest) := by
  cases hfront : dropFront? mark front with
  | some inner =>
    rw [dropFront?_eq_some_iff] at hfront
    rw [hfront, List.append_assoc, dropFront?_append]
    rfl
  | none =>
    cases hall : dropFront? mark (front ++ c :: rest) with
    | none => rfl
    | some inner =>
      exfalso
      rw [dropFront?_eq_some_iff] at hall
      rcases List.append_eq_append_iff.1 hall with ⟨more, hmark, hrest⟩ | ⟨more, hinner, -⟩
      · -- the mark reaches as far as the character
        cases more with
        | nil =>
          rw [List.append_nil] at hmark
          subst hmark
          have hself : dropFront? mark (mark ++ []) = some [] := dropFront?_append mark []
          rw [List.append_nil, hfront] at hself
          cases hself
        | cons d more =>
          cases hrest
          exact hc (hmark ▸ List.mem_append_right _ List.mem_cons_self)
      · rw [hinner, dropFront?_append] at hfront
        cases hfront

theorem dropBack?_eq (back cs : List Char) :
    dropBack? back cs = (dropFront? back.reverse cs.reverse).map List.reverse := by
  ext rest
  rw [dropBack?_eq_some_iff]
  constructor
  · rintro rfl
    rw [List.reverse_append, dropFront?_append]
    simp
  · intro h
    obtain ⟨reversed, hreversed, rfl⟩ := Option.map_eq_some_iff.1 h
    rw [dropFront?_eq_some_iff] at hreversed
    rw [← List.reverse_reverse cs, hreversed, List.reverse_append, List.reverse_reverse]

theorem dropBack?_append_cons {mark : List Char} {c : Char} (hc : c ∉ mark)
    (front rest : List Char) :
    dropBack? mark (front ++ c :: rest) = (dropBack? mark rest).map (front ++ c :: ·) := by
  have hreverse : (front ++ c :: rest).reverse = rest.reverse ++ c :: front.reverse := by simp
  rw [dropBack?_eq, dropBack?_eq, hreverse,
    dropFront?_append_cons (fun h => hc (List.mem_reverse.1 h)), Option.map_map, Option.map_map]
  congr 1
  funext reversed
  simp

/-! ## What stands around -/

section

variable {s : List Char} (hs : IsBraced s)

include hs

theorem dropFront?_braced {mark : List Char} (hmark : '{' ∉ mark) (front rest : List Char) :
    dropFront? mark (front ++ (s ++ rest)) = (dropFront? mark front).map (· ++ (s ++ rest)) := by
  obtain ⟨inside, rfl⟩ := hs
  exact dropFront?_append_cons hmark front _

theorem dropBack?_braced {mark : List Char} (hmark : '}' ∉ mark) (front rest : List Char) :
    dropBack? mark (front ++ (s ++ rest)) =
      (dropBack? mark rest).map fun inner => front ++ (s ++ inner) := by
  obtain ⟨inside, rfl⟩ := hs
  have hassoc (rest : List Char) : front ++ ('{' :: (inside ++ ['}']) ++ rest) =
      (front ++ '{' :: inside) ++ '}' :: rest := by
    simp
  rw [hassoc, dropBack?_append_cons hmark]
  simp only [hassoc]

/-- The fence around an object is the fence of what stands around it. -/
theorem fenced?_braced (front rest : List Char) :
    fenced? (front ++ (s ++ rest)) =
      (dropFront? fence front).bind fun p => (dropBack? fence rest).map fun q =>
        trimStart ((dropFront? ['j', 's', 'o', 'n'] p).getD p) ++ (s ++ trimEnd q) := by
  rw [fenced?, dropFront?_braced hs (by decide)]
  cases dropFront? fence front with
  | none => rfl
  | some p =>
    have hlanguage : ((dropFront? ['j', 's', 'o', 'n'] p).map (· ++ (s ++ rest))).getD
        (p ++ (s ++ rest)) = (dropFront? ['j', 's', 'o', 'n'] p).getD p ++ (s ++ rest) := by
      cases dropFront? ['j', 's', 'o', 'n'] p <;> rfl
    simp only [Option.map_some, Option.bind_eq_bind, Option.bind_some]
    rw [dropFront?_braced hs (by decide), hlanguage, hs.isTight.trimStart_append,
      dropBack?_braced hs (by decide)]
    cases dropBack? fence rest with
    | none => rfl
    | some q =>
      simp only [Option.map_some, Option.bind_some]
      rw [hs.isTight.trimEnd_append]
      rfl

/-- An object is cut out of a text if no other opening brace stands before it and no other closing
brace after it. -/
theorem braced?_braced {front rest : List Char} (hfront : '{' ∉ front) (hrest : '}' ∉ rest) :
    braced? (front ++ (s ++ rest)) = some s := by
  obtain ⟨inside, rfl⟩ := hs
  have hopening : (front ++ ('{' :: (inside ++ ['}']) ++ rest)).dropWhile (· ≠ '{') =
      '{' :: (inside ++ ['}']) ++ rest := by
    rw [List.dropWhile_append_of_pos fun c hc => by
      simpa using (fun h => hfront (h ▸ hc) : c ≠ '{')]
    exact List.dropWhile_cons_of_neg (by simp)
  have hclosing : ('{' :: (inside ++ ['}']) ++ rest).reverse.dropWhile (· ≠ '}') =
      ('{' :: (inside ++ ['}'])).reverse := by
    rw [List.reverse_append, List.dropWhile_append_of_pos fun c hc => by
      simpa using (fun h => hrest (h ▸ List.mem_reverse.1 hc) : c ≠ '}')]
    rw [List.reverse_cons, List.reverse_append]
    exact List.dropWhile_cons_of_neg (by simp)
  rw [braced?, hopening, hclosing, List.reverse_reverse]
  rfl

end

/-- What is left before and after an object when blanks have been taken off, and the two marks of a
fence if both are there. -/
def surroundings (p q : List Char) : List Char × List Char :=
  match dropFront? fence (trimStart p), dropBack? fence (trimEnd q) with
  | some p, some q => (trimStart ((dropFront? ['j', 's', 'o', 'n'] p).getD p), trimEnd q)
  | _, _ => (trimStart p, trimEnd q)

theorem trimEnd_surroundings (p q : List Char) :
    trimEnd (surroundings p q).2 = (surroundings p q).2 := by
  rw [surroundings]
  split <;> exact trimEnd_trimEnd _

theorem mem_of_mem_surroundings {p q : List Char} :
    (∀ c ∈ (surroundings p q).1, c ∈ p) ∧ ∀ c ∈ (surroundings p q).2, c ∈ q := by
  have hstart (cs : List Char) : trimStart cs ⊆ cs := (List.dropWhile_suffix _).subset
  have hend (cs : List Char) : trimEnd cs ⊆ cs := (List.rdropWhile_prefix isBlank cs).subset
  rw [surroundings]
  split
  · next p' q' hp' hq' =>
    rw [dropFront?_eq_some_iff] at hp'
    rw [dropBack?_eq_some_iff] at hq'
    have hinner : p' ⊆ p := fun c hc => hstart p (hp' ▸ List.mem_append_right _ hc)
    constructor
    · intro c hc
      refine hinner ?_
      have hc' := hstart _ hc
      cases hlanguage : dropFront? ['j', 's', 'o', 'n'] p' with
      | none => rwa [hlanguage] at hc'
      | some p'' =>
        rw [hlanguage] at hc'
        rw [dropFront?_eq_some_iff] at hlanguage
        exact hlanguage ▸ List.mem_append_right _ hc'
    · intro c hc
      exact hend q (hq' ▸ List.mem_append_left _ (hend q' hc))
  · exact ⟨fun c hc => hstart p hc, fun c hc => hend q hc⟩

/-- A body starts from what stands in a fence, or from the whole text. -/
theorem body_of_inside {content inside : List Char}
    (h : (((fenced? (trim content)).filter (!·.isEmpty)).map trim).getD (trim content) = inside) :
    body content =
      if inside.head? = some '{' then inside else (braced? inside).getD inside := by
  rw [body, ← h]
  cases (fenced? (trim content)).filter (!·.isEmpty) <;> rfl

/-- The body of a text with an object in it: the object, and what is left after it if nothing is
left before it. -/
theorem body_surrounded {p s q : List Char} (hs : IsBraced s) (hp : '{' ∉ p) (hq : '}' ∉ q) :
    body (p ++ (s ++ q)) =
      if (surroundings p q).1 = [] then s ++ (surroundings p q).2 else s := by
  have hinside : (((fenced? (trim (p ++ (s ++ q)))).filter (!·.isEmpty)).map trim).getD
      (trim (p ++ (s ++ q))) = (surroundings p q).1 ++ (s ++ (surroundings p q).2) := by
    rw [hs.isTight.trim_append, fenced?_braced hs, surroundings]
    cases dropFront? fence (trimStart p) with
    | none => rfl
    | some p' =>
      cases dropBack? fence (trimEnd q) with
      | none => rfl
      | some q' =>
        have hne (a b : List Char) : (a ++ (s ++ b)).isEmpty = false := by
          obtain ⟨inside, rfl⟩ := hs
          simp
        simp only [Option.bind_some, Option.map_some, Option.filter, hne, Bool.not_false, if_true,
          Option.getD_some]
        rw [hs.isTight.trim_append, trimStart_trimStart, trimEnd_trimEnd]
  obtain ⟨hbefore, hafter⟩ := mem_of_mem_surroundings (p := p) (q := q)
  rw [body_of_inside hinside]
  cases hfront : (surroundings p q).1 with
  | nil =>
    obtain ⟨inside, rfl⟩ := hs
    rfl
  | cons c cs =>
    rw [hfront] at hbefore
    have hc : c ≠ '{' := fun h => hp (h ▸ hbefore c List.mem_cons_self)
    rw [braced?_braced hs (fun h => hp (hbefore _ h)) fun h => hq (hafter _ h)]
    simp [hc]

/-! ## Prose after an object -/

/-- Whether something that is no blank stands after an object and nothing before it. Blanks do not
count, nor does a fence around both. -/
inductive Trails : List Char → List Char → Prop where
  | bare {p q : List Char} : (∀ c ∈ p, isBlank c) → (∃ c ∈ q, isBlank c = false) → Trails p q
  | fenced {before language inner q after : List Char} :
    (∀ c ∈ before, isBlank c) → language = [] ∨ language = ['j', 's', 'o', 'n'] →
      (∀ c ∈ inner, isBlank c) → (∃ c ∈ q, isBlank c = false) → (∀ c ∈ after, isBlank c) →
        Trails (before ++ (fence ++ (language ++ inner))) (q ++ (fence ++ after))

theorem trimEnd_ne_nil_iff {cs : List Char} : trimEnd cs ≠ [] ↔ ∃ c ∈ cs, isBlank c = false := by
  rw [Ne, trimEnd_eq_nil_iff]
  simp

/-- Without an object between, only blanks are left of a word that says what stands in a fence. -/
theorem trimStart_language_eq_nil_iff {cs : List Char} :
    trimStart ((dropFront? ['j', 's', 'o', 'n'] cs).getD cs) = [] ↔
      ∃ language inner, (language = [] ∨ language = ['j', 's', 'o', 'n']) ∧
        (∀ c ∈ inner, isBlank c) ∧ cs = language ++ inner := by
  rw [trimStart_eq_nil_iff]
  constructor
  · intro h
    cases hlanguage : dropFront? ['j', 's', 'o', 'n'] cs with
    | none =>
      rw [hlanguage] at h
      exact ⟨[], cs, .inl rfl, h, rfl⟩
    | some inner =>
      rw [hlanguage] at h
      exact ⟨_, inner, .inr rfl, h, dropFront?_eq_some_iff.1 hlanguage⟩
  · rintro ⟨language, inner, hlanguage, hinner, rfl⟩
    rcases hlanguage with rfl | rfl
    · rw [List.nil_append]
      cases hlanguage : dropFront? ['j', 's', 'o', 'n'] inner with
      | none => exact hinner
      | some rest =>
        have hj : 'j' ∈ inner := by
          rw [dropFront?_eq_some_iff.1 hlanguage]
          exact List.mem_cons_self
        exact absurd (hinner _ hj) (by decide)
    · rwa [dropFront?_append]

/-- What is left around an object is only prose after it. -/
theorem trails_iff {p q : List Char} :
    Trails p q ↔ (surroundings p q).1 = [] ∧ (surroundings p q).2 ≠ [] := by
  constructor
  · intro h
    cases h with
    | bare hp hq =>
      have hp : trimStart p = [] := trimStart_eq_nil_iff.2 hp
      rw [surroundings, hp]
      exact ⟨rfl, trimEnd_ne_nil_iff.2 hq⟩
    | fenced hbefore hlanguage hinner hq hafter =>
      rename_i before language inner q after
      have hfence : trimStart (fence ++ (language ++ inner)) = fence ++ (language ++ inner) :=
        isTight_fence.start _
      have hfence' : trimEnd (q ++ fence) = q ++ fence := isTight_fence.finish q
      rw [surroundings, trimStart_append hbefore, hfence, dropFront?_append, ← List.append_assoc q,
        trimEnd_append hafter, hfence', dropBack?_append]
      exact ⟨trimStart_language_eq_nil_iff.2 ⟨language, inner, hlanguage, hinner, rfl⟩,
        trimEnd_ne_nil_iff.2 hq⟩
  · rintro ⟨hfront, hback⟩
    have hbare (h : surroundings p q = (trimStart p, trimEnd q)) : Trails p q := by
      rw [h] at hfront hback
      exact .bare (trimStart_eq_nil_iff.1 hfront) (trimEnd_ne_nil_iff.1 hback)
    cases hp' : dropFront? fence (trimStart p) with
    | none => exact hbare (by rw [surroundings, hp'])
    | some p' =>
      cases hq' : dropBack? fence (trimEnd q) with
      | none => exact hbare (by rw [surroundings, hp', hq'])
      | some q' =>
        -- both marks of a fence
        rw [surroundings, hp', hq'] at hfront hback
        rw [dropFront?_eq_some_iff] at hp'
        rw [dropBack?_eq_some_iff] at hq'
        obtain ⟨before, hbefore, hp⟩ := exists_append_trimStart p
        obtain ⟨after, hafter, hq⟩ := exists_trimEnd_append q
        obtain ⟨language, inner, hlanguage, hinner, rfl⟩ := trimStart_language_eq_nil_iff.1 hfront
        rw [hp, hq, hp', hq', List.append_assoc]
        exact .fenced hbefore hlanguage hinner (trimEnd_ne_nil_iff.1 hback) hafter

theorem isJsonBlank_of_isBlank {c : Char} (h : isBlank c = false) : isJsonBlank c = false := by
  rw [← Bool.not_eq_true]
  intro hc
  simp only [isJsonBlank, Bool.or_eq_true, beq_iff_eq] at hc
  rcases hc with ((rfl | rfl) | rfl) | rfl <;> exact absurd h (by decide)

/-- A content whose body is no reply's object is itself the text of the reply. -/
theorem parse_of_error {content : String} (hne : content ≠ "") {e : Fault}
    (h : Members.record.decoder.text (String.ofList (body content.toList)) = .error e) :
    parse content = { text := content } := by
  unfold parse
  simp only [h, if_neg hne]

/-- The decoded members of an object with a text and no action. -/
theorem text_response :
    Members.record.decoder.text "\x7b\"response\":\"ok\"\x7d" = .ok ⟨none, some "ok"⟩ := by
  have htokens : Token.scan "\x7b\"response\":\"ok\"\x7d".toList =
      [.openObject, .text ("response".toList.map .char), .colon, .text ("ok".toList.map .char),
        .closeObject] := by
    decide
  rw [Decoder.text, Document.ofText, htokens]
  rfl

/-- A text in braces from which a reply's object is decoded, between two other texts: no opening
brace stands before it and no closing one after it. Unless something stands after it and nothing
before it, the whole is the reply that the text alone is. Otherwise the whole is a reply without an
action, its own text being that of the reply. -/
theorem parse_surrounded {s : String} (hs : ∃ m, Members.record.decoder.text s = .ok m)
    (hbraced : IsBraced s.toList) {p q : String} (hp : '{' ∉ p.toList) (hq : '}' ∉ q.toList) :
    (¬ Trails p.toList q.toList → parse (p ++ s ++ q) = parse s) ∧
    (Trails p.toList q.toList → parse (p ++ s ++ q) = { text := p ++ s ++ q }) := by
  obtain ⟨m, hm⟩ := hs
  have htext : (p ++ s ++ q).toList = p.toList ++ (s.toList ++ q.toList) := by
    simp only [String.toList_append, List.append_assoc]
  have hbody := body_surrounded hbraced hp hq
  rw [← htext] at hbody
  rw [trails_iff]
  constructor
  · intro h
    have hself : body s.toList = s.toList :=
      body_carried hbraced ⟨[], s.toList, [], .bare, nofun, nofun, by simp⟩
    have hcut : body (p ++ s ++ q).toList = s.toList := by
      rw [hbody]
      split
      · next hfront =>
        have hback : (surroundings p.toList q.toList).2 = [] := by
          by_contra hback
          exact h ⟨hfront, hback⟩
        rw [hback, List.append_nil]
      · rfl
    rw [parse_of_body hcut hm, parse_of_body hself hm]
  · rintro ⟨hfront, hback⟩
    rw [if_pos hfront] at hbody
    rw [← trimEnd_surroundings, trimEnd_ne_nil_iff] at hback
    generalize (surroundings p.toList q.toList).2 = rest at hbody hback
    have hrest : ∃ c ∈ (String.ofList rest).toList, isJsonBlank c = false := by
      obtain ⟨c, hc, hblank⟩ := hback
      exact ⟨c, String.toList_ofList ▸ hc, isJsonBlank_of_isBlank hblank⟩
    have hbrace : ∃ cs, s.toList = cs ++ ['}'] := by
      obtain ⟨inside, hinside⟩ := hbraced
      exact ⟨'{' :: inside, hinside⟩
    have hwhole : String.ofList (s.toList ++ rest) = s ++ String.ofList rest := by
      rw [String.ofList_append, String.ofList_toList]
    have hne : p ++ s ++ q ≠ "" := by
      intro hempty
      rw [hempty] at htext
      obtain ⟨inside, hinside⟩ := hbraced
      rw [hinside] at htext
      simp at htext
    have herror : Members.record.decoder.text (String.ofList (body (p ++ s ++ q).toList)) =
        fail .malformed := by
      rw [hbody, hwhole]
      exact Record.text_trailing hm hbrace hrest
    exact parse_of_error hne herror

/-- Prose on both sides in a fence is left out. Without the words before the object, the words after
it make the whole a text of its own. -/
theorem parse_surrounded_fenced :
    let s := "\x7b\"response\":\"ok\"\x7d"
    let p := "```json\nSure: "
    let q := " Hope this helps.\n```"
    ((∃ m, Members.record.decoder.text s = .ok m) ∧ IsBraced s.toList ∧ '{' ∉ p.toList ∧
      '}' ∉ q.toList ∧ ¬ Trails p.toList q.toList ∧ Trails "```json\n".toList q.toList) ∧
      parse (p ++ s ++ q) = { text := "ok" } ∧
      parse ("```json\n" ++ s ++ q) = { text := "```json\n" ++ s ++ q } := by
  intro s p q
  have hs : ∃ m, Members.record.decoder.text s = .ok m := ⟨_, text_response⟩
  have hbraced : IsBraced s.toList := ⟨"\"response\":\"ok\"".toList, by decide⟩
  have hp : '{' ∉ p.toList := by decide
  have hq : '}' ∉ q.toList := by decide
  have hprose : ¬ Trails p.toList q.toList := by
    rw [trails_iff]
    decide
  have htrails : Trails "```json\n".toList q.toList := by
    rw [trails_iff]
    decide
  have hparse : parse s = { text := "ok" } := parse_of_body (by decide) text_response
  refine ⟨⟨hs, hbraced, hp, hq, hprose, htrails⟩, ?_, ?_⟩
  · rw [(parse_surrounded hs hbraced hp hq).1 hprose, hparse]
  · exact (parse_surrounded hs hbraced (by decide) hq).2 htrails

/-- Prose around a reply is not always left out. -/
theorem not_ignores_prose :
    ¬ ∀ s p q : String, (∃ m, Members.record.decoder.text s = .ok m) → IsBraced s.toList →
      '{' ∉ p.toList → '}' ∉ q.toList → parse (p ++ s ++ q) = parse s := by
  intro hall
  let s := "\x7b\"response\":\"ok\"\x7d"
  have hbraced : IsBraced s.toList := ⟨"\"response\":\"ok\"".toList, by decide⟩
  have hparse := hall s "" " Hope this helps." ⟨_, text_response⟩ hbraced (by decide) (by decide)
  exact absurd (congrArg Reply.text hparse) (by decide)

end Reply

end QueryLoom
