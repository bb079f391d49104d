import QueryLoom.Proofs.Json.Lexing
import QueryLoom.Json.Decoder

/-!
# Values come out of their tokens

1. `Json.draft` is a value as a draft without breaks, its lists all ending in one way.
2. A list of tokens that begins with the tokens of a value is built up to that value and goes on
   from there (`Fits.builds`), if the brackets do not nest too deep.
3. So both written forms of a value give the value and nothing more (`Fits.ofText_compact`,
   `Fits.ofText_indented`).
-/

namespace QueryLoom.Json

/-! ## Drafts without breaks -/

mutual

/-- A value as a draft in which every list has the same ending. -/
def draft (e : Ending) : Json → Draft
  | .null => .null
  | .bool b => .bool b
  | .number n => .number n
  | .text s => .text s
  | .array items => .array (itemDrafts e items) e
  | .object members => .object (memberDrafts e members) e

/-- The items of an array as drafts. -/
def itemDrafts (e : Ending) : List Json → List Draft
  | [] => []
  | v :: vs => v.draft e :: itemDrafts e vs

/-- The members of an object as drafts. -/
def memberDrafts (e : Ending) : List (String × Json) → List (Label × Draft)
  | [] => []
  | (k, v) :: ms => (.name k, v.draft e) :: memberDrafts e ms

end

/-- A member of an object as a draft. -/
def memberDraft (e : Ending) (m : String × Json) : Label × Draft := (.name m.1, m.2.draft e)

theorem itemDrafts_eq (e : Ending) (vs : List Json) : itemDrafts e vs = vs.map (draft e) := by
  induction vs with
  | nil => rfl
  | cons v vs ih => rw [itemDrafts, ih, List.map_cons]

theorem memberDrafts_eq (e : Ending) (ms : List (String × Json)) :
    memberDrafts e ms = ms.map (memberDraft e) := by
  induction ms with
  | nil => rfl
  | cons m ms ih => rw [memberDrafts, ih, List.map_cons, memberDraft]

/-! ## Building -/

/-- What a step and the tokens after it come to. -/
def Step.resume : Step → List Token → Document
  | .next frames awaiting, ts => .build frames awaiting ts
  | .done d, ts => ⟨d, !ts.isEmpty⟩
  | .halt d, _ => ⟨d, false⟩

theorem Document.build_cons (frames : List Frame) (awaiting : Awaiting) (t : Token)
    (ts : List Token) :
    Document.build frames awaiting (t :: ts) = (Step.take frames awaiting t).resume ts := by
  rw [Document.build]
  cases Step.take frames awaiting t <;> rfl

/-- Whether a list of tokens that begins with `ts` is built up to a draft and goes on from there,
where a value is awaited. -/
def Builds (frames : List Frame) (ts : List Token) (d : Draft) : Prop :=
  ∀ more, Document.build frames .value (ts ++ more) = (Step.give d frames).resume more

theorem builds_of_onValue {frames : List Frame} {t : Token} {d : Draft}
    (h : Step.onValue frames t = Step.give d frames) : Builds frames [t] d := by
  intro more
  rw [List.singleton_append, Document.build_cons, Step.take, h]

theorem textDraft_ofChar (s : String) : textDraft (s.toList.map Piece.ofChar) = .text s := by
  rw [textDraft, joinPieces_ofChar]
  simp

theorem textLabel_ofChar (s : String) : textLabel (s.toList.map Piece.ofChar) = .name s := by
  rw [textLabel, joinPieces_ofChar]
  simp

/-- Parts with commas between, inside a bracket that already holds some. `hold` is the bracket with
what it holds, and `start` what it awaits where a part should stand. -/
theorem build_joined {α β : Type} {frames : List Frame} (hold : List β → Frame) (start : Awaiting)
    (closing : Token) {g : α → List Token} (f : α → β)
    (hcomma : ∀ held, Step.onSeparator (hold held :: frames) .comma =
      .next (hold held :: frames) start)
    {xs : List α} (hxs : xs ≠ [])
    (h : ∀ x ∈ xs, ∀ held rest, Document.build (hold held :: frames) start (g x ++ rest) =
      .build (hold (held ++ [f x]) :: frames) .separator rest)
    (held : List β) (more : List Token) :
    Document.build (hold held :: frames) start (Token.joined (xs.map g) ++ closing :: more) =
      (Step.onSeparator (hold (held ++ xs.map f) :: frames) closing).resume more := by
  induction xs generalizing held with
  | nil => exact absurd rfl hxs
  | cons x xs ih =>
    cases xs with
    | nil =>
      rw [List.map_singleton, List.map_singleton, Token.joined, h x List.mem_cons_self,
        Document.build_cons, Step.take]
    | cons y ys =>
      have hjoined : Token.joined ((x :: y :: ys).map g) ++ closing :: more =
          g x ++ .comma :: (Token.joined ((y :: ys).map g) ++ closing :: more) := by
        simp [Token.joined]
      have hrest := ih (List.cons_ne_nil y ys) (fun z hz => h z (List.mem_cons_of_mem _ hz))
        (held ++ [f x])
      rw [hjoined, h x List.mem_cons_self, Document.build_cons, Step.take, hcomma, Step.resume,
        hrest, List.append_assoc]
      rfl

/-- The same inside a bracket just opened, which awaits a part like any other or its end. -/
theorem build_bracket {α β : Type} {frames : List Frame} (hold : List β → Frame)
    (first start : Awaiting) (closing : Token) {g : α → List Token} (f : α → β)
    (hcomma : ∀ held, Step.onSeparator (hold held :: frames) .comma =
      .next (hold held :: frames) start)
    (hfirst : ∀ t, Step.take (hold [] :: frames) first t =
      if t = closing then Step.onSeparator (hold [] :: frames) t
      else Step.take (hold [] :: frames) start t)
    {xs : List α} (hg : ∀ x ∈ xs, ∃ t ts, g x = t :: ts ∧ t ≠ closing)
    (h : ∀ x ∈ xs, ∀ held rest, Document.build (hold held :: frames) start (g x ++ rest) =
      .build (hold (held ++ [f x]) :: frames) .separator rest)
    (more : List Token) :
    Document.build (hold [] :: frames) first (Token.joined (xs.map g) ++ closing :: more) =
      (Step.onSeparator (hold (xs.map f) :: frames) closing).resume more := by
  cases xs with
  | nil =>
    rw [List.map_nil, List.map_nil, Token.joined, List.nil_append, Document.build_cons, hfirst,
      if_pos rfl]
  | cons x xs =>
    -- the first token belongs to a part, so the bracket awaits it like any other
    obtain ⟨t, ts, ht, hne⟩ := hg x List.mem_cons_self
    obtain ⟨us, hus⟩ : ∃ us, Token.joined ((x :: xs).map g) ++ closing :: more = t :: us := by
      cases xs <;> simp [Token.joined, ht]
    have hjoined := build_joined hold start closing f hcomma (List.cons_ne_nil x xs) h [] more
    rw [hus, Document.build_cons] at hjoined
    rw [hus, Document.build_cons, hfirst, if_neg hne, hjoined, List.nil_append]

/-- A member of an object, where a key is awaited. -/
theorem build_member {frames : List Frame} {m : String × Json} {d : Draft}
    (held : List (Label × Draft))
    (h : Builds (.member held (.name m.1) :: frames) m.2.tokens d) (rest : List Token) :
    Document.build (.object held :: frames) .key (Token.ofMember m ++ rest) =
      .build (.object (held ++ [(.name m.1, d)]) :: frames) .separator rest := by
  have hkey : Step.take (.object held :: frames) .key (.text (m.1.toList.map Piece.ofChar)) =
      .next (.member held (.name m.1) :: frames) .colon := by
    rw [← textLabel_ofChar]
    rfl
  rw [Token.ofMember, List.cons_append, Document.build_cons, hkey]
  show Document.build _ .colon (.colon :: (m.2.tokens ++ rest)) = _
  rw [Document.build_cons]
  exact h rest

/-! ## Values -/

/-- No value begins with the end of an array. -/
theorem Fits.tokens_eq_cons {n : Nat} {v : Json} (h : Fits n v) :
    ∃ t ts, v.tokens = t :: ts ∧ t ≠ .closeArray := by
  cases h with
  | null => exact ⟨_, _, rfl, by decide⟩
  | bool => exact ⟨_, _, rfl, nofun⟩
  | @number _ i hi =>
    cases i with
    | real x => cases hi
    | integer i => exact ⟨_, _, tokens_integer i, nofun⟩
  | text => exact ⟨_, _, rfl, nofun⟩
  | array => exact ⟨_, _, rfl, by decide⟩
  | object => exact ⟨_, _, rfl, by decide⟩

theorem builds_number {frames : List Frame} {i : Number} (h : i.IsInteger) :
    Builds frames (tokens (.number i)) (.number i) := by
  cases i with
  | real x => cases h
  | integer i =>
    have hdraft : numberDraft (.ofInt i) = .number (.integer i) := by
      rw [numberDraft, value?_ofInt h]
    rw [tokens_integer]
    exact builds_of_onValue (by rw [Step.onValue, hdraft])

theorem close_of_shallow {opening : Opening} {d : Draft} {frames : List Frame}
    (h : frames.length + 1 < depthLimit) : Step.close opening d frames = Step.give d frames := by
  rw [Step.close, Draft.atDepth, if_neg (Nat.not_le.2 h)]

theorem builds_array {frames : List Frame} {n : Nat} {items : List Json}
    (hdepth : frames.length + 1 < depthLimit) (hfits : ∀ v ∈ items, Fits n v)
    (h : ∀ v ∈ items, ∀ held, Builds (.array held :: frames) v.tokens (v.draft .closed)) :
    Builds frames (tokens (.array items)) (draft .closed (.array items)) := by
  intro more
  have hitems := build_bracket .array .firstItem .value .closeArray (draft .closed) (fun _ => rfl)
    (fun _ => rfl) (fun v hv => (hfits v hv).tokens_eq_cons) (fun v hv held => h v hv held) more
  rw [tokens, itemTokens_eq, List.cons_append, Document.build_cons, List.append_assoc]
  refine hitems.trans ?_
  rw [draft, itemDrafts_eq, ← close_of_shallow hdepth]
  rfl

theorem builds_object {frames : List Frame} {members : List (String × Json)}
    (hdepth : frames.length + 1 < depthLimit)
    (h : ∀ m ∈ members, ∀ held key,
      Builds (.member held key :: frames) m.2.tokens (m.2.draft .closed)) :
    Builds frames (tokens (.object members)) (draft .closed (.object members)) := by
  intro more
  have hmembers := build_bracket .object .firstKey .key .closeObject (memberDraft .closed)
    (fun _ => rfl) (fun _ => rfl) (fun m _ => ⟨_, _, rfl, by simp⟩)
    (fun m hm held => build_member held (h m hm held _)) more
  rw [tokens, memberTokens_eq, List.cons_append, Document.build_cons, List.append_assoc]
  refine hmembers.trans ?_
  rw [draft, memberDrafts_eq, ← close_of_shallow hdepth]
  rfl

/-- The tokens of a value are built up to it where its brackets do not nest too deep. -/
theorem Fits.builds {n : Nat} {v : Json} (h : Fits n v) (frames : List Frame)
    (hdepth : frames.length + n < depthLimit) : Builds frames v.tokens (v.draft .closed) := by
  induction h generalizing frames with
  | null => exact builds_of_onValue rfl
  | bool => exact builds_of_onValue rfl
  | number hi => exact builds_number hi
  | text => exact builds_of_onValue (by rw [Step.onValue, textDraft_ofChar, draft])
  | array hitems ih =>
    exact builds_array (by omega) hitems fun v hv held => ih v hv _ (by simp; omega)
  | object hmembers ih =>
    exact builds_object (by omega) fun m hm held key => ih m hm _ (by simp; omega)

/-! ## Texts -/

/-- A text that is read as the tokens of a value gives the value. -/
theorem Reads.ofText {n : Nat} {v : Json} {cs : List Char} (h : Reads cs v.tokens)
    (hfits : Fits n v) (hn : n < depthLimit) :
    Document.ofText (String.ofList cs) = ⟨v.draft .closed, false⟩ := by
  have hbuild := hfits.builds [] (by simpa using hn) []
  rw [List.append_nil] at hbuild
  rw [Document.ofText, String.toList_ofList, h.scan, Document.ofTokens, hbuild]
  rfl

theorem Fits.ofText_compact {n : Nat} {v : Json} (h : Fits n v) (hn : n < depthLimit) :
    Document.ofText v.compact = ⟨v.draft .closed, false⟩ :=
  h.reads_write.ofText h hn

theorem Fits.ofText_indented {n : Nat} {v : Json} (h : Fits n v) (hn : n < depthLimit) :
    Document.ofText v.indented = ⟨v.draft .closed, false⟩ :=
  (h.reads_writeLines 0).ofText h hn

end QueryLoom.Json
