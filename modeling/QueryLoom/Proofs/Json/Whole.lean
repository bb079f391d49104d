import QueryLoom.Proofs.Json.Decoding

/-!
# Whole values

1. A draft without breaks is read as the value it holds (`whole_draft`), and a value already read is
   such a draft (`toDraft_eq`).
2. The converse for texts: a draft built from tokens that can be read as a value is that value with
   all its lists closed. `Draft.Exact` says so of a draft; each step of the building keeps it
   (`Step.exact_take`), so it holds of what is built (`exact_build`).
3. Hence what decodes from a value decodes from every text that reads as the value
   (`Decodes.text`), not only from its two written forms.
-/

namespace QueryLoom.Json

/-! ## Drafts without breaks -/

mutual

theorem whole_draft {e : Ending} (he : e.break? = none) (v : Json) : (v.draft e).whole = .ok v := by
  match v with
  | .null => rfl
  | .bool b => rfl
  | .number n => rfl
  | .text s => rfl
  | .array vs =>
    rw [draft, Draft.whole, wholeItems_drafts he vs]
    cases e with
    | broken b => cases he
    | closed => rfl
    | held => rfl
  | .object ms =>
    rw [draft, Draft.whole, wholeMembers_drafts he ms]
    cases e with
    | broken b => cases he
    | closed => rfl
    | held => rfl

theorem wholeItems_drafts {e : Ending} (he : e.break? = none) (vs : List Json) :
    Draft.wholeItems (itemDrafts e vs) = .ok vs := by
  match vs with
  | [] => rfl
  | v :: vs =>
    rw [itemDrafts, Draft.wholeItems, whole_draft he v, wholeItems_drafts he vs]
    rfl

theorem wholeMembers_drafts {e : Ending} (he : e.break? = none) (ms : List (String × Json)) :
    Draft.wholeMembers (memberDrafts e ms) = .ok ms := by
  match ms with
  | [] => rfl
  | (k, v) :: ms =>
    rw [memberDrafts, Draft.wholeMembers, whole_draft he v, wholeMembers_drafts he ms]
    rfl

end

theorem any_draft {e : Ending} (he : e.break? = none) (v : Json) :
    Decoder.any (v.draft e) = .ok v := by
  rw [Decoder.any, whole_draft he v]
  rfl

theorem decodes_any (v : Json) : Decodes .any v v := fun _ he => any_draft he v

mutual

theorem toDraft_eq (v : Json) : v.toDraft = v.draft .held := by
  match v with
  | .null => rfl
  | .bool b => rfl
  | .number n => rfl
  | .text s => rfl
  | .array vs => rw [toDraft, draft, toDrafts_eq vs]
  | .object ms => rw [toDraft, draft, toMembers_eq ms]

theorem toDrafts_eq (vs : List Json) : toDrafts vs = itemDrafts .held vs := by
  match vs with
  | [] => rfl
  | v :: vs => rw [toDrafts, itemDrafts, toDraft_eq v, toDrafts_eq vs]

theorem toMembers_eq (ms : List (String × Json)) : toMembers ms = memberDrafts .held ms := by
  match ms with
  | [] => rfl
  | (k, v) :: ms => rw [toMembers, memberDrafts, toDraft_eq v, toMembers_eq ms]

end

/-- What decodes from a value decodes from the value when it has been read before. -/
theorem Decodes.value {α : Type} {dec : Decoder α} {v : Json} {a : α} (h : Decodes dec v a) :
    dec.value v = .ok a := by
  rw [Decoder.value, toDraft_eq]
  exact h .held rfl

/-! ## Drafts built from tokens -/

/-- Whether a draft that can be read as a value is that value with all lists closed. -/
def Draft.Exact (d : Draft) : Prop := ∀ v, d.whole = .ok v → d = v.draft .closed

/-- Whether all that stands in an open bracket is exact. -/
def Frame.Exact : Frame → Prop
  | .array items => ∀ d ∈ items, d.Exact
  | .object members => ∀ m ∈ members, m.2.Exact
  | .member members _ => ∀ m ∈ members, m.2.Exact

/-- Whether all that a step leads to is exact. -/
def Step.Exact : Step → Prop
  | .next frames _ => ∀ f ∈ frames, f.Exact
  | .done d => d.Exact
  | .halt d => d.Exact

theorem exact_draft (v : Json) : (v.draft .closed).Exact := by
  intro w hw
  rw [whole_draft rfl] at hw
  cases hw
  rfl

theorem exact_unreadable (opening : Opening) (read : Break) (skip : Option Break) :
    (Draft.unreadable opening read skip).Exact := nofun

theorem wholeItems_eq {ds : List Draft} (hds : ∀ d ∈ ds, d.Exact) {vs : List Json}
    (h : Draft.wholeItems ds = .ok vs) : ds = itemDrafts .closed vs := by
  induction ds generalizing vs with
  | nil =>
    cases h
    rfl
  | cons d ds ih =>
    obtain ⟨hd, hds⟩ := List.forall_mem_cons.1 hds
    obtain ⟨v, hv, hrest⟩ := ok_of_bind h
    obtain ⟨ws, hws, hcons⟩ := ok_of_bind hrest
    cases hcons
    rw [itemDrafts, ← hd v hv, ← ih hds hws]

theorem wholeMembers_eq {ms : List (Label × Draft)} (hms : ∀ m ∈ ms, m.2.Exact)
    {vs : List (String × Json)} (h : Draft.wholeMembers ms = .ok vs) :
    ms = memberDrafts .closed vs := by
  induction ms generalizing vs with
  | nil =>
    cases h
    rfl
  | cons m ms ih =>
    obtain ⟨l, d⟩ := m
    obtain ⟨hd, hms⟩ := List.forall_mem_cons.1 hms
    obtain ⟨k, hk, hrest⟩ := ok_of_bind h
    obtain ⟨v, hv, hrest⟩ := ok_of_bind hrest
    obtain ⟨ws, hws, hcons⟩ := ok_of_bind hrest
    cases hcons
    -- only a whole key is read as a key
    have hlabel : l = .name k := by
      cases l <;> cases hk
      rfl
    rw [memberDrafts, ← hd v hv, ← ih hms hws, hlabel]

theorem exact_array {ds : List Draft} (h : ∀ d ∈ ds, d.Exact) : (Draft.array ds .closed).Exact := by
  intro v hv
  obtain ⟨vs, hvs, hok⟩ := ok_of_bind hv
  cases hok
  rw [draft, ← wholeItems_eq h hvs]

theorem exact_object {ms : List (Label × Draft)} (h : ∀ m ∈ ms, m.2.Exact) :
    (Draft.object ms .closed).Exact := by
  intro v hv
  obtain ⟨vs, hvs, hok⟩ := ok_of_bind hv
  cases hok
  rw [draft, ← wholeMembers_eq h hvs]

theorem exact_atDepth {d : Draft} (h : d.Exact) (depth : Nat) (opening : Opening)
    (skip : Option Break) : (d.atDepth depth opening skip).Exact := by
  rw [Draft.atDepth]
  split
  · exact exact_unreadable _ _ _
  · exact h

/-- A broken list cannot be read, whatever stands in it. -/
theorem exact_array_broken (ds : List Draft) (b : Break) : (Draft.array ds (.broken b)).Exact := by
  intro v hv
  obtain ⟨_, _, hbroken⟩ := ok_of_bind hv
  cases hbroken

theorem exact_object_broken (ms : List (Label × Draft)) (b : Break) :
    (Draft.object ms (.broken b)).Exact := by
  intro v hv
  obtain ⟨_, _, hbroken⟩ := ok_of_bind hv
  cases hbroken

theorem exact_abandon (b : Break) {last : Draft} (h : last.Exact) (frames : List Frame) :
    (abandon b last frames).Exact := by
  induction frames generalizing last with
  | nil => exact h
  | cons f frames ih =>
    cases f with
    | array items => exact ih (exact_atDepth (exact_array_broken _ b) _ _ _)
    | object members => exact ih (exact_atDepth (exact_object_broken _ b) _ _ _)
    | member members key => exact ih (exact_atDepth (exact_object_broken _ b) _ _ _)

theorem exact_abandonOpen (b : Break) (frames : List Frame) : (abandonOpen b frames).Exact := by
  cases frames with
  | nil => exact exact_unreadable _ _ _
  | cons f frames =>
    cases f with
    | array items => exact exact_abandon b (exact_atDepth (exact_array_broken _ b) _ _ _) _
    | object members => exact exact_abandon b (exact_atDepth (exact_object_broken _ b) _ _ _) _
    | member members key => exact exact_abandon b (exact_atDepth (exact_object_broken _ b) _ _ _) _

theorem exact_abandonKey (read skip : Break) {found : Draft} (h : found.Exact)
    (frames : List Frame) : (abandonKey read skip found frames).Exact := by
  rw [abandonKey.eq_def]
  split
  · exact exact_abandon skip h _
  · exact exact_abandonOpen skip frames

theorem exact_textDraft (ps : List Piece) : (textDraft ps).Exact := by
  rw [textDraft]
  split
  · exact exact_draft (.text _)
  · exact exact_unreadable _ _ _

theorem exact_numberDraft (n : Numeral) : (numberDraft n).Exact := by
  rw [numberDraft]
  split
  · exact exact_draft (.number _)
  · exact exact_unreadable _ _ _

namespace Step

theorem exact_give {d : Draft} (hd : d.Exact) {frames : List Frame} (h : ∀ f ∈ frames, f.Exact) :
    (give d frames).Exact := by
  cases frames with
  | nil => exact hd
  | cons f frames =>
    obtain ⟨hf, hframes⟩ := List.forall_mem_cons.1 h
    cases f with
    | array items =>
      exact List.forall_mem_cons.2
        ⟨List.forall_mem_append.2 ⟨hf, List.forall_mem_singleton.2 hd⟩, hframes⟩
    | object members => exact h
    | member members key =>
      exact List.forall_mem_cons.2
        ⟨List.forall_mem_append.2 ⟨hf, List.forall_mem_singleton.2 hd⟩, hframes⟩

theorem exact_onValue {frames : List Frame} (h : ∀ f ∈ frames, f.Exact) (t : Token) :
    (onValue frames t).Exact := by
  cases t with
  | null => exact exact_give (exact_draft .null) h
  | bool b => exact exact_give (exact_draft (.bool b)) h
  | number n => exact exact_give (exact_numberDraft n) h
  | text ps => exact exact_give (exact_textDraft ps) h
  | openArray => exact List.forall_mem_cons.2 ⟨nofun, h⟩
  | openObject => exact List.forall_mem_cons.2 ⟨nofun, h⟩
  | fault inside read skip => exact exact_abandon _ (exact_unreadable _ _ _) _
  | _ => exact exact_abandon _ (exact_unreadable _ _ _) _

theorem exact_misplaced (t : Token) : (misplaced t).Exact := by
  cases t with
  | null => exact exact_draft .null
  | bool b => exact exact_draft (.bool b)
  | number n => exact exact_numberDraft n
  | text ps => exact exact_textDraft ps
  | openArray => exact exact_array_broken _ _
  | openObject => exact exact_object_broken _ _
  | _ => exact exact_unreadable _ _ _

theorem exact_onKey {frames : List Frame} (h : ∀ f ∈ frames, f.Exact) (t : Token) :
    (onKey frames t).Exact := by
  rw [onKey.eq_def]
  split
  · obtain ⟨hf, hframes⟩ := List.forall_mem_cons.1 h
    exact List.forall_mem_cons.2 ⟨hf, hframes⟩
  · exact exact_abandonKey _ _ (exact_unreadable _ _ _) _
  · exact exact_abandonKey _ _ (exact_misplaced _) _

theorem exact_onSeparator {frames : List Frame} (h : ∀ f ∈ frames, f.Exact) (t : Token) :
    (onSeparator frames t).Exact := by
  rw [onSeparator.eq_def]
  split
  · obtain ⟨hf, hframes⟩ := List.forall_mem_cons.1 h
    exact exact_give (exact_atDepth (exact_array hf) _ _ _) hframes
  · obtain ⟨hf, hframes⟩ := List.forall_mem_cons.1 h
    exact exact_give (exact_atDepth (exact_object hf) _ _ _) hframes
  · exact h
  · exact h
  · exact exact_abandonOpen _ _

/-- Each step keeps what has been built exact. -/
theorem exact_take {frames : List Frame} (h : ∀ f ∈ frames, f.Exact) (awaiting : Awaiting)
    (t : Token) : (take frames awaiting t).Exact := by
  cases awaiting with
  | value => exact exact_onValue h t
  | firstItem =>
    rw [take]
    split
    · exact exact_onSeparator h t
    · exact exact_onValue h t
  | key => exact exact_onKey h t
  | firstKey =>
    rw [take]
    split
    · exact exact_onSeparator h t
    · exact exact_onKey h t
  | colon =>
    rw [take]
    split
    · exact h
    · exact exact_abandonOpen _ _
  | separator => exact exact_onSeparator h t

theorem exact_finish (frames : List Frame) (awaiting : Awaiting) :
    (finish frames awaiting).Exact := by
  cases awaiting with
  | value => exact exact_abandon _ (exact_unreadable _ _ _) _
  | key => exact exact_abandonKey _ _ (exact_unreadable _ _ _) _
  | _ => exact exact_abandonOpen _ _

end Step

theorem exact_build {frames : List Frame} (h : ∀ f ∈ frames, f.Exact) (awaiting : Awaiting)
    (ts : List Token) : (Document.build frames awaiting ts).body.Exact := by
  -- the invariant is that all open brackets hold exact drafts
  induction ts generalizing frames awaiting with
  | nil => exact Step.exact_finish frames awaiting
  | cons t ts ih =>
    have hstep := Step.exact_take h awaiting t
    rw [Document.build_cons]
    cases htake : Step.take frames awaiting t with
    | next frames' awaiting' =>
      rw [htake] at hstep
      exact ih hstep awaiting'
    | done d =>
      rw [htake] at hstep
      exact hstep
    | halt d =>
      rw [htake] at hstep
      exact hstep

/-! ## Texts that read as a value -/

theorem ofText_of_any {s : String} {v : Json} (h : Decoder.any.text s = .ok v) :
    Document.ofText s = ⟨v.draft .closed, false⟩ := by
  have hexact : (Document.ofText s).body.Exact := exact_build (List.forall_mem_nil _) .value _
  obtain ⟨w, hw, hmore⟩ := ok_of_bind h
  cases hdoc : Document.ofText s with
  | mk body more =>
    rw [hdoc] at hexact hw hmore
    cases more with
    | true => cases hmore
    | false =>
      cases hmore
      cases hwhole : body.whole with
      | error b => simp [Decoder.any, hwhole, Except.mapError] at hw
      | ok u =>
        simp only [Decoder.any, hwhole, Except.mapError, Except.ok.injEq] at hw
        have hbody : body = u.draft .closed := hexact u hwhole
        rw [← hw, hbody]

/-- What decodes from a value decodes from every text that reads as the value. -/
theorem Decodes.text {α : Type} {dec : Decoder α} {s : String} {v : Json} {a : α}
    (h : Decodes dec v a) (hs : Decoder.any.text s = .ok v) : dec.text s = .ok a := by
  rw [Decoder.text, ofText_of_any hs, Decoder.document, h .closed rfl]
  rfl

end QueryLoom.Json
