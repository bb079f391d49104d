import QueryLoom.Json.LastWins
import QueryLoom.Proofs.Json.Whole

/-!
# Values held before they are decoded

1. `Settled` says that no object inside a value has a key twice. Such a value stays as it is when
   the last of several members with one key counts.
2. A choice of records reads all of a value before it takes the record out of it
   (`Tagged.decodes`); what all its records keep holds of whatever it gives (`Ensures.tagged`).
-/

namespace QueryLoom.Json

/-! ## Distinct keys -/

/-- Whether no object inside a value has a key twice: the value stays as it is when the last of
several members with one key counts. -/
def Settled (v : Json) : Prop := v.lastWins = v

@[simp] theorem settled_null : Settled .null := rfl

@[simp] theorem settled_bool (b : Bool) : Settled (.bool b) := rfl

@[simp] theorem settled_number (n : Number) : Settled (.number n) := rfl

@[simp] theorem settled_text (s : String) : Settled (.text s) := rfl

theorem settled_array {vs : List Json} (h : ∀ v ∈ vs, Settled v) : Settled (.array vs) := by
  have hitems : lastWinsItems vs = vs := by
    induction vs with
    | nil => rfl
    | cons v vs ih =>
      have hv : v.lastWins = v := h v List.mem_cons_self
      rw [lastWinsItems, hv, ih fun u hu => h u (List.mem_cons_of_mem _ hu)]
  rw [Settled, lastWins, hitems]

theorem settled_object {ms : List (String × Json)} (hkeys : (Entries.keys ms).Nodup)
    (h : ∀ m ∈ ms, Settled m.2) : Settled (.object ms) := by
  have hmembers : lastWinsMembers ms = ms := by
    clear hkeys
    induction ms with
    | nil => rfl
    | cons m ms ih =>
      have hm : m.2.lastWins = m.2 := h m List.mem_cons_self
      rw [lastWinsMembers, hm, ih fun u hu => h u (List.mem_cons_of_mem _ hu)]
  rw [Settled, lastWins, hmembers, Entries.ofList_of_nodup hkeys]

theorem settled_list {α : Type} {f : α → Json} (h : ∀ x, Settled (f x)) (xs : List α) :
    Settled (.array (xs.map f)) :=
  settled_array (List.forall_mem_map.2 fun x _ => h x)

@[simp] theorem settled_texts (xs : List String) : Settled (texts xs) :=
  settled_list settled_text xs

/-! ## Choices -/

section Choices

variable {α : Type} {t : Tagged α} {r : Record α}

/-- Members among which there is no tag are read one by one. -/
theorem Tagged.split_of_not_mem {ms : List (String × Json)} (h : t.tag ∉ Entries.keys ms)
    {e : Ending} (he : e.break? = none) (chosen : Option (Record α)) :
    t.split chosen (memberDrafts e ms) = .ok (chosen, ms) := by
  induction ms with
  | nil => rfl
  | cons m ms ih =>
    obtain ⟨k, v⟩ := m
    have hk : k ≠ t.tag := fun hk => h (hk ▸ List.mem_cons_self)
    have hname : Decoder.name (.name k) = .ok k := rfl
    rw [memberDrafts, Tagged.split, hname]
    simp only [bind, Except.bind, if_neg hk, any_draft he v,
      ih fun hms => h (List.mem_cons_of_mem _ hms)]

/-- An object that begins with the tag of a record, followed by members that fill its fields. -/
theorem Tagged.decodes {name : String} {ms : List (String × Json)} {a : α}
    (hchoice : t.choices.lookup name = some r) (htag : t.tag ∉ Entries.keys ms)
    (hnames : (r.fields.map (·.name)).Nodup) (h : Fills r.fields r.blank ms a) :
    Decodes t.decoder (.object ((t.tag, .text name) :: ms)) a := by
  intro e he
  have hname : Decoder.name (.name t.tag) = .ok t.tag := rfl
  have hchoose : t.choose (.text name) = .ok r := by
    rw [Tagged.choose, Decoder.lookUp, hchoice]
  have hsplit : t.split none (memberDrafts e ((t.tag, .text name) :: ms)) = .ok (some r, ms) := by
    rw [memberDrafts, Tagged.split, hname]
    simp only [bind, Except.bind, draft, hchoose]
    exact Tagged.split_of_not_mem htag he (some r)
  have hrecord : r.ofMembers [] r.blank (memberDrafts .held ms) .held = .ok a :=
    h.ofMembers (List.nil_append _).symm hnames .nil rfl
  rw [draft, Tagged.decoder, hsplit, ← hrecord, ← toMembers_eq]
  simp only [bind, Except.bind, atEnd_of_break? he]

/-- The record chosen is one of the choices. -/
theorem Tagged.mem_choices_of_choose {d : Draft} (h : t.choose d = .ok r) :
    ∃ c ∈ t.choices, c.2 = r := by
  cases d with
  | text s =>
    rw [Tagged.choose, Decoder.lookUp] at h
    cases hlookup : t.choices.lookup s with
    | none =>
      rw [hlookup] at h
      cases h
    | some _ =>
      rw [hlookup] at h
      cases h
      obtain ⟨before, after, hchoices, -⟩ := List.lookup_eq_some_iff.1 hlookup
      refine ⟨(s, r), ?_, rfl⟩
      rw [hchoices]
      simp
  | unreadable opening read skip => cases opening <;> cases h
  | _ => cases h

theorem Tagged.mem_choices_of_split {chosen : Option (Record α)} {ms : List (Label × Draft)}
    {vs : List (String × Json)} (hchosen : ∀ r', chosen = some r' → ∃ c ∈ t.choices, c.2 = r')
    (h : t.split chosen ms = .ok (some r, vs)) : ∃ c ∈ t.choices, c.2 = r := by
  induction ms generalizing chosen vs with
  | nil =>
    cases h
    exact hchosen r rfl
  | cons m ms ih =>
    obtain ⟨k, -, hmember⟩ := ok_of_bind h
    split at hmember
    · -- the tag, which must be the first one
      split at hmember
      · cases hmember
      · obtain ⟨r', hr', hrest⟩ := ok_of_bind hmember
        refine ih ?_ hrest
        rintro _ ⟨⟩
        exact mem_choices_of_choose hr'
    · obtain ⟨v, -, hrest⟩ := ok_of_bind hmember
      obtain ⟨⟨chosen', ws⟩, hsplit, hpair⟩ := ok_of_bind hrest
      cases hpair
      exact ih hchosen hsplit

/-- What holds of the blank record of each choice and is kept by its fields. -/
theorem Ensures.tagged {P : α → Prop} (hblank : ∀ c ∈ t.choices, P c.2.blank)
    (hfields : ∀ c ∈ t.choices, ∀ f ∈ c.2.fields, f.Keeps P) : Ensures t.decoder P := by
  intro d a ha
  cases d with
  | object ms ending =>
    obtain ⟨⟨chosen, vs⟩, hsplit, hrest⟩ := ok_of_bind ha
    obtain ⟨-, -, hrecord⟩ := ok_of_bind hrest
    cases chosen with
    | none => cases hrecord
    | some r =>
      have hnone : ∀ r', none = some r' → ∃ c ∈ t.choices, c.2 = r' := fun _ h => nomatch h
      obtain ⟨c, hc, rfl⟩ := Tagged.mem_choices_of_split hnone hsplit
      exact Record.ofMembers_keeps (hfields c hc) (hblank c hc) hrecord
  | array ds ending =>
    cases ds with
    | nil =>
      obtain ⟨-, -, hnone⟩ := ok_of_bind ha
      cases hnone
    | cons d ds =>
      obtain ⟨r, hr, hrest⟩ := ok_of_bind ha
      obtain ⟨vs, -, hrest⟩ := ok_of_bind hrest
      obtain ⟨-, -, hrecord⟩ := ok_of_bind hrest
      obtain ⟨c, hc, rfl⟩ := Tagged.mem_choices_of_choose hr
      exact Record.ofItems_keeps (hfields c hc) (fun _ hf => hf) (hblank c hc) hrecord
  | unreadable opening read skip => cases opening <;> cases ha
  | _ => cases ha

end Choices

end QueryLoom.Json
