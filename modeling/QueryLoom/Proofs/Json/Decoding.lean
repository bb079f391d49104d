import QueryLoom.Json.Decoder
import QueryLoom.Proofs.Entries
import QueryLoom.Proofs.Json.Drafting

/-!
# Decoders undo encoders

1. `Decodes` says that a decoder takes a value to what it encodes. It goes from items to lists and
   maps, and from fields to records: `Fills` goes through the fields of a record and the members of
   an object side by side.
2. What decodes from a value decodes from both of its written forms (`Decodes.text_compact`,
   `Decodes.text_indented`).
3. `Ensures` says that whatever a decoder gives has a property.
-/

namespace QueryLoom.Json

variable {α β : Type}

/-! ## Values -/

/-- Whether a decoder takes a value to `a`, however its lists end, if not in a break. -/
def Decodes (dec : Decoder α) (v : Json) (a : α) : Prop :=
  ∀ e : Ending, e.break? = none → dec (v.draft e) = .ok a

theorem atEnd_of_break? {e : Ending} (h : e.break? = none) : Decoder.atEnd e = .ok () := by
  rw [Decoder.atEnd, h]

theorem decodes_string (s : String) : Decodes .string (.text s) s := fun _ _ => rfl

theorem decodes_parsed {parse : String → Except String α} {s : String} {a : α}
    (h : parse s = .ok a) : Decodes (.parsed parse) (.text s) a := by
  intro e _
  show (parse s).mapError _ = .ok a
  rw [h]
  rfl

namespace Decodes

variable {dec : Decoder α}

theorem map {v : Json} {a : α} (h : Decodes dec v a) (f : α → β) :
    Decodes (fun d => (dec d).map f) v (f a) := by
  intro e he
  show (dec _).map f = _
  rw [h e he]
  rfl

theorem optional {v : Json} {a : α} (h : Decodes dec v a) (hv : v ≠ .null) :
    Decodes (.optional dec) v (some a) := by
  intro e he
  have hdec := h e he
  cases v with
  | null => exact absurd rfl hv
  | _ =>
    show (dec _).map some = _
    rw [hdec]
    rfl

/-! ## Lists and maps -/

variable {γ : Type} {f : γ → Json} {g : γ → α}

theorem items {xs : List γ} (h : ∀ x ∈ xs, Decodes dec (f x) (g x)) {e : Ending}
    (he : e.break? = none) : Decoder.items dec (itemDrafts e (xs.map f)) = .ok (xs.map g) := by
  induction xs with
  | nil => rfl
  | cons x xs ih =>
    have hx := h x List.mem_cons_self e he
    have hxs := ih fun y hy => h y (List.mem_cons_of_mem _ hy)
    rw [List.map_cons, itemDrafts, Decoder.items, hx, hxs]
    rfl

theorem list_map {xs : List γ} (h : ∀ x ∈ xs, Decodes dec (f x) (g x)) :
    Decodes (.list dec) (.array (xs.map f)) (xs.map g) := by
  intro e he
  rw [draft, Decoder.list, items h he, atEnd_of_break? he]
  rfl

theorem list {f : α → Json} {xs : List α} (h : ∀ x ∈ xs, Decodes dec (f x) x) :
    Decodes (.list dec) (.array (xs.map f)) xs := by
  have hlist := list_map (g := id) h
  rwa [List.map_id] at hlist

theorem members {ps : List (String × γ)} (h : ∀ p ∈ ps, Decodes dec (f p.2) (g p.2))
    {e : Ending} (he : e.break? = none) :
    Decoder.members dec (memberDrafts e (ps.map fun p => (p.1, f p.2))) =
      .ok (ps.map fun p => (p.1, g p.2)) := by
  induction ps with
  | nil => rfl
  | cons p ps ih =>
    have hp := h p List.mem_cons_self e he
    have hps := ih fun q hq => h q (List.mem_cons_of_mem _ hq)
    rw [List.map_cons, memberDrafts, Decoder.members, hp, hps]
    rfl

theorem pairs_map (expected : String) {ps : List (String × γ)}
    (h : ∀ p ∈ ps, Decodes dec (f p.2) (g p.2)) :
    Decodes (.pairs expected dec) (.object (ps.map fun p => (p.1, f p.2)))
      (ps.map fun p => (p.1, g p.2)) := by
  intro e he
  rw [draft, Decoder.pairs, members h he, atEnd_of_break? he]
  rfl

theorem pairs (expected : String) {f : α → Json} {ps : List (String × α)}
    (h : ∀ p ∈ ps, Decodes dec (f p.2) p.2) :
    Decodes (.pairs expected dec) (.object (ps.map fun p => (p.1, f p.2))) ps := by
  have hpairs := pairs_map expected (g := id) h
  have hid : (ps.map fun p => (p.1, id p.2)) = ps := List.map_id ps
  rwa [hid] at hpairs

/-- Whatever the keys, an ordered map comes out as its members set one after the other. -/
theorem entries_map {ps : List (String × γ)} (h : ∀ p ∈ ps, Decodes dec (f p.2) (g p.2)) :
    Decodes (.entries dec) (.object (ps.map fun p => (p.1, f p.2)))
      (Entries.ofList (ps.map fun p => (p.1, g p.2))) :=
  (pairs_map "a map with string keys" h).map Entries.ofList

/-- Entries with distinct keys come out as they stand. -/
theorem entries {f : α → Json} {es : Entries α} (hkeys : (Entries.keys es).Nodup)
    (h : ∀ p ∈ es, Decodes dec (f p.2) p.2) :
    Decodes (.entries dec) (.object (es.map fun p => (p.1, f p.2))) es := by
  have hpairs := (pairs "a map with string keys" h).map Entries.ofList
  rw [Entries.ofList_of_nodup hkeys] at hpairs
  exact hpairs

end Decodes

theorem decodes_strings (xs : List String) : Decodes .strings (texts xs) xs :=
  Decodes.list fun x _ => decodes_string x

/-! ## Records -/

/-- Whether members of an object stand for the fields of a record, in order, and put into `a` give
`b`. A field that may be left out can lack its member. -/
inductive Fills : List (Field α) → α → List (String × Json) → α → Prop where
  | nil {a : α} : Fills [] a [] a
  | member {β : Type} {name : String} {presence : Presence} {dec : Decoder β} {set : α → β → α}
    {fields : List (Field α)} {a b : α} {v : Json} {x : β} {members : List (String × Json)} :
    Decodes dec v x → Fills fields (set a x) members b →
      Fills (.of name presence dec set :: fields) a ((name, v) :: members) b
  | absent {β : Type} {name : String} {dec : Decoder β} {set : α → β → α}
    {fields : List (Field α)} {a b : α} {members : List (String × Json)} :
    Fills fields a members b → Fills (.of name .defaulted dec set :: fields) a members b

/-- A field that may be `none` is left out then. -/
theorem Fills.optional {name : String} {dec : Decoder β} {set : α → Option β → α}
    {fields : List (Field α)} {a b : α} {f : β → Json} {o : Option β}
    {members : List (String × Json)} (h : ∀ x ∈ o, Decodes (.optional dec) (f x) (some x))
    (hnone : set a none = a) (hrest : Fills fields (set a o) members b) :
    Fills (.of name .defaulted (.optional dec) set :: fields) a
      (optionalMember name (o.map f) ++ members) b := by
  cases o with
  | none =>
    rw [hnone] at hrest
    exact .absent hrest
  | some x => exact .member (h x rfl) hrest

theorem Record.complete_eq {r : Record α} {seen : List String}
    (h : ∀ f ∈ r.fields, f.presence = .required → f.name ∈ seen) : r.complete seen = .ok () := by
  have hnone : (r.fields.find? fun f => f.presence = .required && !seen.contains f.name) =
      none := by
    rw [List.find?_eq_none]
    intro f hf hmissing
    have hseen := h f hf (by simp_all)
    simp_all
  rw [Record.complete, hnone]

/-- A member with the name of a field that has not been set. -/
theorem Record.ofMembers_cons {r : Record α} {f : Field α} {k : String} {seen : List String}
    (hfind : r.fields.find? (·.name = k) = some f) (hseen : seen.contains k = false) {a : α}
    {d : Draft} {ms : List (Label × Draft)} {e : Ending} :
    r.ofMembers seen a ((.name k, d) :: ms) e =
      f.put d a >>= fun b => r.ofMembers (k :: seen) b ms e := by
  have hname : Decoder.name (.name k) = .ok k := rfl
  rw [Record.ofMembers, hname]
  simp only [bind, Except.bind, hfind, hseen]
  rfl

/-- A field is found under its name if no field before it has that name. -/
theorem find?_name {before after : List (Field α)} {f : Field α}
    (h : f.name ∉ before.map (·.name)) :
    (before ++ f :: after).find? (·.name = f.name) = some f := by
  have hnone : before.find? (·.name = f.name) = none := by
    rw [List.find?_eq_none]
    intro g hg hname
    exact h (List.mem_map.2 ⟨g, hg, by simpa using hname⟩)
  rw [List.find?_append, hnone]
  simp

/-- Whether `seen` are names of the given fields, among them all of those that are required. -/
structure Passed (fields : List (Field α)) (seen : List String) : Prop where
  subset : ∀ k ∈ seen, k ∈ fields.map (·.name)
  required : ∀ f ∈ fields, f.presence = .required → f.name ∈ seen

theorem Passed.nil : Passed ([] : List (Field α)) [] :=
  ⟨fun _ hk => absurd hk List.not_mem_nil, fun _ hf => absurd hf List.not_mem_nil⟩

/-- One more field, which has been set. -/
theorem Passed.set {fields : List (Field α)} {seen : List String} (h : Passed fields seen)
    (f : Field α) : Passed (fields ++ [f]) (f.name :: seen) where
  subset := by
    intro k hk
    rw [List.map_append, List.mem_append]
    rcases List.mem_cons.1 hk with rfl | hk
    · exact Or.inr List.mem_cons_self
    · exact Or.inl (h.subset k hk)
  required := by
    intro g hg hrequired
    rcases List.mem_append.1 hg with hg | hg
    · exact List.mem_cons_of_mem _ (h.required g hg hrequired)
    · rw [List.mem_singleton.1 hg]
      exact List.mem_cons_self

/-- One more field, which has been left out. -/
theorem Passed.leave {fields : List (Field α)} {seen : List String} (h : Passed fields seen)
    {f : Field α} (hf : f.presence = .defaulted) : Passed (fields ++ [f]) seen where
  subset := by
    intro k hk
    rw [List.map_append]
    exact List.mem_append_left _ (h.subset k hk)
  required := by
    intro g hg hrequired
    rcases List.mem_append.1 hg with hg | hg
    · exact h.required g hg hrequired
    · rw [List.mem_singleton.1 hg, hf] at hrequired
      cases hrequired

/-- Members that fill the fields from some place on, put into a record of which the fields before
have been passed. -/
theorem Fills.ofMembers {r : Record α} {fields : List (Field α)} {a b : α}
    {ms : List (String × Json)} (h : Fills fields a ms b) {before : List (Field α)}
    {seen : List String} (hfields : r.fields = before ++ fields)
    (hnames : (r.fields.map (·.name)).Nodup) (hpassed : Passed before seen) {e : Ending}
    (he : e.break? = none) : r.ofMembers seen a (memberDrafts e ms) e = .ok b := by
  induction h generalizing before seen with
  | nil =>
    have hcomplete : r.complete seen = .ok () := by
      apply Record.complete_eq
      rw [hfields, List.append_nil]
      exact hpassed.required
    rw [memberDrafts, Record.ofMembers, atEnd_of_break? he]
    show (do r.complete seen; Except.ok _) = _
    rw [hcomplete]
    rfl
  | @member β name presence dec set fields a b v x ms hv hrest ih =>
    -- the field stands under its name and nowhere else, so it has not been set yet
    have hnew : name ∉ before.map (·.name) := by
      rw [hfields, List.map_append] at hnames
      exact fun hk => (List.nodup_append.1 hnames).2.2 _ hk _ List.mem_cons_self rfl
    have hfind : r.fields.find? (·.name = name) = some (.of name presence dec set) := by
      rw [hfields]
      exact find?_name (f := .of name presence dec set) hnew
    have hcontains : seen.contains name = false := by
      simpa using fun hk => hnew (hpassed.subset _ hk)
    have hput : (Field.of name presence dec set).put (v.draft e) a = .ok (set a x) := by
      show (dec _).map _ = _
      rw [hv e he]
      rfl
    rw [memberDrafts, Record.ofMembers_cons hfind hcontains, hput]
    refine ih ?_ (hpassed.set (.of name presence dec set))
    rw [hfields, List.append_assoc]
    rfl
  | @absent β name dec set fields a b ms hrest ih =>
    refine ih ?_ (hpassed.leave (f := .of name .defaulted dec set) rfl)
    rw [hfields, List.append_assoc]
    rfl

/-- A record type whose fields have different names decodes from members that fill its fields. -/
theorem Fills.decodes {r : Record α} {ms : List (String × Json)} {a : α}
    (h : Fills r.fields r.blank ms a) (hnames : (r.fields.map (·.name)).Nodup) :
    Decodes r.decoder (.object ms) a := by
  intro e he
  exact h.ofMembers (List.nil_append _).symm hnames .nil he

/-! ## Texts -/

theorem Decodes.text_compact {dec : Decoder α} {n : Nat} {v : Json} {a : α} (h : Decodes dec v a)
    (hfits : Fits n v) (hn : n < depthLimit) : dec.text v.compact = .ok a := by
  rw [Decoder.text, hfits.ofText_compact hn, Decoder.document, h .closed rfl]
  rfl

theorem Decodes.text_indented {dec : Decoder α} {n : Nat} {v : Json} {a : α} (h : Decodes dec v a)
    (hfits : Fits n v) (hn : n < depthLimit) : dec.text v.indented = .ok a := by
  rw [Decoder.text, hfits.ofText_indented hn, Decoder.document, h .closed rfl]
  rfl

/-! ## What is decoded -/

theorem ok_of_bind {ε : Type} {x : Except ε α} {f : α → Except ε β} {b : β}
    (h : x >>= f = .ok b) : ∃ a, x = .ok a ∧ f a = .ok b := by
  cases x with
  | error e => cases h
  | ok a => exact ⟨a, rfl, h⟩

theorem ok_of_map {ε : Type} {x : Except ε α} {f : α → β} {b : β} (h : x.map f = .ok b) :
    ∃ a, x = .ok a ∧ f a = b := by
  cases x with
  | error e => cases h
  | ok a => exact ⟨a, rfl, Except.ok.inj h⟩

/-- Whether all that a decoder gives has a property. -/
def Ensures (dec : Decoder α) (P : α → Prop) : Prop := ∀ d a, dec d = .ok a → P a

theorem ensures_true (dec : Decoder α) : Ensures dec fun _ => True := fun _ _ _ => trivial

namespace Ensures

variable {dec : Decoder α} {P : α → Prop}

theorem map {f : α → β} {Q : β → Prop} (h : Ensures dec P) (hf : ∀ a, P a → Q (f a)) :
    Ensures (fun d => (dec d).map f) Q := by
  intro d b hb
  obtain ⟨a, ha, rfl⟩ := ok_of_map hb
  exact hf a (h d a ha)

theorem items (h : Ensures dec P) {ds : List Draft} {as : List α}
    (has : Decoder.items dec ds = .ok as) : ∀ a ∈ as, P a := by
  induction ds generalizing as with
  | nil =>
    cases has
    exact nofun
  | cons d ds ih =>
    obtain ⟨a, ha, hrest⟩ := ok_of_bind has
    obtain ⟨tail, htail, hcons⟩ := ok_of_bind hrest
    cases hcons
    exact List.forall_mem_cons.2 ⟨h d a ha, ih htail⟩

theorem list (h : Ensures dec P) : Ensures (.list dec) fun as => ∀ a ∈ as, P a := by
  intro d as has
  cases d with
  | array ds ending =>
    obtain ⟨items, hitems, hrest⟩ := ok_of_bind has
    obtain ⟨-, -, hok⟩ := ok_of_bind hrest
    cases hok
    exact h.items hitems
  | unreadable opening read skip => cases opening <;> cases has
  | _ => cases has

theorem optional (h : Ensures dec P) : Ensures (.optional dec) fun o => ∀ a ∈ o, P a := by
  intro d o ho
  -- either the decoder did not run or it gave what `o` holds
  have hcases : (∃ a, dec d = .ok a ∧ o = some a) ∨ o = none := by
    cases d with
    | null => exact .inr (Except.ok.inj ho).symm
    | unreadable opening read skip =>
      cases opening with
      | null => cases ho
      | _ =>
        obtain ⟨a, ha, rfl⟩ := ok_of_map ho
        exact .inl ⟨a, ha, rfl⟩
    | _ =>
      obtain ⟨a, ha, rfl⟩ := ok_of_map ho
      exact .inl ⟨a, ha, rfl⟩
  rcases hcases with ⟨a, ha, rfl⟩ | rfl
  · rintro _ ⟨⟩
    exact h d a ha
  · exact nofun

/-- An ordered map has distinct keys. -/
theorem entries : Ensures (.entries dec) fun es => (Entries.keys es).Nodup := by
  intro d es hes
  obtain ⟨ps, -, rfl⟩ := ok_of_map hes
  exact Entries.nodup_keys_ofList ps

end Ensures

theorem Ensures.text {dec : Decoder α} {P : α → Prop} (h : Ensures dec P) {s : String} {a : α}
    (ha : dec.text s = .ok a) : P a := by
  obtain ⟨b, hb, hrest⟩ := ok_of_bind ha
  split at hrest
  · cases hrest
  · cases hrest
    exact h _ a hb

/-- Whether putting a field into a record keeps a property of the record. -/
def Field.Keeps (f : Field α) (P : α → Prop) : Prop :=
  ∀ d a b, f.put d a = .ok b → P a → P b

theorem Field.keeps_of {name : String} {presence : Presence} {dec : Decoder β} {set : α → β → α}
    {P : α → Prop} {Q : β → Prop} (hdec : Ensures dec Q) (hset : ∀ a x, Q x → P a → P (set a x)) :
    (Field.of name presence dec set).Keeps P := by
  intro d a b hb ha
  obtain ⟨x, hx, rfl⟩ := ok_of_map hb
  exact hset a x (hdec d x hx) ha

/-- A field that the property does not look at. -/
theorem Field.keeps_set {name : String} {presence : Presence} {dec : Decoder β} {set : α → β → α}
    {P : α → Prop} (hset : ∀ a x, P a → P (set a x)) : (Field.of name presence dec set).Keeps P :=
  keeps_of (ensures_true dec) fun a x _ => hset a x

section Records

variable {r : Record α} {P : α → Prop} (hfields : ∀ f ∈ r.fields, f.Keeps P)

include hfields

theorem Record.ofMembers_keeps {seen : List String} {a b : α} {ms : List (Label × Draft)}
    {e : Ending} (ha : P a) (h : r.ofMembers seen a ms e = .ok b) : P b := by
  induction ms generalizing seen a with
  | nil =>
    obtain ⟨-, -, hrest⟩ := ok_of_bind h
    obtain ⟨-, -, hok⟩ := ok_of_bind hrest
    cases hok
    exact ha
  | cons m ms ih =>
    obtain ⟨k, -, hmember⟩ := ok_of_bind h
    cases hfind : r.fields.find? (·.name = k) with
    | none =>
      -- an unknown member is skipped
      simp only [hfind] at hmember
      cases hskip : m.2.skip with
      | some b => simp [hskip, fail] at hmember
      | none =>
        simp only [hskip] at hmember
        exact ih ha hmember
    | some f =>
      simp only [hfind] at hmember
      split at hmember
      · cases hmember
      · obtain ⟨x, hx, hrest⟩ := ok_of_bind hmember
        exact ih (hfields f (List.mem_of_find?_eq_some hfind) _ _ _ hx ha) hrest

theorem Record.ofItems_keeps {index : Nat} {a b : α} {fields : List (Field α)} {ds : List Draft}
    {e : Ending} (hsub : ∀ f ∈ fields, f ∈ r.fields) (ha : P a)
    (h : r.ofItems index a fields ds e = .ok b) : P b := by
  induction fields generalizing index a ds with
  | nil =>
    obtain ⟨-, -, hok⟩ := ok_of_bind h
    cases hok
    exact ha
  | cons f fs ih =>
    have hrest : ∀ g ∈ fs, g ∈ r.fields := fun g hg => hsub g (List.mem_cons_of_mem _ hg)
    cases ds with
    | nil =>
      -- the items have run out: a field that may be left out keeps its value
      obtain ⟨-, -, hnext⟩ := ok_of_bind h
      split at hnext
      · exact ih hrest ha hnext
      · cases hnext
    | cons d ds =>
      obtain ⟨x, hx, hnext⟩ := ok_of_bind h
      exact ih hrest (hfields f (hsub f List.mem_cons_self) _ _ _ hx ha) hnext

/-- What all fields keep holds of every record decoded. -/
theorem Ensures.record (hblank : P r.blank) : Ensures r.decoder P := by
  intro d a ha
  cases d with
  | object ms ending => exact Record.ofMembers_keeps hfields hblank ha
  | array ds ending => exact Record.ofItems_keeps hfields (fun _ hf => hf) hblank ha
  | unreadable opening read skip => cases opening <;> cases ha
  | _ => cases ha

end Records

end QueryLoom.Json
