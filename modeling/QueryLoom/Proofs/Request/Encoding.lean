import QueryLoom.Proofs.Request.Parts

/-!
# Requests come back from their encodings

1. `Request.IsRead` is what a request has that was decoded: no table and no alias twice, only
   functions and operators that were read.
2. `Request.Encodes` relates a request to the JSON values that hold it. Its aliases have no order,
   so they may stand in any.
3. A request that was decoded is decoded again from each of its encodings, compact or over lines,
   with nothing lost, and what was read is all that can be decoded (`Request.decode_encoded`).
   Filters on real numbers are set aside.
-/

namespace QueryLoom.Request

open Json

/-! ## Requests that were read -/

/-- A request that was read. -/
structure IsRead (r : Request) : Prop where
  model : r.model.IsRead
  measures : ∀ m ∈ r.pivot.values, m.aggregation.IsRead
  filters : ∀ f ∈ r.filters, f.comparison.IsRead
  aliases : r.aliases.IsRead

theorem ensures_isRead : Ensures record.decoder IsRead := by
  refine .record ?_ ⟨List.nodup_nil, nofun, nofun, List.nodup_nil⟩
  intro f hf
  simp only [record, List.mem_cons, List.not_mem_nil, or_false] at hf
  rcases hf with rfl | rfl | rfl | rfl | rfl | rfl | rfl
  · exact Field.keeps_of Model.ensures_isRead fun _ _ hx h => { h with model := hx }
  · exact Field.keeps_set fun _ _ h => { h with }
  · exact Field.keeps_of Pivot.ensures_isRead fun _ _ hx h => { h with measures := hx }
  · exact Field.keeps_of Filter.ensures_isRead.list fun _ _ hx h => { h with filters := hx }
  · exact Field.keeps_set fun _ _ h => { h with }
  · exact Field.keeps_of Aliases.ensures_isRead fun _ _ hx h => { h with aliases := hx }
  · exact Field.keeps_set fun _ _ h => { h with }

/-! ## Encodings -/

/-- Whether a JSON value is an encoding of a request. -/
def Encodes (r : Request) (v : Json) : Prop :=
  ∃ names : Entries String, names.Perm r.aliases.names ∧ v = r.encode names

theorem encodes_toJson (r : Request) : r.Encodes r.toJson :=
  ⟨r.aliases.sorted, List.mergeSort_perm _ _, rfl⟩

/-- Whether all filters compare with other values than real numbers. -/
def IsExact (r : Request) : Prop := ∀ f ∈ r.filters, ∀ x, f.value ≠ .real x

theorem decodes_encode {r : Request} (hread : r.IsRead) (hexact : r.IsExact)
    {names : Entries String} (hnames : Aliases.IsRead ⟨names⟩) :
    Decodes record.decoder (r.encode names) { r with aliases := ⟨names⟩ } := by
  have hfills : Fills record.fields record.blank
      ([("modelConfiguration", r.model.toJson), ("joins", .array (r.joins.map Join.toJson)),
        ("pivotConfig", r.pivot.toJson), ("filters", .array (r.filters.map Filter.toJson)),
        ("discoveredTables", .array (r.catalog.map Listing.toJson)),
        ("fieldAliases", Aliases.listed names)]
        ++ optionalMember "selectedFields" (r.selection.map .texts))
      { r with aliases := ⟨names⟩ } := by
    refine .member (Model.decodes hread.model) <|
      .member (Decodes.list fun j _ => j.decodes) <|
      .member (Pivot.decodes hread.measures) <|
      .member (Decodes.list fun f hf => Filter.decodes (hread.filters f hf) (hexact f hf)) <|
      .member (Decodes.list fun l _ => l.decodes) <|
      .member (Aliases.decodes_listed hnames) ?_
    rw [← List.append_nil (optionalMember _ _)]
    exact .optional (fun xs _ => (decodes_strings xs).optional nofun) rfl .nil
  exact hfills.decodes (by decide)

theorem fits_encode {r : Request} (h : r.IsExact) (names : Entries String) :
    Fits 4 (r.encode names) := by
  refine fits_object_iff.2 fun m hm => ?_
  rcases List.mem_append.1 hm with hm | hm
  · simp only [List.mem_cons, List.not_mem_nil, or_false] at hm
    rcases hm with rfl | rfl | rfl | rfl | rfl | rfl
    · exact r.model.fits 1
    · exact fits_array_iff.2 (List.forall_mem_map.2 fun j _ => j.fits 0)
    · exact r.pivot.fits 0
    · exact fits_array_iff.2 (List.forall_mem_map.2 fun f hf => Filter.fits (h f hf) 1)
    · exact fits_array_iff.2 (List.forall_mem_map.2 fun l _ => l.fits 0)
    · exact Aliases.fits_listed names 2
  · obtain ⟨v, hv, rfl⟩ := mem_optionalMember.1 hm
    obtain ⟨xs, -, rfl⟩ := Option.map_eq_some_iff.1 hv
    exact fits_texts xs

/-- What was read comes back from both written forms of an encoding, with the aliases in the order
in which they stand there. -/
theorem text_encode {r : Request} (hread : r.IsRead) (hexact : r.IsExact) {names : Entries String}
    (hnames : names.Perm r.aliases.names) :
    record.decoder.text (r.encode names).compact = .ok { r with aliases := ⟨names⟩ } ∧
      record.decoder.text (r.encode names).indented = .ok { r with aliases := ⟨names⟩ } := by
  have hdistinct : Aliases.IsRead ⟨names⟩ := (hnames.map _).nodup_iff.2 hread.aliases
  have hdecodes := decodes_encode hread hexact hdistinct
  have hfits := fits_encode hexact names
  exact ⟨hdecodes.text_compact hfits (by decide), hdecodes.text_indented hfits (by decide)⟩

/-- A request that was decoded from a text comes back from each of its encodings, compact and over
lines. All of it is as it was; only the aliases stand in the order of the encoding, with the same
alias for each key. The requests that can be decoded at all are those in which no table and no alias
stands twice and all functions and operators have been read. -/
theorem decode_encoded {r : Request} (hexact : r.IsExact) :
    (∀ s v, record.decoder.text s = .ok r → r.Encodes v →
      ∃ aliases : Aliases, Entries.Same aliases.names r.aliases.names ∧
        record.decoder.text v.compact = .ok { r with aliases := aliases } ∧
        record.decoder.text v.indented = .ok { r with aliases := aliases }) ∧
    ((∃ s, record.decoder.text s = .ok r) ↔ r.IsRead) := by
  constructor
  · rintro s v hdecoded ⟨names, hperm, rfl⟩
    have hread : r.IsRead := ensures_isRead.text hdecoded
    have hsame := Entries.same_of_perm hperm ((hperm.map _).nodup_iff.2 hread.aliases)
    exact ⟨⟨names⟩, hsame, text_encode hread hexact hperm⟩
  · constructor
    · rintro ⟨s, hdecoded⟩
      exact ensures_isRead.text hdecoded
    · intro hread
      exact ⟨_, (text_encode hread hexact (List.Perm.refl _)).1⟩

/-- What is easily lost: the place of a key given twice, a kind of join in words, a function in
small letters, an unknown operator, control characters, the least integer, blank names and an empty
selection. -/
theorem decode_encoded_unusual :
    let v : Json :=
      .object
        [("unknown", .null),
         ("modelConfiguration", .object
           [("b", .texts ["x"]), ("a", .texts []), ("b", .texts ["z", "\x00"])]),
         ("joins", .array
           [.object
             [("type", .text " left OUTER join"), ("from", .text "b"), ("to", .text "a"),
              ("on", .object [("from", .text "\\"), ("to", .text "\"")])]]),
         ("pivotConfig", .object
           [("values", .array
             [.object
               [("field", .text "x"), ("aggregation", .text "stddev_pop"),
                ("displayName", .text "")]])]),
         ("filters", .array
           [.object
             [("field", .text "\n\x1f😀"), ("operator", .text "between"), ("id", .text ""),
              ("value", .number (.integer (-9223372036854775808)))]]),
         ("fieldAliases", .object [("b.x", .text "X"), ("a.x", .text ""), ("b.x", .text "Y")]),
         ("selectedFields", .array [])]
    let r : Request :=
      { model := ⟨[("b", ["z", "\x00"]), ("a", [])]⟩
        joins := [⟨"b", "a", .left, ⟨"\\", "\""⟩⟩]
        pivot := { values := [⟨"x", .custom "STDDEV_POP", some ""⟩] }
        filters := [⟨some "", "\n\x1f😀", .other "between", .integer (-9223372036854775808)⟩]
        aliases := ⟨[("b.x", "Y"), ("a.x", "")]⟩
        selection := some [] }
    (r.IsExact ∧ record.decoder.text v.indented = .ok r ∧ r.Encodes r.toJson) ∧
      ∃ aliases : Aliases, Entries.Same aliases.names r.aliases.names ∧
        record.decoder.text r.toJson.compact = .ok { r with aliases := aliases } ∧
        record.decoder.text r.toJson.indented = .ok { r with aliases := aliases } := by
  intro v r
  have hfits : Fits 4 v := by
    simp [v, Number.IsInteger, -Prod.forall]
  have hdecoded : record.decoder.text v.indented = .ok r := by
    rw [Decoder.text, hfits.ofText_indented (by decide)]
    rfl
  have hexact : r.IsExact := by
    intro f hf x hx
    obtain rfl := List.mem_singleton.1 hf
    cases hx
  exact ⟨⟨hexact, hdecoded, encodes_toJson r⟩,
    (decode_encoded hexact).1 _ _ hdecoded (encodes_toJson r)⟩

end QueryLoom.Request
