import QueryLoom.Proofs.Aggregation
import QueryLoom.Proofs.Join
import QueryLoom.Proofs.Json.Decoding
import QueryLoom.Request

/-!
# The parts of a request in JSON

For each part of a request: its decoder takes what its encoder writes back to it (`decodes`), and
the numbers and brackets written can be read (`fits`). Some parts come back only if they have been
decoded before. What they have then is said by `Comparison.IsRead`, `Model.IsRead` and
`Aliases.IsRead`.
-/

namespace QueryLoom

open Json

/-! ## Joins -/

theorem JoinKind.decodes (k : JoinKind) : Decodes decoder (.text k.sql) k :=
  decodes_parsed (by rw [parse_sql]; rfl)

theorem JoinKey.decodes (k : JoinKey) : Decodes record.decoder k.toJson k := by
  have hfills : Fills record.fields record.blank
      [("from", .text k.left), ("to", .text k.right)] k :=
    .member (decodes_string _) (.member (decodes_string _) .nil)
  exact hfills.decodes (by decide)

theorem JoinKey.fits (k : JoinKey) (n : Nat) : Fits (n + 1) k.toJson := by
  simp [toJson]

theorem Join.decodes (j : Join) : Decodes record.decoder j.toJson j := by
  have hfills : Fills record.fields record.blank
      [("from", .text j.left), ("to", .text j.right), ("type", .text j.kind.sql),
        ("on", j.key.toJson)] j :=
    .member (decodes_string _) <| .member (decodes_string _) <| .member j.kind.decodes <|
      .member j.key.decodes .nil
  exact hfills.decodes (by decide)

theorem Join.fits (j : Join) (n : Nat) : Fits (n + 2) j.toJson := by
  simp [toJson, j.key.fits n]

/-! ## Pivot layouts -/

theorem Aggregation.decodes {a : Aggregation} (h : a.IsRead) :
    Decodes decoder (.text a.keyword) a :=
  decodes_parsed (by rw [parse, parse?_keyword h]; rfl)

theorem Aggregation.ensures_isRead : Ensures decoder IsRead := fun d _ h => Or.inr ⟨d, h⟩

theorem Measure.decodes {m : Measure} (h : m.aggregation.IsRead) :
    Decodes record.decoder m.toJson m := by
  have hfills : Fills record.fields record.blank
      ([("field", .text m.field), ("aggregation", .text m.aggregation.keyword)]
        ++ optionalMember "displayName" (m.displayName.map .text)) m := by
    refine .member (decodes_string _) (.member (Aggregation.decodes h) ?_)
    -- the last member is there only if the measure has a name of its own
    rw [← List.append_nil (optionalMember _ _)]
    exact .optional (fun s _ => (decodes_string s).optional nofun) rfl .nil
  exact hfills.decodes (by decide)

theorem Measure.fits (m : Measure) (n : Nat) : Fits (n + 1) m.toJson := by
  cases hname : m.displayName <;> simp [toJson, hname]

theorem Measure.ensures_isRead : Ensures record.decoder fun m => m.aggregation.IsRead := by
  refine .record ?_ (Aggregation.isRead_iff.2 ⟨"SUM", by decide⟩)
  intro f hf
  simp only [record, List.mem_cons, List.not_mem_nil, or_false] at hf
  rcases hf with rfl | rfl | rfl
  · exact Field.keeps_set fun _ _ h => h
  · exact Field.keeps_of Aggregation.ensures_isRead fun _ _ h _ => h
  · exact Field.keeps_set fun _ _ h => h

theorem Pivot.decodes {p : Pivot} (h : ∀ m ∈ p.values, m.aggregation.IsRead) :
    Decodes record.decoder p.toJson p := by
  have hfills : Fills record.fields record.blank
      [("rows", .texts p.rows), ("columns", .texts p.columns),
        ("values", .array (p.values.map Measure.toJson))] p :=
    .member (decodes_strings _) <| .member (decodes_strings _) <|
      .member (Decodes.list fun m hm => Measure.decodes (h m hm)) .nil
  exact hfills.decodes (by decide)

theorem Pivot.ensures_isRead :
    Ensures record.decoder fun p => ∀ m ∈ p.values, m.aggregation.IsRead := by
  refine .record ?_ nofun
  intro f hf
  simp only [record, List.mem_cons, List.not_mem_nil, or_false] at hf
  rcases hf with rfl | rfl | rfl
  · exact Field.keeps_set fun _ _ h => h
  · exact Field.keeps_set fun _ _ h => h
  · exact Field.keeps_of Measure.ensures_isRead.list fun _ _ h _ => h

theorem Pivot.fits (p : Pivot) (n : Nat) : Fits (n + 3) p.toJson := by
  simp [toJson, Measure.fits]

/-! ## Filters -/

/-- An operator that was read: no other operator has the name of a known one. -/
def Comparison.IsRead (c : Comparison) : Prop := ofName c.name = c

theorem Comparison.decodes {c : Comparison} (h : c.IsRead) : Decodes decoder (.text c.name) c := by
  have hname := (decodes_string c.name).map ofName
  rwa [h] at hname

theorem Comparison.ensures_isRead : Ensures decoder IsRead := by
  refine (ensures_true Decoder.string).map fun s _ => ?_
  simp only [IsRead, ofName]
  -- one of the four known names, or another name that stays what it is
  repeat' split
  all_goals simp_all [name]

theorem Value.decodes {v : Value} (h : ∀ x, v ≠ .real x) : Decodes decoder v.toJson v := by
  cases v with
  | null => exact fun _ _ => rfl
  | integer n =>
    intro e _
    -- a cell holds an integer only if it fits 64 signed bits, so it does not turn into a float
    have hrange : Int64.minValue.toInt ≤ n.toInt ∧ n.toInt ≤ Int64.maxValue.toInt :=
      ⟨n.minValue_le_toInt, n.toInt_le⟩
    have hvalue : ofJson? (.number (.integer n.toInt)) = some (.integer n) := by
      rw [ofJson?, if_pos hrange, Int64.ofInt_toInt]
    have hany : Decoder.any ((toJson (.integer n)).draft e) = .ok (.number (.integer n.toInt)) := rfl
    rw [decoder, hany]
    simp only [bind, Except.bind, hvalue]
  | real x => exact absurd rfl (h x)
  | text s => exact fun _ _ => rfl

theorem Value.fits {v : Value} (h : ∀ x, v ≠ .real x) (n : Nat) : Fits n v.toJson := by
  cases v with
  | null => exact .null
  | integer i => exact .number ⟨i.minValue_le_toInt, Int.lt_trans i.toInt_lt (by decide)⟩
  | real x => exact absurd rfl (h x)
  | text s => exact .text

theorem Filter.decodes {f : Filter} (hcomparison : f.comparison.IsRead)
    (hvalue : ∀ x, f.value ≠ .real x) : Decodes record.decoder f.toJson f := by
  have hfills : Fills record.fields record.blank
      (optionalMember "id" (f.id.map .text)
        ++ [("field", .text f.field), ("operator", .text f.comparison.name),
          ("value", f.value.toJson)]) f :=
    .optional (fun s _ => (decodes_string s).optional nofun) rfl <| .member (decodes_string _) <|
      .member (Comparison.decodes hcomparison) <| .member (Value.decodes hvalue) .nil
  exact hfills.decodes (by decide)

theorem Filter.fits {f : Filter} (h : ∀ x, f.value ≠ .real x) (n : Nat) :
    Fits (n + 1) f.toJson := by
  cases hid : f.id <;> simp [toJson, hid, Value.fits h n, optionalMember, -Prod.forall]

theorem Filter.ensures_isRead : Ensures record.decoder fun f => f.comparison.IsRead := by
  have hblank : Comparison.ofName Comparison.equals.name = .equals := by decide
  refine .record ?_ hblank
  intro f hf
  simp only [record, List.mem_cons, List.not_mem_nil, or_false] at hf
  rcases hf with rfl | rfl | rfl | rfl
  · exact Field.keeps_set fun _ _ h => h
  · exact Field.keeps_set fun _ _ h => h
  · exact Field.keeps_of Comparison.ensures_isRead fun _ _ h _ => h
  · exact Field.keeps_set fun _ _ h => h

/-! ## Models, listings and aliases -/

/-- A model that was read: no table is selected twice. -/
def Model.IsRead (m : Model) : Prop := m.tableNames.Nodup

theorem Model.decodes {m : Model} (h : m.IsRead) : Decodes decoder m.toJson m :=
  (Decodes.entries h fun t _ => decodes_strings t.2).map Model.mk

theorem Model.fits (m : Model) (n : Nat) : Fits (n + 2) m.toJson :=
  fits_object_iff.2 (List.forall_mem_map.2 fun t _ => fits_texts t.2)

theorem Model.ensures_isRead : Ensures decoder IsRead :=
  Ensures.entries.map fun _ h => h

theorem Listing.decodes (l : Listing) : Decodes record.decoder l.toJson l := by
  have hfills : Fills record.fields record.blank
      [("name", .text l.name), ("fields", .texts l.fields)] l :=
    .member (decodes_string _) (.member (decodes_strings _) .nil)
  exact hfills.decodes (by decide)

theorem Listing.fits (l : Listing) (n : Nat) : Fits (n + 2) l.toJson := by
  simp [toJson]

/-- Aliases that were read: each key has one. -/
def Aliases.IsRead (a : Aliases) : Prop := (Entries.keys a.names).Nodup

theorem Aliases.decodes_listed {names : Entries String} (h : IsRead ⟨names⟩) :
    Decodes decoder (listed names) ⟨names⟩ := by
  have hpairs := (Decodes.pairs "a map" fun (p : String × String) (_ : p ∈ names) =>
    decodes_string p.2).map fun ps => (⟨Entries.ofList ps⟩ : Aliases)
  rw [Entries.ofList_of_nodup h] at hpairs
  exact hpairs

theorem Aliases.fits_listed (names : Entries String) (n : Nat) : Fits (n + 1) (listed names) :=
  fits_object_iff.2 (List.forall_mem_map.2 fun _ _ => .text)

theorem Aliases.ensures_isRead : Ensures decoder IsRead :=
  (ensures_true _).map fun ps _ => Entries.nodup_keys_ofList ps

end QueryLoom
