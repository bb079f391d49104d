import QueryLoom.Proofs.Json.Whole
import QueryLoom.Proofs.Request.Parts
import QueryLoom.Row

/-!
# Ordered maps in JSON

Models, rows and datasets are maps whose keys have an order. In JSON they are objects, in which a
key may stand more than once.

1. **Inserting**: `Model.inserted`, `Row.inserted` and `Dataset.inserted` are what comes of
   inserting pairs one after the other into nothing (`Row.inserted_eq` and its like).
2. **Decoding**: the object of such pairs, `Model.listed` and its like, is decoded to what comes of
   inserting them (`Model.decodes_listed`, `Row.decodes_listed`, `Dataset.decodes_listed`).
3. **Main statement**: `decode_inserts` says so of every text that reads as the object, and that
   what came out has each key once and comes back from its own JSON.
-/

namespace QueryLoom

open Json

namespace Json

variable {α : Type} {dec : Decoder α} {v : Json} {a : α}

/-- Whether every text that reads as a JSON value is decoded to `a`. -/
def DecodesTexts (dec : Decoder α) (v : Json) (a : α) : Prop :=
  ∀ s, Decoder.any.text s = .ok v → dec.text s = .ok a

/-- Whether both written forms of a JSON value are decoded to `a`. -/
def DecodesWritten (dec : Decoder α) (v : Json) (a : α) : Prop :=
  dec.text v.compact = .ok a ∧ dec.text v.indented = .ok a

theorem Decodes.texts (h : Decodes dec v a) : DecodesTexts dec v a := fun _ hs => h.text hs

theorem Decodes.written (h : Decodes dec v a) {n : Nat} (hfits : Fits n v) (hn : n < depthLimit) :
    DecodesWritten dec v a :=
  ⟨h.text_compact hfits hn, h.text_indented hfits hn⟩

end Json

/-! ## Models -/

namespace Model

/-- The JSON object whose members are tables with their fields. -/
def listed (tables : List (String × List String)) : Json :=
  .object (tables.map fun t => (t.1, .texts t.2))

/-- The model that tables come to, inserted one after the other. -/
def inserted (tables : List (String × List String)) : Model :=
  tables.foldl (fun m t => m.insert t.1 t.2) {}

theorem inserted_eq (tables : List (String × List String)) :
    inserted tables = ⟨Entries.ofList tables⟩ :=
  List.foldl_hom Model.mk fun _ _ => rfl

theorem decodes_listed (tables : List (String × List String)) :
    Decodes decoder (listed tables) (inserted tables) := by
  have hfields : ∀ t ∈ tables, Decodes .strings (.texts t.2) (id t.2) :=
    fun t _ => decodes_strings t.2
  have hentries := (Decodes.entries_map hfields).map Model.mk
  have hid : (tables.map fun t => (t.1, id t.2)) = tables := List.map_id tables
  rw [hid, ← inserted_eq] at hentries
  exact hentries

end Model

/-! ## Rows -/

theorem Value.decodes_toJson (v : Value) : Decodes decoder v.toJson v := by
  cases v with
  | real x => exact fun _ _ => rfl
  | null | integer _ | text _ => exact decodes nofun

namespace Row

/-- The JSON object whose members are cells. -/
def listed (cells : List (String × Value)) : Json :=
  .object (cells.map fun c => (c.1, c.2.toJson))

/-- The row that cells come to, inserted one after the other. -/
def inserted (cells : List (String × Value)) : Row :=
  cells.foldl (fun r c => r.insert c.1 c.2) {}

theorem inserted_eq (cells : List (String × Value)) : inserted cells = .ofList cells :=
  List.foldl_hom Row.mk fun _ _ => rfl

theorem decodes_listed (cells : List (String × Value)) :
    Decodes decoder (listed cells) (inserted cells) := by
  have hvalues : ∀ c ∈ cells, Decodes Value.decoder c.2.toJson (id c.2) :=
    fun c _ => c.2.decodes_toJson
  have hentries := (Decodes.entries_map hvalues).map Row.mk
  have hid : (cells.map fun c => (c.1, id c.2)) = cells := List.map_id cells
  rw [hid] at hentries
  rw [inserted_eq]
  exact hentries

theorem decodes {r : Row} (h : r.columns.Nodup) : Decodes decoder r.toJson r :=
  (Decodes.entries h fun c _ => c.2.decodes_toJson).map Row.mk

theorem nodup_columns_inserted (cells : List (String × Value)) :
    (inserted cells).columns.Nodup := by
  rw [inserted_eq]
  exact Entries.nodup_keys_ofList cells

/-- Whether no cell is a real number. -/
def IsExact (r : Row) : Prop := ∀ c ∈ r.cells, ∀ x, c.2 ≠ .real x

theorem fits {r : Row} (h : r.IsExact) (n : Nat) : Fits (n + 1) r.toJson :=
  fits_object_iff.2 (List.forall_mem_map.2 fun c hc => Value.fits (h c hc) n)

end Row

/-! ## Datasets -/

namespace Dataset

/-- The JSON object whose members are tables with the cells of their rows. -/
def listed (tables : List (String × List (List (String × Value)))) : Json :=
  .object (tables.map fun t => (t.1, .array (t.2.map Row.listed)))

/-- The rows of each table, their cells inserted one after the other. -/
def rowsInserted (tables : List (String × List (List (String × Value)))) :
    List (String × List Row) :=
  tables.map fun t => (t.1, t.2.map Row.inserted)

/-- The dataset that tables come to, inserted one after the other. -/
def inserted (tables : List (String × List (List (String × Value)))) : Dataset :=
  (rowsInserted tables).foldl (fun ds t => ds.withTable t.1 t.2) {}

variable (tables : List (String × List (List (String × Value))))

theorem inserted_eq : inserted tables = ⟨Entries.ofList (rowsInserted tables)⟩ :=
  List.foldl_hom Dataset.mk fun _ _ => rfl

theorem decodes_listed : Decodes decoder (listed tables) (inserted tables) := by
  have hrows : ∀ t ∈ tables,
      Decodes (.list Row.decoder) (.array (t.2.map Row.listed)) (t.2.map Row.inserted) :=
    fun _ _ => Decodes.list_map fun cells _ => Row.decodes_listed cells
  rw [inserted_eq]
  exact (Decodes.entries_map (f := Json.array ∘ List.map Row.listed) (g := List.map Row.inserted)
    hrows).map Dataset.mk

theorem nodup_columns_of_mem {t : String × List Row} (ht : t ∈ (inserted tables).tables) {r : Row}
    (hr : r ∈ t.2) : r.columns.Nodup := by
  rw [inserted_eq] at ht
  obtain ⟨u, -, rfl⟩ := List.mem_map.1 (Entries.mem_of_mem_ofList ht)
  obtain ⟨cells, -, rfl⟩ := List.mem_map.1 hr
  exact Row.nodup_columns_inserted cells

variable {tables} {ds : Dataset}

theorem decodes (h : (Entries.keys ds.tables).Nodup)
    (hrows : ∀ t ∈ ds.tables, ∀ r ∈ t.2, r.columns.Nodup) : Decodes decoder ds.toJson ds := by
  have hlist : ∀ t ∈ ds.tables,
      Decodes (.list Row.decoder) (.array (t.2.map Row.toJson)) t.2 :=
    fun t ht => Decodes.list fun r hr => Row.decodes (hrows t ht r hr)
  exact (Decodes.entries (f := Json.array ∘ List.map Row.toJson) h hlist).map Dataset.mk

/-- Whether no cell is a real number. -/
def IsExact (ds : Dataset) : Prop := ∀ t ∈ ds.tables, ∀ r ∈ t.2, r.IsExact

theorem fits (h : ds.IsExact) (n : Nat) : Fits (n + 3) ds.toJson :=
  fits_object_iff.2 <| List.forall_mem_map.2 fun t ht =>
    fits_array_iff.2 (List.forall_mem_map.2 fun r hr => Row.fits (h t ht r hr) n)

end Dataset

/-! ## Main statement -/

/-- Every text that reads as the JSON object of tables, of cells or of tables of rows, with keys
repeated at will, is decoded to what comes of inserting its members one after the other into
nothing. The keys of what comes out are distinct and stand in the order in which they are first
mentioned, each with the value that is mentioned last. What came out is decoded from every text that
reads as its own JSON, in particular from both forms in which it is written, real numbers set
aside. -/
theorem decode_inserts :
    (∀ tables : List (String × List String),
      let m := Model.inserted tables
      DecodesTexts Model.decoder (Model.listed tables) m ∧
      Entries.Collects tables m.tables ∧
      DecodesTexts Model.decoder m.toJson m ∧ DecodesWritten Model.decoder m.toJson m) ∧
    (∀ cells : List (String × Value),
      let r := Row.inserted cells
      DecodesTexts Row.decoder (Row.listed cells) r ∧
      Entries.Collects cells r.cells ∧
      DecodesTexts Row.decoder r.toJson r ∧
      (r.IsExact → DecodesWritten Row.decoder r.toJson r)) ∧
    (∀ tables : List (String × List (List (String × Value))),
      let ds := Dataset.inserted tables
      DecodesTexts Dataset.decoder (Dataset.listed tables) ds ∧
      Entries.Collects (tables.map fun t => (t.1, t.2.map Row.inserted)) ds.tables ∧
      DecodesTexts Dataset.decoder ds.toJson ds ∧
      (ds.IsExact → DecodesWritten Dataset.decoder ds.toJson ds)) := by
  refine ⟨?models, ?rows, ?datasets⟩
  case models =>
    intro tables m
    have hcollects : Entries.Collects tables m.tables := by
      rw [show m = _ from Model.inserted_eq tables]
      exact Entries.collects_ofList tables
    have hagain : Decodes Model.decoder m.toJson m := Model.decodes hcollects.nodup
    exact ⟨(Model.decodes_listed tables).texts, hcollects, hagain.texts,
      hagain.written (m.fits 0) (by decide)⟩
  case rows =>
    intro cells r
    have hcollects : Entries.Collects cells r.cells := by
      rw [show r = _ from Row.inserted_eq cells]
      exact Entries.collects_ofList cells
    have hagain : Decodes Row.decoder r.toJson r := Row.decodes hcollects.nodup
    exact ⟨(Row.decodes_listed cells).texts, hcollects, hagain.texts,
      fun hexact => hagain.written (Row.fits hexact 0) (by decide)⟩
  case datasets =>
    intro tables ds
    have hcollects : Entries.Collects (Dataset.rowsInserted tables) ds.tables := by
      rw [show ds = _ from Dataset.inserted_eq tables]
      exact Entries.collects_ofList (Dataset.rowsInserted tables)
    have hagain : Decodes Dataset.decoder ds.toJson ds :=
      Dataset.decodes hcollects.nodup fun t ht r hr => Dataset.nodup_columns_of_mem tables ht hr
    exact ⟨(Dataset.decodes_listed tables).texts, hcollects, hagain.texts,
      fun hexact => hagain.written (Dataset.fits hexact 0) (by decide)⟩

/-- A model, a row and a dataset in which keys stand more than once, at every level. -/
theorem decode_inserts_repeated :
    let model := Model.listed [("b", ["x"]), ("a", []), ("b", ["z", "z"])]
    let row := Row.listed [("n", .integer 1), ("s", .null), ("n", .text "2")]
    let dataset := Dataset.listed
      [("t", []), ("u", [[]]), ("t", [[("n", .integer 1), ("n", .integer 2)]])]
    let r : Row := ⟨[("n", .text "2"), ("s", .null)]⟩
    let ds : Dataset := ⟨[("t", [⟨[("n", .integer 2)]⟩]), ("u", [{}])]⟩
    Model.decoder.text model.compact = .ok ⟨[("b", ["z", "z"]), ("a", [])]⟩ ∧
      Row.decoder.text row.indented = .ok r ∧ Row.decoder.text r.toJson.compact = .ok r ∧
      Dataset.decoder.text dataset.compact = .ok ds ∧
      Dataset.decoder.text ds.toJson.indented = .ok ds := by
  intro model row dataset r ds
  obtain ⟨hmodels, hrows, hdatasets⟩ := decode_inserts
  have hmodel : Fits 2 model := by
    simp [model, Model.listed]
  have hrow : Fits 1 row := by
    simp [row, Row.listed, Value.toJson, Number.IsInteger]
  have hdataset : Fits 3 dataset := by
    simp [dataset, Dataset.listed, Row.listed, Value.toJson, Number.IsInteger]
  have hr : r.IsExact := by
    simp [r, Row.IsExact]
  have hds : ds.IsExact := by
    simp [ds, Dataset.IsExact, Row.IsExact]
  refine ⟨?_, ?_, ?_, ?_, ?_⟩
  · exact (hmodels _).1 _ ((decodes_any model).text_compact hmodel (by decide))
  · exact (hrows _).1 _ ((decodes_any row).text_indented hrow (by decide))
  · exact ((hrows [("n", .integer 1), ("s", .null), ("n", .text "2")]).2.2.2 hr).1
  · exact (hdatasets _).1 _ ((decodes_any dataset).text_compact hdataset (by decide))
  · exact ((hdatasets
      [("t", []), ("u", [[]]), ("t", [[("n", .integer 1), ("n", .integer 2)]])]).2.2.2 hds).2

end QueryLoom
