import Mathlib.Data.List.ProdSigma
import QueryLoom.Proofs.Decimal.Written
import QueryLoom.Proofs.Entries
import QueryLoom.Proofs.Sql.Lexing
import QueryLoom.Query.Plan
import QueryLoom.Row

/-!
# Names of pivot columns

A pivot column is named after a value and a measure, with a separator between.

1. **Plain text**: values of one kind with the same plain text are the same
   (`Value.eq_of_display`).
2. **Names**: `Confused` lists the ways in which two different pairs can have the same name: values
   of different kinds that are written alike, and a separator that stands inside a value and inside
   a label. There is no other way (`pivotName_eq_iff`).
3. **Cells**: a row that is read under a list of names keeps all its cells exactly if the names are
   distinct (`Row.keeps_iff`).
4. **Columns**: so the columns of a pivot keep all cells exactly if no two pairs are confused
   (`Scope.pivotNames_nodup_iff`).
-/

namespace QueryLoom

open Sql

/-! ## Plain text -/

/-- The kinds of values. -/
inductive Value.Kind where
  | null
  | integer
  | real
  | text
deriving DecidableEq, Repr

namespace Value

def kind : Value → Kind
  | .null => .null
  | .integer _ => .integer
  | .real _ => .real
  | .text _ => .text

/-- Whether a real value is finite. -/
def IsFinite : Value → Prop
  | .real x => x.isFinite = true
  | .null | .integer _ | .text _ => True

theorem isPositional_plainLayout : plainLayout.IsPositional where
  noFrom := rfl
  noTo := rfl
  noPoint := rfl

/-- Among values of one kind the plain text tells which it is. -/
theorem eq_of_display {v w : Value} (hv : v.IsFinite) (hw : w.IsFinite) (hkind : v.kind = w.kind)
    (h : v.display = w.display) : v = w := by
  cases v with
  | null =>
    cases w with
    | null => rfl
    | integer | real | text => cases hkind
  | integer m =>
    cases w with
    | integer n =>
      have hint := Decimal.integer_inj (String.ofList_injective h)
      rw [Int64.toInt_inj.1 hint]
    | null | real | text => cases hkind
  | real x =>
    cases w with
    | real y =>
      have hwritten := String.ofList_injective h
      rw [Decimal.Layout.write_inj isPositional_plainLayout rfl hv hw hwritten]
    | null | integer | text => cases hkind
  | text s =>
    cases w with
    | text t =>
      have hst : s = t := h
      rw [hst]
    | null | integer | real => cases hkind

end Value

/-! ## Names -/

/-- The name of the column for a value and a measure. -/
def pivotName (p : Value × Measure) : String := p.1.display ++ " - " ++ p.2.pivotedLabel

/-- How two pairs come to have one name: the values are of different kinds and written alike, or
what is a separator in the name of the first stands inside the value of the second, whole or but for
its last blank. -/
inductive Confused (p q : Value × Measure) : Prop where
  | alike : p.1.kind ≠ q.1.kind → p.1.display = q.1.display →
    p.2.pivotedLabel = q.2.pivotedLabel → Confused p q
  | inside (x : String) : q.1.display = p.1.display ++ " - " ++ x →
    p.2.pivotedLabel = x ++ " - " ++ q.2.pivotedLabel → Confused p q
  | across : q.1.display = p.1.display ++ " -" →
    p.2.pivotedLabel = "- " ++ q.2.pivotedLabel → Confused p q

theorem Confused.pivotName_eq {p q : Value × Measure} (h : Confused p q) :
    pivotName p = pivotName q := by
  rw [pivotName, pivotName]
  cases h with
  | alike _ hdisplay hlabel => rw [hdisplay, hlabel]
  | inside x hdisplay hlabel => rw [hdisplay, hlabel]; simp only [String.append_assoc]
  | across hdisplay hlabel =>
    rw [hdisplay, hlabel]
    apply String.toList_inj.1
    simp only [String.toList_append, List.append_assoc]
    rfl

/-- What follows two separators, the second of which stands further on. -/
theorem separator_cases {x l k : List Char}
    (h : [' ', '-', ' '] ++ l = x ++ ([' ', '-', ' '] ++ k)) :
    (x = [] ∧ l = k) ∨ (x = [' ', '-'] ∧ l = ['-', ' '] ++ k) ∨
      ∃ y, x = [' ', '-', ' '] ++ y ∧ l = y ++ ([' ', '-', ' '] ++ k) := by
  match x with
  | [] => exact .inl ⟨rfl, List.append_cancel_left h⟩
  | [c] =>
    -- a minus would have to be a blank
    cases h
  | [c, d] =>
    cases h
    exact .inr (.inl ⟨rfl, rfl⟩)
  | c :: d :: e :: y =>
    cases h
    exact .inr (.inr ⟨y, rfl, rfl⟩)

/-- Two pairs with one name, the value of the first being no longer than that of the second. -/
theorem eq_or_confused_of_append {p q : Value × Measure} {x : List Char}
    (hdisplay : q.1.display.toList = p.1.display.toList ++ x)
    (h : [' ', '-', ' '] ++ p.2.pivotedLabel.toList =
      x ++ ([' ', '-', ' '] ++ q.2.pivotedLabel.toList)) :
    (p.1.display = q.1.display ∧ p.2.pivotedLabel = q.2.pivotedLabel) ∨ Confused p q := by
  rcases separator_cases h with ⟨rfl, hlabel⟩ | ⟨rfl, hlabel⟩ | ⟨y, rfl, hlabel⟩
  · rw [List.append_nil] at hdisplay
    exact .inl ⟨(String.toList_inj.1 hdisplay).symm, String.toList_inj.1 hlabel⟩
  · refine .inr (.across (String.toList_inj.1 ?_) (String.toList_inj.1 ?_))
    · rw [hdisplay, String.toList_append]
      rfl
    · rw [hlabel, String.toList_append]
      rfl
  · refine .inr (.inside (String.ofList y) (String.toList_inj.1 ?_) (String.toList_inj.1 ?_))
    · simp only [hdisplay, String.toList_append, String.toList_ofList, List.append_assoc]
      rfl
    · simp only [hlabel, String.toList_append, String.toList_ofList, List.append_assoc]
      rfl

/-- Pairs have the same name only if they show the same value under the same label, or one is
confused with the other. -/
theorem eq_or_confused {p q : Value × Measure} (h : pivotName p = pivotName q) :
    (p.1.display = q.1.display ∧ p.2.pivotedLabel = q.2.pivotedLabel) ∨
      Confused p q ∨ Confused q p := by
  have hchars : p.1.display.toList ++ ([' ', '-', ' '] ++ p.2.pivotedLabel.toList) =
      q.1.display.toList ++ ([' ', '-', ' '] ++ q.2.pivotedLabel.toList) := by
    have hlist := congrArg String.toList h
    simp only [pivotName, String.toList_append, List.append_assoc] at hlist
    exact hlist
  rcases List.append_eq_append_iff.1 hchars with ⟨x, hdisplay, hlabel⟩ | ⟨x, hdisplay, hlabel⟩
  · rcases eq_or_confused_of_append hdisplay hlabel with hsame | hconfused
    · exact .inl hsame
    · exact .inr (.inl hconfused)
  · rcases eq_or_confused_of_append hdisplay hlabel with hsame | hconfused
    · exact .inl ⟨hsame.1.symm, hsame.2.symm⟩
    · exact .inr (.inr hconfused)

/-- No pair is confused with itself. -/
theorem Confused.ne {p q : Value × Measure} (h : Confused p q) : p ≠ q := by
  rintro rfl
  cases h with
  | alike hkind _ _ => exact hkind rfl
  | inside x hdisplay _ =>
    have hlength := congrArg String.length hdisplay
    have hseparator : " - ".length = 3 := by decide
    rw [String.length_append, String.length_append] at hlength
    omega
  | across hdisplay _ =>
    have hlength := congrArg String.length hdisplay
    have hseparator : " -".length = 2 := by decide
    rw [String.length_append] at hlength
    omega

/-- Among pairs of finite values and of measures with distinct labels, two have the same name
exactly if they are the same or one is confused with the other. -/
theorem pivotName_eq_iff {p q : Value × Measure} (hp : p.1.IsFinite) (hq : q.1.IsFinite)
    (hlabel : p.2.pivotedLabel = q.2.pivotedLabel → p.2 = q.2) :
    pivotName p = pivotName q ↔ p = q ∨ Confused p q ∨ Confused q p := by
  constructor
  · intro h
    rcases eq_or_confused h with ⟨hdisplay, hsame⟩ | hconfused
    · by_cases hkind : p.1.kind = q.1.kind
      · exact .inl (Prod.ext (Value.eq_of_display hp hq hkind hdisplay) (hlabel hsame))
      · exact .inr (.inl (.alike hkind hdisplay hsame))
    · exact .inr hconfused
  · rintro (rfl | h | h)
    · rfl
    · exact h.pivotName_eq
    · exact h.pivotName_eq.symm

/-! ## Cells -/

namespace Entries

/-- Of pairs with distinct keys each is found after all have been set, whatever was set before. -/
theorem get?_ofList_append {α : Type} {ps : List (String × α)} (h : (keys ps).Nodup)
    (front : List (String × α)) {p : String × α} (hp : p ∈ ps) :
    get? (ofList (front ++ ps)) p.1 = some p.2 := by
  induction ps using List.reverseRecOn with
  | nil => cases hp
  | append_singleton ps last ih =>
    simp only [keys, List.map_append, List.map_cons, List.map_nil] at h
    obtain ⟨hps, -, hdisjoint⟩ := List.nodup_append.1 h
    rw [← List.append_assoc, ofList_append_singleton]
    rcases List.mem_append.1 hp with hp | hp
    · have hne : p.1 ≠ last.1 :=
        hdisjoint _ (List.mem_map_of_mem hp) _ (List.mem_singleton_self _)
      rw [get?_put_of_ne _ _ hne]
      exact ih hps hp
    · rw [List.mem_singleton.1 hp]
      exact get?_put_self _ _ _

end Entries

namespace Row

/-- Whether a row read under a list of names, after cells under other names, keeps the cell of each
name. -/
def Keeps (names : List String) : Prop :=
  ∀ (front : List (String × Value)) (cells : List Value), cells.length = names.length →
    ∀ p ∈ names.zip cells, (Row.ofList (front ++ names.zip cells)).get? p.1 = some p.2

/-- All cells are kept exactly if the names are distinct. -/
theorem keeps_iff {names : List String} : Keeps names ↔ names.Nodup := by
  constructor
  · intro hkeeps
    rw [List.Nodup, List.pairwise_iff_getElem]
    intro i j hi hj hij hsame
    -- two different cells under one name
    let cells : List Value :=
      (List.range names.length).map fun k => if k = i then .null else .text ""
    have hlength : cells.length = names.length := by simp [cells]
    have hmem (k : Nat) (hk : k < names.length) :
        (names[k], if k = i then Value.null else .text "") ∈ names.zip cells := by
      rw [List.mem_iff_getElem]
      refine ⟨k, by simp [hlength, hk], ?_⟩
      simp [cells]
    have hfirst := hkeeps [] cells hlength _ (hmem i hi)
    have hsecond := hkeeps [] cells hlength _ (hmem j hj)
    rw [if_pos rfl] at hfirst
    rw [if_neg (by omega), ← hsame, hfirst] at hsecond
    cases hsecond
  · intro hnodup front cells hlength p hp
    have hkeys : (Entries.keys (names.zip cells)).Nodup := by
      rw [Entries.keys, List.map_fst_zip (by omega)]
      exact hnodup
    exact Entries.get?_ofList_append hkeys front hp

end Row

/-! ## Columns -/

/-- Different names are written differently. -/
theorem Sql.Token.write_name_inj (d : Dialect) {s t : String}
    (h : (Token.name s).write d = (Token.name t).write d) : s = t := by
  have hread (n : String) : Token.scan d.quotes ((Token.name n).write d) = .ok [.name n] := by
    have hreadable : Readable [.name n] :=
      ⟨List.forall_mem_singleton.2 trivial, List.isChain_singleton _⟩
    have hscan := scan_writeAll (suits_dialect d) hreadable
    rwa [Token.writeAll, List.flatMap_singleton] at hscan
  have hsame := hread s
  rw [h, hread t] at hsame
  cases hsame
  rfl

namespace Scope

variable (s : Scope)

/-- The columns for values and measures are named after the pairs of a value and a measure, all
measures of the first value first. A measure without a column is left out. -/
theorem names_aggregateWhere (pivot : Column) (values : List Value) (measures : List Measure) :
    (values.flatMap fun v => measures.filterMap (s.aggregateWhere? pivot v)).map (·.name) =
      ((values ×ˢ measures.filter fun m => (s.column? m.field).isSome).map pivotName).map some := by
  have hmeasures (v : Value) : (measures.filterMap (s.aggregateWhere? pivot v)).map (·.name) =
      (((measures.filter fun m => (s.column? m.field).isSome).map (Prod.mk v)).map pivotName).map
        some := by
    induction measures with
    | nil => rfl
    | cons m ms ih =>
      rw [List.filterMap_cons, List.filter_cons, aggregateWhere?]
      cases s.column? m.field with
      | none => exact ih
      | some c => exact congrArg (List.cons _) ih
  induction values with
  | nil => rfl
  | cons v vs ih =>
    rw [List.flatMap_cons, List.product_cons, List.map_append, List.map_append, List.map_append,
      hmeasures, ih]

/-- The columns of a pivot for distinct values, the real ones among them finite, and for measures
with distinct labels: their names are those of the pairs of a value and a measure. In every dialect
the written names are distinct, and a row that is read under them keeps all cells, exactly if no
pair is confused with another. -/
theorem pivotNames_nodup_iff (pivot : Column) {values : List Value} {measures : List Measure}
    (hvalues : values.Nodup) (hfinite : ∀ v ∈ values, v.IsFinite)
    (hlabels : (measures.map (·.pivotedLabel)).Nodup) :
    let outputs := values.flatMap fun v => measures.filterMap (s.aggregateWhere? pivot v)
    let pairs := values ×ˢ measures.filter fun m => (s.column? m.field).isSome
    let names := pairs.map pivotName
    outputs.map (·.name) = names.map some ∧
    (∀ d : Dialect, (names.map fun n => (Token.name n).write d).Nodup ↔
      ∀ p ∈ pairs, ∀ q ∈ pairs, ¬ Confused p q) ∧
    (Row.Keeps names ↔ ∀ p ∈ pairs, ∀ q ∈ pairs, ¬ Confused p q) := by
  intro outputs pairs names
  have hmeasures : measures.Nodup := hlabels.of_map
  have hpairs : pairs.Nodup := hvalues.product (hmeasures.filter _)
  have hlabel {p q : Value × Measure} (hp : p ∈ pairs) (hq : q ∈ pairs)
      (h : p.2.pivotedLabel = q.2.pivotedLabel) : p.2 = q.2 :=
    List.inj_on_of_nodup_map hlabels (List.mem_of_mem_filter (List.mem_product.1 hp).2)
      (List.mem_of_mem_filter (List.mem_product.1 hq).2) h
  have hfinite' {p : Value × Measure} (hp : p ∈ pairs) : p.1.IsFinite :=
    hfinite _ (List.mem_product.1 hp).1
  have hnames : names.Nodup ↔ ∀ p ∈ pairs, ∀ q ∈ pairs, ¬ Confused p q := by
    rw [List.nodup_map_iff_inj_on hpairs]
    constructor
    · intro hinj p hp q hq hconfused
      exact hconfused.ne (hinj p hp q hq hconfused.pivotName_eq)
    · intro hnone p hp q hq hname
      rcases (pivotName_eq_iff (hfinite' hp) (hfinite' hq) (hlabel hp hq)).1 hname with
        heq | hconfused | hconfused
      · exact heq
      · exact absurd hconfused (hnone p hp q hq)
      · exact absurd hconfused (hnone q hq p hp)
  refine ⟨s.names_aggregateWhere pivot values measures, fun d => ?_, ?_⟩
  · have hwrite : Function.Injective fun n : String => (Token.name n).write d :=
      fun _ _ h => Token.write_name_inj d h
    rw [List.nodup_map_iff hwrite, hnames]
  · rw [Row.keeps_iff, hnames]

/-- An integer, a real number and a text that looks like the start of a name, with two measures. -/
theorem pivotNames_nodup_iff_mixed :
    let s : Scope := { model := ⟨[("jobs", ["level", "total"])]⟩ }
    let pivot : Column := ⟨"jobs", "level"⟩
    let values : List Value := [.integer 1, .real (Float.ofBits 0x3ff8000000000000), .text "1 -"]
    let measures : List Measure := [⟨"total", .sum, none⟩, ⟨"total", .max, some "Peak"⟩]
    let names : List String :=
      ["1 - SUM of total", "1 - Peak", "1.5 - SUM of total", "1.5 - Peak", "1 - - SUM of total",
        "1 - - Peak"]
    (values.Nodup ∧ (∀ v ∈ values, v.IsFinite) ∧ (measures.map (·.pivotedLabel)).Nodup) ∧
      (values.flatMap fun v => measures.filterMap (s.aggregateWhere? pivot v)).map (·.name) =
        names.map some ∧
      Row.Keeps names := by
  intro s pivot values measures names
  have hvalues : values.Nodup := by simp [values]
  have hfinite : ∀ v ∈ values, v.IsFinite := by
    simp only [values, List.forall_mem_cons]
    exact ⟨trivial, rfl, trivial, nofun⟩
  have hlabels : (measures.map (·.pivotedLabel)).Nodup := by decide
  have hreal : (Value.real (Float.ofBits 0x3ff8000000000000)).display = "1.5" := by
    have hparts : Decimal.Parts.ofFloat (Float.ofBits 0x3ff8000000000000) =
        .finite false ⟨0x18000000000000, -52, false⟩ := by
      decide
    have hshortest : (⟨0x18000000000000, -52, false⟩ : Decimal.Binary).shortest =
        .normal 15 (-1) := rfl
    have hnormal : Decimal.Digits.normal 15 (-1) = ⟨15, -1⟩ := by
      rw [Decimal.Digits.normal, dif_neg (by decide)]
    rw [Value.display, Decimal.Layout.write, hparts, Decimal.Layout.parts, hshortest, hnormal]
    rfl
  have hpairs : (values ×ˢ measures.filter fun m => (s.column? m.field).isSome).map pivotName =
      names := by
    have hdisplays : values.map (·.display) = ["1", "1.5", "1 -"] := by
      rw [List.map_cons, List.map_cons, hreal]
      decide
    show ((values.map (·.display)).flatMap fun t =>
      measures.map fun m => t ++ " - " ++ m.pivotedLabel) = names
    rw [hdisplays]
    decide
  obtain ⟨hnames, hwritten, hkeeps⟩ := s.pivotNames_nodup_iff pivot hvalues hfinite hlabels
  rw [hpairs] at hnames hwritten hkeeps
  exact ⟨⟨hvalues, hfinite, hlabels⟩, hnames, hkeeps.2 ((hwritten .sqlite).1 (by decide))⟩

/-- Columns for different values need not have different names. -/
theorem not_pivotNames_nodup :
    ¬ ∀ (s : Scope) (pivot : Column) (values : List Value) (measures : List Measure),
      values.Nodup → (∀ v ∈ values, v ≠ .null ∧ v.IsFinite) →
        (measures.map (·.pivotedLabel)).Nodup →
          ((values.flatMap fun v => measures.filterMap (s.aggregateWhere? pivot v)).map
            (·.name)).Nodup := by
  intro hall
  have hnodup := hall { model := ⟨[("jobs", ["level", "total"])]⟩ } ⟨"jobs", "level"⟩
    [.integer 1, .text "1"] [⟨"total", .sum, none⟩] (by simp)
    (by
      simp only [List.forall_mem_cons]
      exact ⟨⟨nofun, trivial⟩, ⟨nofun, trivial⟩, nofun⟩)
    (by decide)
  exact absurd hnodup (by decide)

end Scope

end QueryLoom
