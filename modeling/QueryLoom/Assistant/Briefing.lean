import QueryLoom.Assistant.Registry
import QueryLoom.Assistant.Suggestion
import QueryLoom.Text.Blank

/-!
# Briefings for the assistant

1. `Briefing` is what the assistant is told about: a workspace, descriptions of fields, metrics, the
   registry and sample values.
2. `Briefing.tiers` are the sections of the text, the most important first.
3. `Briefing.text` puts together as many tiers as the budget of characters allows. The first tier is
   cut to fit, of the others only whole ones are taken.
-/

namespace QueryLoom

/-- What the assistant is told about. Metadata and samples stand under qualified field names. -/
structure Briefing where
  workspace : Workspace := {}
  metadata : List (String × FieldMetadata) := []
  metrics : List Metric := []
  registry : List RegisteredTable := []
  samples : List (String × List String) := []
  /-- The greatest number of characters. -/
  budget : Nat := 10000

namespace Briefing

variable (b : Briefing)

/-- Lines with breaks between them. -/
def lines (ls : List String) : String := String.intercalate "\n" ls

/-- A blank line, the lines of a heading and the entries, or nothing if there are no entries. -/
def sectionText (heading entries : List String) : String :=
  if entries.isEmpty then "" else lines (("" :: heading) ++ entries)

/-- A description after a dash, a blank one counting as none. -/
def remark (description : Option String) : String :=
  match description.filter (· ≠ "") with
  | some d => " - " ++ d
  | none => ""

/-- Whether a qualified name belongs to a selected field. -/
def selects (name : String) : Bool :=
  b.workspace.model.columns.any fun c => qualifiedName c.1 c.2 = name

/-- A table of the model. -/
def tableLine (t : String × List String) : String :=
  "- **" ++ t.1 ++ "**: " ++ String.intercalate ", " t.2

/-- A declared join. -/
def joinLine (j : Join) : String :=
  "- " ++ j.left ++ " " ++ j.kind.sql ++ " " ++ j.right ++ " ON " ++ j.key.left ++ " = "
    ++ j.key.right

/-- The tier of the selected tables and the declared joins. -/
def modelTier : String :=
  let m := b.workspace.model
  lines
    ("## ACTIVE MODEL" ::
      (if m.isEmpty then ["No tables selected."]
        else "### Tables & Fields" :: m.tables.map tableLine)
      ++ (if b.workspace.joins.isEmpty then []
        else "" :: "### Joins" :: b.workspace.joins.map joinLine))

/-- The description of a field, none if nothing is known of it. -/
def metadataLine? (entry : String × FieldMetadata) : Option String :=
  if entry.2.kind.isNone && entry.2.description.isNone then none
  else
    let kind := match entry.2.kind with
      | some k => " [" ++ k.name ++ "]"
      | none => ""
    some ("- **" ++ entry.1 ++ "**" ++ kind ++ remark entry.2.description)

/-- The tier of field descriptions. -/
def metadataTier : String :=
  sectionText ["## FIELD METADATA"]
    ((b.metadata.filter fun e => b.selects e.1).filterMap metadataLine?)

/-- A metric. -/
def metricLine (m : Metric) : String :=
  "- **" ++ m.name ++ "**: `" ++ m.formula ++ "`" ++ remark m.description

/-- The tier of metrics. -/
def metricsTier : String := sectionText ["## AVAILABLE METRICS"] (b.metrics.map metricLine)

/-- The foreign key of a column. -/
def relationship? (c : RegisteredColumn) : Option String :=
  c.foreignKey.map fun k => c.name ++ " -> " ++ k.table ++ "." ++ k.column

/-- A table outside the model. -/
def registryLine (t : RegisteredTable) : String :=
  let relationships := t.columns.filterMap relationship?
  "- **" ++ t.name ++ "**" ++
    if relationships.isEmpty then ""
    else " (Relationships: " ++ String.intercalate "; " relationships ++ ")"

/-- The tier of tables outside the model. -/
def registryTier : String :=
  sectionText
    ["## OTHER AVAILABLE TABLES (In Registry)",
      "Not in the model yet. Offer them to the user with a suggest_fields command."]
    ((b.registry.filter fun t => !b.workspace.model.hasTable t.name).map registryLine)

/-- The first of the sample values of a field. -/
def samplesLine (entry : String × List String) : String :=
  "- " ++ entry.1 ++ ": " ++ String.intercalate ", " (entry.2.take 5)

/-- The tier of sample values. -/
def samplesTier : String :=
  sectionText ["## SAMPLE VALUES"]
    ((b.samples.filter fun e => b.selects e.1 && !e.2.isEmpty).map samplesLine)

/-- What a briefing begins with. -/
def header : String := "# SEMANTIC CONTEXT\n"

/-- The tiers after the first, empty ones left out. -/
def laterTiers : List String :=
  [b.metadataTier, b.metricsTier, b.registryTier, b.samplesTier].filter (· ≠ "")

/-- A text with whole tiers after it, as long as they fit. -/
def extend (budget : Nat) (text : List Char) : List (List Char) → List Char
  | [] => text
  | tier :: tiers =>
    let longer := text ++ '\n' :: tier
    if longer.length ≤ budget then extend budget longer tiers else text

/-- A header and tiers within a budget. -/
def assemble (budget : Nat) (header first : List Char) (later : List (List Char)) : List Char :=
  let start := header ++ '\n' :: first
  if start.length ≤ budget then extend budget start later else start.take budget

/-- The text of the briefing. -/
def text : String :=
  String.ofList
    (Text.trim
      (assemble b.budget header.toList b.modelTier.toList (b.laterTiers.map String.toList)))

end Briefing

end QueryLoom
