import QueryLoom.Settings
import QueryLoom.Toml.Reader

/-!
# Settings in TOML

`Settings.ofText?` reads settings from a TOML text. Keys that are not known are ignored. In place of
a table an array may give the values in order.
-/

namespace QueryLoom

/-- The named parts of a table, or of an array that gives them in order. -/
def Toml.parts? (names : List String) : Toml → Option Toml.Table
  | .table _ t => some t
  | .array vs => some (names.zip vs)
  | .tables us => some (names.zip (us.reverse.map (.table .header)))
  | _ => none

/-- The part of a name, read if it is there. -/
def Toml.part? {α : Type} (t : Toml.Table) (name : String) (read : Toml → Option α) (fallback : α) :
    Option α :=
  match Entries.get? t name with
  | none => some fallback
  | some v => read v

def Toml.text? : Toml → Option String
  | .text s => some s
  | _ => none

/-- Whether a value is a table or an array without anything in it. -/
def Toml.isVoid : Toml → Bool
  | .table _ t => t.isEmpty
  | .array vs => vs.isEmpty
  | _ => false

/-- A dialect by its name, or as a table of that one name, with nothing in it. -/
def Sql.Dialect.ofToml? : Toml → Option Dialect
  | .text s => names.lookup s
  | .table _ [(s, v)] => if v.isVoid then names.lookup s else none
  | _ => none

def StoreSettings.ofToml? (v : Toml) : Option StoreSettings := do
  let t ← v.parts? ["path", "dialect"]
  let s : StoreSettings := {}
  return ⟨← Toml.part? t "path" Toml.text? s.path,
    ← Toml.part? t "dialect" Sql.Dialect.ofToml? s.dialect⟩

def LoggingSettings.ofToml? (v : Toml) : Option LoggingSettings := do
  let t ← v.parts? ["filter"]
  let s : LoggingSettings := {}
  return ⟨← Toml.part? t "filter" Toml.text? s.filter⟩

def Settings.ofToml? (t : Toml.Table) : Option Settings := do
  return ⟨← Toml.part? t "store" StoreSettings.ofToml? {},
    ← Toml.part? t "logging" LoggingSettings.ofToml? {}⟩

/-- The settings that a TOML text describes. -/
def Settings.ofText? (s : String) : Option Settings := (Toml.ofText? s).bind Settings.ofToml?

end QueryLoom
