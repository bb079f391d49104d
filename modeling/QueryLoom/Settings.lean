import QueryLoom.Sql.Dialect

/-!
# Settings

`Settings` says where the store is, which dialect its SQL is in, and what is logged. Every part has
a default.
-/

namespace QueryLoom

/-- The store's place, a file or `:memory:`, and its dialect. -/
structure StoreSettings where
  path : String := ":memory:"
  dialect : Sql.Dialect := .sqlite
deriving DecidableEq, Repr, Inhabited

namespace StoreSettings

def toJson (s : StoreSettings) : Json :=
  .object [("path", .text s.path), ("dialect", s.dialect.toJson)]

def record : Json.Record StoreSettings where
  noun := "struct StoreSettings"
  blank := {}
  fields :=
    [.of "path" .defaulted .string fun s x => { s with path := x },
     .of "dialect" .defaulted Sql.Dialect.decoder fun s d => { s with dialect := d }]

end StoreSettings

/-- What is logged. -/
structure LoggingSettings where
  filter : String := "info"
deriving DecidableEq, Repr, Inhabited

namespace LoggingSettings

def toJson (s : LoggingSettings) : Json := .object [("filter", .text s.filter)]

def record : Json.Record LoggingSettings where
  noun := "struct LoggingSettings"
  blank := {}
  fields := [.of "filter" .defaulted .string fun _ x => ⟨x⟩]

end LoggingSettings

/-- The settings of the program. -/
structure Settings where
  store : StoreSettings := {}
  logging : LoggingSettings := {}
deriving DecidableEq, Repr, Inhabited

namespace Settings

def toJson (s : Settings) : Json :=
  .object [("store", s.store.toJson), ("logging", s.logging.toJson)]

def record : Json.Record Settings where
  noun := "struct Settings"
  blank := {}
  fields :=
    [.of "store" .defaulted StoreSettings.record.decoder fun s x => { s with store := x },
     .of "logging" .defaulted LoggingSettings.record.decoder fun s x => { s with logging := x }]

end Settings

end QueryLoom
