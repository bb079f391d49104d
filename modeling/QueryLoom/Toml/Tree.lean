import QueryLoom.Entries

/-!
# TOML values

1. `Toml` is a value. A table remembers how it came to be, since that decides whether it can still be
   added to.
2. `Toml.insertAt` puts a value under a dotted key, `Toml.openTable` and `Toml.openItem` make room
   for the tables that headers name. They give none where a key would be defined twice.
-/

namespace QueryLoom

/-- How a table came to be. -/
inductive TableOrigin where
  /-- By the header of a table inside it. -/
  | implied
  /-- By a header of its own. -/
  | header
  /-- By a dotted key. -/
  | dotted
  /-- Between braces, where it is complete. -/
  | closed
deriving DecidableEq, Repr

/-- A TOML value. -/
inductive Toml where
  | text (s : String)
  | integer (n : Int)
  | real (x : Float)
  | bool (b : Bool)
  | time
  | array (items : List Toml)
  | table (origin : TableOrigin) (entries : List (String × Toml))
  /-- The tables that repeated headers give, the last one first. -/
  | tables (items : List (List (String × Toml)))
deriving Inhabited

namespace Toml

/-- The entries of a table. -/
abbrev Table := Entries Toml

/-- Whether a path may lead through a table: never through a complete one, and through one with a
header of its own only from another header. -/
def canEnter (byHeader : Bool) : TableOrigin → Bool
  | .closed => false
  | .header => byHeader
  | .implied | .dotted => true

/-- Changes the table that a path leads to, making the tables that are missing on the way. The
change is told how the table came to be. -/
def change (byHeader : Bool) (f : TableOrigin → Table → Option Table) :
    List String → TableOrigin → Table → Option Table
  | [], origin, t => f origin t
  | k :: ks, _, t =>
    let missing : TableOrigin := if byHeader then .implied else .dotted
    match Entries.get? t k with
    | none => (change byHeader f ks missing []).map fun u => Entries.put t k (.table missing u)
    | some (.table origin u) =>
      if canEnter byHeader origin then
        (change byHeader f ks origin u).map fun u => Entries.put t k (.table origin u)
      else none
    | some (.tables (u :: us)) =>
      (change byHeader f ks .header u).map fun u => Entries.put t k (.tables (u :: us))
    | some _ => none

/-- Puts a value under a key that is not there. -/
def insertNew (k : String) (v : Toml) (t : Table) : Option Table :=
  if (Entries.get? t k).isSome then none else some (Entries.put t k v)

/-- Puts a value under a dotted key: the path to it and the key itself. -/
def insertAt (path : List String) (k : String) (v : Toml) (origin : TableOrigin) (t : Table) :
    Option Table :=
  change false
    (fun reached u => if path.isEmpty || reached = .dotted then insertNew k v u else none)
    path origin t

/-- Makes room for the table that a header names. -/
def openTable (path : List String) (k : String) (root : Table) : Option Table :=
  change true
    (fun _ t =>
      match Entries.get? t k with
      | none => some (Entries.put t k (.table .header []))
      | some (.table .implied u) => some (Entries.put t k (.table .header u))
      | some _ => none)
    path .header root

/-- Makes room for another of the tables that repeated headers name. -/
def openItem (path : List String) (k : String) (root : Table) : Option Table :=
  change true
    (fun _ t =>
      match Entries.get? t k with
      | none => some (Entries.put t k (.tables [[]]))
      | some (.tables us) => some (Entries.put t k (.tables ([] :: us)))
      | some _ => none)
    path .header root

/-- Puts a value under a dotted key of the table that the last header named. -/
def insertUnder (header path : List String) (k : String) (v : Toml) (root : Table) :
    Option Table :=
  change true (insertAt path k v) header .header root

end Toml

end QueryLoom
