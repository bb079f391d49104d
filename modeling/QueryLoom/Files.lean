import QueryLoom.Settings.Expansion
import QueryLoom.Store.Database

/-!
# Files

1. `FileNode` is what stands at a path: a directory, a text, a database or something else.
2. `Errand` is a computation that may ask for variables, look at files, open databases and save
   them.
3. `FileTree` holds files by their places; `Errand.run` runs an errand on one.
-/

namespace QueryLoom

/-- What stands at a path. -/
inductive FileNode where
  | directory
  | text (s : String)
  | database (db : Database)
  /-- A file that is neither. -/
  | binary
deriving Repr, Inhabited

/-- A computation that may use variables and files. -/
inductive Errand (α : Type) where
  | done (a : α)
  /-- Asks for the values of variables. -/
  | variables (names : List String) (next : Environment → Errand α)
  /-- Looks at a path. -/
  | look (path : String) (next : Option FileNode → Errand α)
  /-- Opens a file for a database, making it and the directories above it if they are missing. -/
  | access (path : String) (next : Except StoreError FileNode → Errand α)
  | save (path : String) (db : Database) (next : Errand α)

namespace Errand

variable {α β : Type}

/-- One errand after another. -/
def bind : Errand α → (α → Errand β) → Errand β
  | .done a, f => f a
  | .variables names next, f => .variables names fun env => (next env).bind f
  | .look path next, f => .look path fun node => (next node).bind f
  | .access path next, f => .access path fun node => (next node).bind f
  | .save path db next, f => .save path db (next.bind f)

instance : Monad Errand where
  pure := .done
  bind := bind

/-- The values of variables. -/
def valuesOf (names : List String) : Errand Environment := .variables names .done

/-- What stands at a path. -/
def lookAt (path : String) : Errand (Option FileNode) := .look path .done

/-- The file of a database. -/
def openAt (path : String) : Errand (Except StoreError FileNode) := .access path .done

/-- Puts a database into a file. -/
def saveAt (path : String) (db : Database) : Errand Unit := .save path db (.done ())

end Errand

/-! ## Trees of files -/

/-- The names on the way from the root. -/
abbrev Place := List String

/-- The names in a path. -/
def pathNames (path : String) : List String :=
  (path.toList.splitOnP (· = '/')).map String.ofList

/-- The names of a path before the one of the file. -/
def namesAbove (names : List String) : List String :=
  ((names.reverse.dropWhile fun n => n = "" || n = ".").drop 1).reverse

/-- Files by their places, and the directory that relative paths start from. -/
structure FileTree where
  nodes : List (Place × FileNode)
  current : Place
deriving Repr

namespace FileTree

/-- What stands at a place; the root is a directory. -/
def node? (t : FileTree) (p : Place) : Option FileNode :=
  if p.isEmpty then some .directory else t.nodes.lookup p

def isDirectory (t : FileTree) (p : Place) : Bool :=
  match t.node? p with
  | some .directory => true
  | _ => false

/-- Sets what stands at a place. -/
def set (t : FileTree) (p : Place) (n : FileNode) : FileTree :=
  { t with nodes := (p, n) :: t.nodes.filter (·.1 ≠ p) }

/-- The place that a step from a directory leads to. -/
def step (p : Place) (name : String) : Place :=
  if name = "" || name = "." then p else if name = ".." then p.dropLast else p ++ [name]

/-- Follows the names of a path; all but the last must lead to directories. -/
def follow (t : FileTree) (p : Place) : List String → Option Place
  | [] => some p
  | name :: names => if t.isDirectory p then t.follow (step p name) names else none

/-- Where a path starts, and its names. -/
def start (t : FileTree) (path : String) : Place × List String :=
  (if path.toList.head? = some '/' then [] else t.current, pathNames path)

/-- The place of a path, none if the way there is broken. -/
def place? (t : FileTree) (path : String) : Option Place :=
  if path = "" then none
  else
    let s := t.start path
    t.follow s.1 s.2

/-- What stands at a path. -/
def lookAt (t : FileTree) (path : String) : Option FileNode := (t.place? path).bind t.node?

/-- Makes the directories that names lead through, none if a file is in the way. -/
def makeDirectories (t : FileTree) (p : Place) : List String → Option FileTree
  | [] => some t
  | name :: names =>
    let q := step p name
    match t.node? q with
    | none => (t.set q .directory).makeDirectories q names
    | some .directory => t.makeDirectories q names
    | some _ => none

/-- Opens a file for a database. -/
def openAt (t : FileTree) (path : String) : Except StoreError FileNode × FileTree :=
  let s := t.start path
  match t.makeDirectories s.1 (namesAbove s.2) with
  | none => (.error (.io "Not a directory (os error 20)"), t)
  | some t =>
    match t.place? path with
    | none => (.error (.database .cannotOpen), t)
    | some p =>
      match t.node? p with
      | some .directory => (.error (.database .cannotOpen), t)
      | some n => (.ok n, t)
      | none =>
        if s.2.getLast? = some "" then (.error (.database .cannotOpen), t)
        else (.ok (.text ""), t.set p (.text ""))

/-- Puts a database into a file. -/
def saveAt (t : FileTree) (path : String) (db : Database) : FileTree :=
  match t.place? path with
  | none => t
  | some p => t.set p (.database db)

/-- Puts a node at a place, making the directories above it. -/
def add (t : FileTree) (path : String) (n : FileNode) : FileTree :=
  let s := t.start path
  let names := s.2.filter (· ≠ "")
  let t := (t.makeDirectories s.1 names.dropLast).getD t
  t.set (s.1 ++ names) n

end FileTree

/-- Runs an errand on a tree of files. -/
def Errand.run {α : Type} (env : Environment) (t : FileTree) : Errand α → α × FileTree
  | .done a => (a, t)
  | .variables _ next => (next env).run env t
  | .look path next => (next (t.lookAt path)).run env t
  | .access path next =>
    let r := t.openAt path
    (next r.1).run env r.2
  | .save path db next => next.run env (t.saveAt path db)

end QueryLoom
