import QueryLoom.CommandLine.Performance
import QueryLoom.Store.File

/-!
# The program

Runs errands on the files and variables of the system.
-/

namespace QueryLoom

/-- What a file's text stands for. -/
def nodeOfText (s : String) : FileNode :=
  match Database.ofFileText? s with
  | some db => .database db
  | none => .text s

/-- What stands at a path of the system. -/
def lookAtSystem (path : String) : IO (Option FileNode) := do
  try
    return some (nodeOfText (← IO.FS.readFile path))
  catch
    | .noFileOrDirectory .. => return none
    | .inappropriateType .. => return some .directory
    | .invalidArgument .. => return none
    | .userError .. => return some .binary
    | _ => return none

/-- Opens a file of the system for a database. -/
def openInSystem (path : String) : IO (Except StoreError FileNode) := do
  try
    let directory := String.intercalate "/" (namesAbove (pathNames path))
    unless directory.isEmpty do IO.FS.createDirAll directory
  catch e => return .error (.io (toString e))
  match ← lookAtSystem path with
  | some .directory => return .error (.database .cannotOpen)
  | some n => return .ok n
  | none =>
    try
      IO.FS.writeFile path ""
      return .ok (.text "")
    catch _ => return .error (.database .cannotOpen)

/-- Runs an errand on the system. -/
def Errand.perform {α : Type} : Errand α → IO α
  | .done a => return a
  | .variables names next => do
    let values ← names.mapM fun name => return (name, ← IO.getEnv name)
    (next fun name => (values.lookup name).join).perform
  | .look path next => do (next (← lookAtSystem path)).perform
  | .access path next => do (next (← openInSystem path)).perform
  | .save path db next => do
    IO.FS.writeFile path db.fileText
    next.perform

end QueryLoom

open QueryLoom in
/-- Runs the program on the arguments of the command line. -/
def main (args : List String) : IO UInt32 := do
  let ending ← (CommandLine.runProgram args).perform
  IO.print ending.output
  IO.eprint ending.errors
  return ending.code.toUInt32
