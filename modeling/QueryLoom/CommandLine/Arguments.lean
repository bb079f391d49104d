import QueryLoom.CommandLine.Help
import QueryLoom.Entries

/-!
# Arguments

1. `Reading` goes through the arguments of a command from left to right and collects what flags and
   operands are given. The first fault wins.
2. `Order.ofArguments` makes of all arguments an order to the program: to print a text, or to carry
   out a task.
-/

namespace QueryLoom.CommandLine

/-- What the arguments of a command give. -/
structure Given where
  values : Entries String := []
  /-- The operands, the last one first. -/
  operands : List String := []
deriving Repr

/-- What reading arguments comes to. -/
inductive Reading where
  /-- The arguments do not fit the command. -/
  | misused
  | help
  | version
  | given (g : Given)
  /-- Another command follows, with its arguments. -/
  | command (g : Given) (name : String) (rest : List String)
deriving Repr

namespace Reading

/-- Gives a flag a value; it takes one only once. -/
def setFlag? (g : Given) (f : Flag) (value : String) : Option Given :=
  if (Entries.get? g.values f.long).isSome then none
  else if f.value.all fun v => v.2.allows value then
    some { g with values := Entries.put g.values f.long value }
  else none

/-- Whether an argument can be the value of the flag before it. -/
def isValue (a : String) : Bool := a = "-" || a.toList.head? ≠ some '-'

/-- Gives an operand, of which there are no more than the command takes. -/
def addOperand? (c : Command) (g : Given) (a : String) : Option Given :=
  match c.operands[g.operands.length]? with
  | some o => if o.accepts.allows a then some { g with operands := a :: g.operands } else none
  | none => none

/-- What an argument of letters comes to: a text to print, a flag that still needs its value, or
what has been given. -/
inductive Letters where
  | done (r : Reading)
  | wants (g : Given) (f : Flag)
  | given (g : Given)

/-- The letters after a single dash. A letter whose flag takes a value takes the rest, an equals
sign before it left out. -/
def letters (c : Command) (g : Given) : List Char → Letters
  | [] => .given g
  | l :: ls =>
    match c.flags.find? (·.letter = some l) with
    | none => .done .misused
    | some f =>
      if f = helpFlag then .done .help
      else if f = versionFlag then .done .version
      else if f.value.isSome then
        match ls with
        | [] => .wants g f
        | '=' :: value => (setFlag? g f (String.ofList value)).elim (.done .misused) .given
        | value => (setFlag? g f (String.ofList value)).elim (.done .misused) .given
      else
        match setFlag? g f "" with
        | none => .done .misused
        | some g => letters c g ls

/-- A name after two dashes, with its value if one is given. -/
def long (c : Command) (g : Given) (name : String) (value : Option String) : Letters :=
  match c.flags.find? (·.long = name) with
  | none => .done .misused
  | some f =>
    match f.value, value with
    | none, some _ => .done .misused
    | none, none =>
      if f = helpFlag then .done .help
      else if f = versionFlag then .done .version
      else (setFlag? g f "").elim (.done .misused) .given
    | some _, some v => (setFlag? g f v).elim (.done .misused) .given
    | some _, none => .wants g f

/-- What an argument that begins with a dash comes to. -/
def dashed (c : Command) (g : Given) (a : String) : Letters :=
  match a.toList with
  | '-' :: '-' :: cs =>
    let name := String.ofList (cs.takeWhile (· ≠ '='))
    match cs.dropWhile (· ≠ '=') with
    | [] => long c g name none
    | _ :: value => long c g name (some (String.ofList value))
  | _ :: cs => letters c g cs
  | [] => .given g

/-- Reads arguments. After `--` all are operands. -/
def run (c : Command) (takesCommand onlyOperands : Bool) (g : Given) : List String → Reading
  | [] => .given g
  | a :: as =>
    if onlyOperands then
      match addOperand? c g a with
      | none => .misused
      | some g => run c takesCommand true g as
    else if a = "--" then run c takesCommand true g as
    else if !isValue a then
      match dashed c g a with
      | .done r => r
      | .given g => run c takesCommand false g as
      | .wants g f =>
        match as with
        | [] => .misused
        | v :: rest =>
          if isValue v then
            match setFlag? g f v with
            | none => .misused
            | some g => run c takesCommand false g rest
          else .misused
    else if takesCommand then .command g a as
    else
      match addOperand? c g a with
      | none => .misused
      | some g => run c takesCommand false g as

end Reading

/-- What the program can be asked to do. -/
inductive Task where
  | compile (request : String) (dialect : Option Sql.Dialect) (execute : Bool)
  | preview (request : String) (dialect : Option Sql.Dialect)
  | load (data : String)
  | tables
  | samples (table field : String)
deriving DecidableEq, Repr

/-- An order to the program. -/
inductive Order where
  | misused
  | print (text : String)
  | perform (task : Task) (db : Option String)
deriving Repr

namespace Order

/-- The dialect that is given. -/
def dialect? (g : Given) : Option Sql.Dialect :=
  (Entries.get? g.values dialectLong).bind Sql.Dialect.parse?

/-- The task of a command with what it is given, none if an operand is missing. -/
def task? (name : String) (g : Given) : Option Task :=
  match name, g.operands with
  | "compile", [request] =>
    some (.compile request (dialect? g) (Entries.get? g.values executeFlag.long).isSome)
  | "preview", [request] => some (.preview request (dialect? g))
  | "load", [data] => some (.load data)
  | "tables", [] => some .tables
  | "samples", [field, table] => some (.samples table field)
  | _, _ => none

/-- The help on the commands that are named. -/
def helpOn : List String → Order
  | [] => .print programHelp
  | [name] =>
    if name = helpCommand.name then .print helpHelp
    else
      match commands.find? (·.name = name) with
      | some c => .print c.help
      | none => .misused
  | _ => .misused

/-- The order that the arguments of a command give. A database named after the command counts more
than one named before it. -/
def ofCommand (outer : Given) (c : Command) (args : List String) : Order :=
  match Reading.run c false false {} args with
  | .help => .print c.help
  | .given g =>
    let db := (Entries.get? g.values dbFlag.long).or (Entries.get? outer.values dbFlag.long)
    (task? c.name g).elim .misused (.perform · db)
  | .misused | .version | .command _ _ _ => .misused

/-- The order that arguments give. -/
def ofArguments (args : List String) : Order :=
  match Reading.run program true false {} args with
  | .misused | .given _ => .misused
  | .help => .print programHelp
  | .version => .print versionText
  | .command g name rest =>
    if name = helpCommand.name then helpOn rest
    else
      match commands.find? (·.name = name) with
      | some c => ofCommand g c rest
      | none => .misused

end Order

end QueryLoom.CommandLine
