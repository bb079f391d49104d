import QueryLoom.CommandLine.Command

/-!
# Help texts

`programHelp` and `Command.help` are the texts that explain the program and its commands, in
aligned columns.
-/

namespace QueryLoom.CommandLine

/-- Entries in two columns, two steps in and two apart. -/
def twoColumns (entries : List (String × String)) : String :=
  let width := (entries.map (·.1.length)).foldl max 0
  String.join (entries.map fun e =>
    "  " ++ e.1 ++ String.ofList (List.replicate (width + 2 - e.1.length) ' ') ++ e.2 ++ "\n")

/-- A part of a help text under a title, empty without entries. -/
def helpPart (title : String) (entries : List (String × String)) : String :=
  if entries.isEmpty then "" else "\n" ++ title ++ ":\n" ++ twoColumns entries

/-- A flag as it is written. -/
def Flag.usage (f : Flag) : String :=
  let letter := match f.letter with
    | some c => "-" ++ c.toString ++ ", "
    | none => "    "
  let value := match f.value with
    | some (name, _) => " <" ++ name ++ ">"
    | none => ""
  letter ++ "--" ++ f.long ++ value

/-- An operand as it is written. -/
def Operand.usage (o : Operand) : String := "<" ++ o.name ++ ">"

/-- The flags of a help text. -/
def flagPart (flags : List Flag) : String :=
  helpPart "Options" (flags.map fun f => (f.usage, f.about))

/-- The help text of a command. -/
def Command.help (c : Command) : String :=
  c.about ++ "\n\nUsage: " ++ program.name ++ " " ++ c.name ++ " [OPTIONS]"
    ++ String.join (c.operands.map fun o => " " ++ o.usage) ++ "\n"
    ++ helpPart "Arguments" (c.operands.map fun o => (o.usage, o.about))
    ++ flagPart c.flags

/-- The help text of the program. -/
def programHelp : String :=
  program.about ++ "\n\nUsage: " ++ program.name ++ " [OPTIONS] <COMMAND>\n"
    ++ helpPart "Commands" ((commands ++ [helpCommand]).map fun c => (c.name, c.about))
    ++ flagPart program.flags

/-- The help text of the command that prints help. -/
def helpHelp : String :=
  helpCommand.about ++ "\n\nUsage: " ++ program.name ++ " help [COMMAND]...\n"
    ++ helpPart "Arguments" [("[COMMAND]...", "Print help for the subcommand(s)")]

/-- The version of the program. -/
def versionText : String := program.name ++ " 0.1.0\n"

end QueryLoom.CommandLine
