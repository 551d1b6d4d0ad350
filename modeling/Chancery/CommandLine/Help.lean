import Chancery.CommandLine.Invocation
import Chancery.Text.Terminal

/-!
# Help texts

A help text says what a command is for, how it is used, which subcommands it has and which options
may be given. Subcommands and options are tables of two columns, of which the first is as wide as
its longest entry. A text in the second column that has several lines stays in that column.

A command's own options and the shared ones are listed together: first by the place each has among
its own kind, then by letter or name.

Titles and all that is typed as it stands are marked for a terminal. The marks are taken out of a
text before it is printed, and what a variable of the environment brings into it loses its controls
with them. Only where a variable insists on marks, and none forbids them, is the text printed as it
is. Variables are taken to be texts here.

## Main definitions

* `Command.usage` — how a command is used
* `Command.helpText` — a marked text
* `helpText`, `helpOnHelpText` — texts as they are printed
-/

namespace Chancery.CommandLine

namespace Flag

/-- The name of an option as it is written. -/
def spelling (f : Flag) : String := Text.bold ("--" ++ f.long)

/-- The sign for the value of an option, if it takes one. -/
def valueSign (f : Flag) : String :=
  match f.valueName with
  | some name => " <" ++ name ++ ">"
  | none => ""

/-- An option in a list: its letter, if it has one, before its name. -/
def entry (f : Flag) : String :=
  (match f.short with
    | some c => Text.bold (String.ofList ['-', c]) ++ ", "
    | none => "    ") ++ f.spelling ++ f.valueSign

/-- What the help text says about an option and the value it has when it is not given. -/
def remarks (env : String → Option String) (f : Flag) : List String :=
  (if f.about = "" then [] else [f.about])
    ++ (if f = .databaseUrl then
        ["[env: " ++ databaseVariable ++ "=" ++ (env databaseVariable).getD "" ++ "]"]
      else [])
    ++ match f.default with
      | some value => ["[default: " ++ value ++ "]"]
      | none => []

/-- What orders options of one place. Lower case comes before upper case. -/
def sortKey (f : Flag) : String :=
  match f.short with
  | some c => String.ofList [c.toLower, if c.isLower then '0' else '1']
  | none => f.long

end Flag

namespace Command

/-- The options in the order in which they are listed. -/
def listedFlags (c : Command) (isProgram : Bool) : List Flag :=
  let placed := c.flags.zipIdx ++ sharedFlags.zipIdx
  let sorted := placed.mergeSort fun (f, i) (g, j) =>
    i < j || (i = j && (f.sortKey < g.sortKey || f.sortKey = g.sortKey))
  sorted.map (·.1) ++ [.help] ++ if isProgram then [.version] else []

/-- The names that a command is called by, one after the other. -/
def calledAs (names : List String) : String := Text.bold (" ".intercalate names)

/-- How the command at the end of a path is used. -/
def usage (path : List Command) (c : Command) : String :=
  " ".intercalate ([calledAs (path.map (·.name)), "[OPTIONS]"]
    ++ (c.flags.filter (·.isRequired)).map (fun f => f.spelling ++ f.valueSign)
    ++ if c.commands.isEmpty then [] else ["<COMMAND>"])

/-- What the command that shows help texts is for. -/
def helpAbout : String := "Print this message or the help of the given subcommand(s)"

/-- The subcommands with what each is for. -/
def subcommandTable (c : Command) : List (String × String) :=
  if c.commands.isEmpty then []
  else c.commands.map (fun sub => (Text.bold sub.name, sub.about))
    ++ [(Text.bold helpName, helpAbout)]

/-- The options with what is said about each. -/
def flagTable (env : String → Option String) (c : Command) (isProgram : Bool) :
    List (String × String) :=
  (c.listedFlags isProgram).map fun f => (f.entry, " ".intercalate (f.remarks env))

/-- A text whose lines after the first begin in a given column. -/
def hanging (column : Nat) (text : String) : String :=
  ("\n" ++ String.ofList (List.replicate column ' ')).intercalate (text.splitOn "\n")

/-- Two columns. Marks take no room. -/
def columns (rows : List (String × String)) : List String :=
  let width := fun (name : String) => (Text.plain name).length
  let widest := (rows.map (width ·.1)).foldl max 0
  rows.map fun (name, about) =>
    "  " ++ name ++ String.ofList (List.replicate (widest - width name) ' ') ++ "  "
      ++ hanging (widest + 4) about

/-- A part of a help text: a title over a table, and nothing where the table is empty. -/
def part (title : String) (rows : List (String × String)) : List String :=
  if rows.isEmpty then [] else ["", Text.heading title] ++ columns rows

/-- A help text: what a command is for, how it is used, and the other parts. -/
def wholeText (about usage : String) (parts : List String) : String :=
  let lines := [about, "", Text.heading "Usage:" ++ " " ++ usage] ++ parts
  "\n".intercalate lines ++ "\n"

/-- The help text of the command at the end of a path. -/
def helpText (env : String → Option String) (path : List Command) (c : Command) : String :=
  wholeText c.about (usage path c)
    (part "Commands:" c.subcommandTable ++ part "Options:" (c.flagTable env (path.length = 1)))

end Command

/-- Whether texts are printed with their marks: one variable has to ask for it, by anything but a
zero, and the other one must not say anything. -/
def keepsMarks (env : String → Option String) : Bool :=
  (env "CLICOLOR_FORCE").any (· ≠ "0") && (env "NO_COLOR").all (· = "")

/-- A marked text as it is printed. -/
def printedText (env : String → Option String) (text : String) : String :=
  if keepsMarks env then text else Text.plain text

/-- The help text of a path of commands. -/
def helpText (env : String → Option String) (path : List Command) : String :=
  printedText env ((path.getLast?.getD .program).helpText env path)

/-- The help text of the command that shows those of the subcommands of a path. -/
def helpOnHelpText (env : String → Option String) (path : List Command) : String :=
  printedText env (Command.wholeText Command.helpAbout
    (Command.calledAs (path.map (·.name) ++ [Command.helpName]) ++ " [COMMAND]...")
    (Command.part "Arguments:" [("[COMMAND]...", "Print help for the subcommand(s)")]))

/-- The line that names the program and its version. -/
def versionText : String := Command.program.name ++ " " ++ Command.version ++ "\n"

end Chancery.CommandLine
