import Chancery.CommandLine.Grammar

/-!
# Reading arguments

Arguments are read from left to right. A word descends to the subcommand of that name; everything
that begins with a hyphen is an option of the command reached so far. Help and the version answer
as soon as they are met, and the first error ends the reading.

A value stands in the next argument or is attached: `--option=value`, `-ovalue` or `-o=value`. Only
an attached value may begin with a hyphen, the hyphen alone apart. Switches of one letter may
share a hyphen, and the last letter may be an option with its value.

At one level an option may be given once. A shared option may be given again further down, and
there it counts. Two hyphens end the options, and as no command takes other arguments, nothing
may follow them.

## Main definitions

* `Asked` — what a command line asks for
* `Reader.step` — one argument
* `Asked.ofArguments` — all arguments
-/

namespace Chancery.CommandLine

/-- Why a command line is refused. -/
inductive UsageError where
  | unexpected (argument : String)
  | missingValue (option : String)
  | surplusValue (option : String)
  | repeated (option : String)
  /-- Two options that exclude each other. -/
  | conflict (option other : String)
  | missingOption (option : String)
  | missingCommand
  /-- A variable that stands in for an option is set to what is no text. -/
  | notText
  deriving DecidableEq, Repr

/-- The wording of a refused command line. -/
def UsageError.message : UsageError → String
  | .unexpected argument => "unexpected argument '" ++ argument ++ "' found"
  | .missingValue option => "a value is required for '--" ++ option ++ "' but none was supplied"
  | .surplusValue option => "unexpected value for '--" ++ option ++ "' found; no more were expected"
  | .repeated option => "the argument '--" ++ option ++ "' cannot be used multiple times"
  | .conflict option other =>
    "the argument '--" ++ option ++ "' cannot be used with '--" ++ other ++ "'"
  | .missingOption option => "the required argument '--" ++ option ++ "' was not provided"
  | .missingCommand => "a subcommand is required but none was provided"
  | .notText => "invalid UTF-8 was detected in one or more arguments"

/-- Options with their values; a switch has the empty text. -/
abbrev Given := List (String × String)

/-- What a command line asks for. A path of commands begins with the program. -/
inductive Asked where
  | help (path : List Command)
  /-- The help text of the command that shows those of the subcommands. -/
  | helpOnHelp (path : List Command)
  | version
  /-- To run a command; the options of the innermost level come first. -/
  | run (path : List Command) (given : Given)

/-- Reading in progress. -/
structure Reader where
  /-- The commands above the one reached, outermost first. -/
  above : List Command
  /-- The command reached. -/
  command : Command
  /-- The options of this level. -/
  given : Given
  /-- The options of the levels above, innermost first. -/
  inherited : Given

/-- What follows one argument. -/
inductive Progress where
  | answered (asked : Asked)
  /-- To go on, past the next argument if that was a value. -/
  | more (reader : Reader) (usedNext : Bool)

namespace Reader

/-- The reader before the first argument. -/
def start : Reader := ⟨[], .program, [], []⟩

/-- The path to the command reached. -/
def path (r : Reader) : List Command := r.above ++ [r.command]

/-- The options that may be given here. The version is the program's. -/
def flags (r : Reader) : List Flag :=
  r.command.flags ++ Command.sharedFlags ++ [.help]
    ++ if r.above.isEmpty then [.version] else []

/-- Records an option. -/
def give (r : Reader) (f : Flag) (value : String) : Except UsageError Reader :=
  if r.given.any (·.1 = f.long) then .error (.repeated f.long)
  else if value = "" ∧ !f.isSwitch ∧ !f.mayBeEmpty then .error (.missingValue f.long)
  else .ok { r with given := r.given ++ [(f.long, value)] }

/-- Meets a switch. -/
def flip (r : Reader) (f : Flag) : Except UsageError Progress :=
  if f = .help then .ok (.answered (.help r.path))
  else if f = .version then .ok (.answered .version)
  else (r.give f "").map fun r => .more r false

/-- Whether an argument can be the value of the option before it. -/
def isDetachedValue (s : String) : Bool := s.toList.head? ≠ some '-' || s = "-"

/-- Meets an option whose value may be attached. -/
def meet (r : Reader) (f : Flag) (attached next : Option String) : Except UsageError Progress :=
  match f.isSwitch, attached with
  | true, some _ => .error (.surplusValue f.long)
  | true, none => r.flip f
  | false, some value => (r.give f value).map fun r => .more r false
  | false, none =>
    match next.filter isDetachedValue with
    | some value => (r.give f value).map fun r => .more r true
    | none => .error (.missingValue f.long)

/-- Reads what follows two hyphens. -/
def long (r : Reader) (s : List Char) (next : Option String) : Except UsageError Progress :=
  let name := String.ofList (s.takeWhile (· ≠ '='))
  let attached := match s.dropWhile (· ≠ '=') with
    | [] => none
    | _ :: value => some (String.ofList value)
  match r.flags.find? (·.long = name) with
  | some f => r.meet f attached next
  | none => .error (.unexpected ("--" ++ name))

/-- Reads what follows one hyphen. -/
def letters (r : Reader) (next : Option String) : List Char → Except UsageError Progress
  | [] => .ok (.more r false)
  | c :: rest =>
    match r.flags.find? (·.short = some c) with
    | none => .error (.unexpected (String.ofList ['-', c]))
    | some f =>
      if f.isSwitch then
        match r.flip f with
        | .ok (.more r _) => r.letters next rest
        | other => other
      else
        let value := if rest.head? = some '=' then rest.tail else rest
        r.meet f (if rest.isEmpty then none else some (String.ofList value)) next

/-- Descends to a subcommand. -/
def descend (r : Reader) (c : Command) : Reader :=
  { above := r.path, command := c, given := [], inherited := r.given ++ r.inherited }

/-- What the names after `help` ask for. Among the subcommands is `help` itself, which has none. -/
def askHelp (path : List Command) (c : Command) : List String → Except UsageError Asked
  | [] => .ok (.help (path ++ [c]))
  | name :: rest =>
    match c.find? name with
    | some sub => askHelp (path ++ [c]) sub rest
    | none =>
      if name = Command.helpName ∧ !c.commands.isEmpty ∧ rest.isEmpty then
        .ok (.helpOnHelp (path ++ [c]))
      else .error (.unexpected name)

/-- Reads one argument, with those that follow it in sight. -/
def step (r : Reader) (argument : String) (rest : List String) : Except UsageError Progress :=
  match argument.toList with
  | ['-', '-'] =>
    match rest with
    | [] => .ok (.more r false)
    | next :: _ => .error (.unexpected next)
  | '-' :: '-' :: s => r.long s rest.head?
  | ['-'] => .error (.unexpected argument)
  | '-' :: s => r.letters rest.head? s
  | _ =>
    match r.command.find? argument with
    | some c => .ok (.more (r.descend c) false)
    | none =>
      if argument = Command.helpName ∧ !r.command.commands.isEmpty then
        (askHelp r.above r.command rest).map .answered
      else .error (.unexpected argument)

/-- Ends the reading. -/
def finish (r : Reader) : Except UsageError Asked :=
  if r.command.commands.isEmpty then .ok (.run r.path (r.given ++ r.inherited))
  else .error .missingCommand

/-- Reads the arguments that are left. -/
def read (r : Reader) : List String → Except UsageError Asked
  | [] => r.finish
  | argument :: rest =>
    match r.step argument rest with
    | .error e => .error e
    | .ok (.answered asked) => .ok asked
    | .ok (.more r usedNext) => r.read (if usedNext then rest.tail else rest)
termination_by arguments => arguments.length
decreasing_by
  have h : (if usedNext then rest.tail else rest).length ≤ rest.length := by split <;> simp
  exact Nat.lt_succ_of_le h

end Reader

/-- What a command line asks for. -/
def Asked.ofArguments (arguments : List String) : Except UsageError Asked :=
  Reader.start.read arguments

end Chancery.CommandLine
