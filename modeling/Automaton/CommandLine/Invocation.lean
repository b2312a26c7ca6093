import Automaton.CommandLine.Options
import Automaton.Report.Summary
import Automaton.Target.Basic

/-!
# Invocations

An `Invocation` is an understood command line: where to find settings, whether to be talkative, and
one of three tasks.  `Invocation.ofArguments` understands the arguments that follow the name of the
program.

The options `--config` and `--verbose` may stand before the command and after it.  Behind the
command, a file with settings takes the place of one named before it.
-/

namespace Automaton

open CommandLine

/-- **What to do about generating** a source, as far as the command line says. -/
structure GenerateOptions where
  /-- The file with the table. -/
  table : Option String
  /-- The file for the source. -/
  destination : Option String
  /-- The destination language. -/
  target : Option Target
  /-- Whether the source is left unformatted. -/
  unformatted : Bool
  /-- Whether the source is printed instead of written. -/
  printed : Bool
  deriving DecidableEq, Repr

/-- **A task.** -/
inductive Task where
  /-- Generate a source. -/
  | generate (options : GenerateOptions)
  /-- Describe a table. -/
  | inspect (table : Option String) (form : Report.Form)
  /-- Check a table. -/
  | validate (file : String)
  deriving DecidableEq, Repr

/-- **An understood command line.** -/
structure Invocation where
  /-- The file with settings. -/
  settings : Option String
  /-- Whether to log more than usual. -/
  verbose : Bool
  /-- The task. -/
  task : Task
  deriving DecidableEq, Repr

namespace CommandLine

/-! ### What is understood -/

/-- An option whose value is a path. -/
def pathFlag (name : String) (letter : Option Char) : Flag :=
  ⟨name, letter, .value (· != "")⟩

/-- The options of all levels. -/
def commonFlags : List Flag :=
  [pathFlag "config" (some 'c'), ⟨"verbose", some 'v', .switch⟩, ⟨"help", some 'h', .stop .help⟩]

/-- The command that explains others. -/
def helpCommand : String := "help"

/-- Before the command. -/
def rootLevel : Level where
  flags := commonFlags ++ [⟨"version", some 'V', .stop .version⟩]
  word := none
  commands := ["generate", "inspect", "validate", helpCommand]

/-- Behind `generate`. -/
def generateLevel : Level where
  flags := commonFlags ++
    [ pathFlag "target-file" none, pathFlag "dest-file" none,
      ⟨"lang", some 'l', .value fun v => (Target.ofName? v).isSome⟩,
      ⟨"no-format", none, .switch⟩, ⟨"stdout", none, .switch⟩ ]
  word := none
  commands := []

/-- Behind `inspect`. -/
def inspectLevel : Level where
  flags := commonFlags ++
    [ pathFlag "target-file" none,
      ⟨"output", some 'o', .value fun v => (Report.Form.ofName? v).isSome⟩ ]
  word := none
  commands := []

/-- Behind `validate`. -/
def validateLevel : Level where
  flags := commonFlags
  word := some "file"
  commands := []

/-! ### Understanding it -/

/-- Reads the arguments behind a command. -/
def readAll (l : Level) (args : List String) : Except Usage Reading := do
  let (r, _) ← l.read .empty args
  r.settle

/-- The task of `generate`. -/
def generateTask (r : Reading) : Task :=
  .generate
    { table := r.value? "target-file"
      destination := r.value? "dest-file"
      target := (r.value? "lang").bind Target.ofName?
      unformatted := r.has "no-format"
      printed := r.has "stdout" }

/-- The task of `inspect`. -/
def inspectTask (r : Reading) : Task :=
  .inspect (r.value? "target-file") (((r.value? "output").bind Report.Form.ofName?).getD .table)

/-- The options and the task of a command. -/
def readTask (command : String) (args : List String) : Except Usage (Reading × Task) := do
  if command = "generate" then
    let r ← readAll generateLevel args
    pure (r, generateTask r)
  else if command = "inspect" then
    let r ← readAll inspectLevel args
    pure (r, inspectTask r)
  else
    let r ← readAll validateLevel args
    match r.value? "file" with
    | some file => pure (r, .validate file)
    | none => .error .missingWord

/-- What comes of asking for an explanation of commands. -/
def explain : List String → Usage
  | [] => .help
  | [command] => if rootLevel.commands.contains command then .help else .unknownCommand
  | _ => .unknownCommand

end CommandLine

/-- **Understanding a command line**, without the name of the program. -/
def Invocation.ofArguments (args : List String) : Except Usage Invocation := do
  match ← rootLevel.read .empty args with
  | (before, none) =>
    let before ← before.settle
    .error (if before.given.isEmpty then .nothing else .noCommand)
  | (before, some (command, args)) =>
    if command = helpCommand then .error (explain args)
    else
      let (behind, task) ← readTask command args
      let before ← before.settle
      pure
        { settings := behind.value? "config" <|> before.value? "config"
          verbose := behind.has "verbose" || before.has "verbose"
          task }

end Automaton
