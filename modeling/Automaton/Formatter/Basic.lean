import Automaton.Target.Basic
import Automaton.Text.Blank
import Automaton.Text.Utf8

/-!
# Formatting sources

A generated source can be passed through a formatter before it is delivered.  A formatter is a
*command*: a program that reads the source and writes the formatted one.

How programs are run is not decided here.  A `Toolbox` answers, for a command and its input, what
the program does; a formatter only judges the answer (`Formatter.judge`): the program must start, it
must not report failure, and what it writes must be text.
-/

namespace Automaton

/-- **A command**: a program with its arguments. -/
structure Command where
  /-- The program. -/
  program : String
  /-- Its arguments. -/
  arguments : List String
  deriving DecidableEq, Repr

namespace Command

/-- The command that a list of words stands for, program first. -/
def ofWords : List String → Except Error Command
  | [] => .error (.settings "Formatter command is empty")
  | program :: arguments => .ok ⟨program, arguments⟩

/-- The usual formatter of a language. -/
def standard : Target → Command
  | .go => ⟨"gofmt", []⟩
  | .rust => ⟨"rustfmt", ["--edition", "2021", "--emit", "stdout"]⟩

/-- **What a program does** with its input. -/
inductive Outcome where
  /-- It does not start. -/
  | notStarted (reason : String)
  /-- It ends with a status, having written its output and its complaints. -/
  | finished (status : Nat) (output complaints : List UInt8)
  deriving DecidableEq, Repr

end Command

/-- **Programs at hand**: what each command does with each input. -/
abbrev Toolbox := Command → List UInt8 → Command.Outcome

/-- **A formatter.** -/
inductive Formatter where
  /-- Leaves sources as they are. -/
  | none
  /-- Runs a command. -/
  | command (c : Command)
  deriving DecidableEq, Repr

namespace Formatter

/-- The formatted source that a program has produced, or why there is none. -/
def judge (program : String) : Command.Outcome → Except Error String
  | .notStarted reason => .error (.formatter program ("could not start: " ++ reason))
  | .finished status output complaints =>
    if status ≠ 0 then .error (.formatter program (Text.trim (Utf8.decodeLossy complaints)))
    else match Utf8.decode output with
      | .ok text => .ok text
      | .error fault => .error (.formatter program fault.message)

/-- **Formatting** a source. -/
def run (tools : Toolbox) : Formatter → String → Except Error String
  | none, source => .ok source
  | command c, source => judge c.program (tools c source.toUTF8.toList)

@[simp]
theorem run_none (tools : Toolbox) (source : String) : run tools none source = .ok source := rfl

end Formatter

end Automaton
