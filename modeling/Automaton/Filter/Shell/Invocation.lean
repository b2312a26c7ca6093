import Automaton.Filter.Shell.Builtin

/-!
# How a shell is called

A shell gets its script as an argument behind the option `c` or else reads it from its input; what
follows are the parameters with numbers.
-/

namespace Automaton.Filter.Shell

/-- **How a shell is called.** -/
structure Invocation where
  /-- The script; nothing stands for the input. -/
  script : Option Chars
  /-- The name for complaints, if it is not that of the shell. -/
  name : Option Chars
  arguments : List Chars
  options : List Char

namespace Invocation

/-- The options in front, whether one of them is `c`, whether one of them is `s`, and what follows
them. -/
def readOptions : Nat → List Chars → Bool → List Char →
    Except String (Bool × List Char × List Chars)
  | 0, arguments, commands, options => .ok (commands, options, arguments)
  | fuel + 1, arguments, commands, options => match arguments with
    | ['-'] :: arguments | ['-', '-'] :: arguments => .ok (commands, options, arguments)
    | (sign :: c :: cs) :: arguments =>
      if sign = '-' ∨ sign = '+' then
        let letters := (c :: cs).filter fun c => c != 'c' && c != 'l'
        match turnAll (sign == '-') letters arguments options with
        | .ok (options, arguments) =>
          readOptions fuel arguments (commands || (c :: cs).contains 'c') options
        | .error message => .error message
      else .ok (commands, options, (sign :: c :: cs) :: arguments)
    | arguments => .ok (commands, options, arguments)

/-- How a shell with some arguments is called. -/
def ofArguments (arguments : List Chars) : Except String Invocation := do
  let (commands, options, operands) ← readOptions (arguments.length + 1) arguments false []
  if commands then
    match operands with
    | [] => throw "-c requires an argument"
    | script :: operands => pure ⟨some script, operands.head?, operands.drop 1, options⟩
  else if options.contains 's' then pure ⟨none, none, operands, options⟩
  else match operands with
    | [] => pure ⟨none, none, [], options⟩
    | file :: operands => match Source.ofName file with
      | .input => pure ⟨none, some file, operands, options⟩
      | .missing => throw s!"cannot open {String.ofList file}: No such file"
      | _ => pure ⟨some [], some file, operands, options⟩

end Invocation

/-- The variables that a shell begins with, given those that are passed on to it.  Some values are
not taken over from other shells. -/
def firstVariables (environment : List (Chars × Chars)) : List (Chars × Chars) :=
  let own := [("IFS".toList, [' ', '\t', '\n']), ("OPTIND".toList, ['1'])]
  let usual := [("PS1".toList, ['#', ' ']), ("PS2".toList, ['>', ' ']), ("PS4".toList, ['+', ' '])]
  let passed := environment.filter fun (x, _) => (own.lookup x).isNone
  own ++ passed ++ usual.filter fun (x, _) => (environment.lookup x).isNone

/-- A session at its start. -/
def Session.start (name : String) (process : Nat) (i : Invocation)
    (environment : List (Chars × Chars)) (input : Chars) : Session :=
  { name := match i.name with
      | some cs => String.ofList cs
      | none => name,
    process,
    arguments := i.arguments,
    bindings := firstVariables environment,
    exported := environment.map (·.1),
    constants := [],
    functions := [],
    locals := [],
    options := i.options,
    traps := [],
    channels := [(0, .stream 0), (1, .stream 1), (2, .stream 2)],
    streams := #[[input], [], []],
    files := [],
    status := 0,
    substituted := 0,
    flow := .onward,
    loops := 0,
    line := 1,
    place := "" }

/-- What a shell has done by its end. -/
def Session.result (s : Session) : Result :=
  ⟨s.status, s.textIn 1, s.textIn 2, s.textIn 0⟩

end Automaton.Filter.Shell
