/-!
# Options on a command line

A command line is a list of arguments.  Some of them are *options*, which begin with dashes and may
take a value; others are plain *words*.  A `Level` says which options, how many words and which
commands are understood, and `Level.read` goes through the arguments up to the first command.

## Values

The value of an option follows it, either in the same argument or as the next one.  In the first
case it is judged at once.  In the second case the option stays *pending*, and it is judged when the
next option or word comes along, or at the end (`Reading.settle`).  So an unknown option is reported
before a bad value that stands just before it.

Of an option that is pending, the number of its values is judged first, then whether the option was
given before, and the value itself last.
-/

namespace Automaton.CommandLine

/-- **Why a command line is not obeyed.** -/
inductive Usage where
  /-- The user asks for help. -/
  | help
  /-- The user asks for the version. -/
  | version
  /-- There are no arguments. -/
  | nothing
  /-- There is no command. -/
  | noCommand
  /-- A command is not known. -/
  | unknownCommand
  /-- An option is not known, or there is a word too many. -/
  | unknownArgument
  /-- A word is missing. -/
  | missingWord
  /-- A value is missing or makes no sense. -/
  | badValue
  /-- An option is given twice. -/
  | repeated
  /-- An option has a value but takes none. -/
  | surplusValue
  deriving DecidableEq, Repr

/-- **What an option does.** -/
inductive Effect where
  /-- It turns something on. -/
  | switch
  /-- It takes a value. -/
  | value (accepts : String → Bool)
  /-- It ends the reading. -/
  | stop (reason : Usage)

/-- **An option.** -/
structure Flag where
  /-- The name, which is written behind two dashes. -/
  name : String
  /-- The letter, which is written behind one dash. -/
  letter : Option Char
  /-- What it does. -/
  effect : Effect

/-- Whether an option takes a value. -/
def Flag.takesValue (f : Flag) : Bool :=
  match f.effect with
  | .value _ => true
  | _ => false

/-- **What is understood** between two commands. -/
structure Level where
  /-- The options. -/
  flags : List Flag
  /-- The name of the word that is expected, if one is. -/
  word : Option String
  /-- The commands. -/
  commands : List String

/-- **An option or word that waits to be judged.** -/
structure Pending where
  /-- Its name. -/
  name : String
  /-- The values that it accepts. -/
  accepts : String → Bool
  /-- Its value, if it has one by now. -/
  value : Option String

/-- **What has been read.** -/
structure Reading where
  /-- The options and words with their values. -/
  given : List (String × String)
  /-- What waits to be judged. -/
  pending : Option Pending
  /-- Whether the expected word has been seen. -/
  hasWord : Bool
  /-- Whether there are no more options to come. -/
  ended : Bool

namespace Reading

/-- Nothing has been read. -/
def empty : Reading := ⟨[], none, false, false⟩

/-- Whether an option or word has been given. -/
def has (r : Reading) (name : String) : Bool :=
  (r.given.lookup name).isSome

/-- The value of an option or word. -/
def value? (r : Reading) (name : String) : Option String :=
  r.given.lookup name

/-- Enters a value. -/
def enter (r : Reading) (name : String) (accepts : String → Bool) (v : String) :
    Except Usage Reading :=
  if r.has name then .error .repeated
  else if accepts v then .ok { r with given := r.given ++ [(name, v)] }
  else .error .badValue

/-- **Judging what is pending.** -/
def settle (r : Reading) : Except Usage Reading :=
  match r.pending with
  | none => .ok r
  | some ⟨_, _, none⟩ => .error .badValue
  | some ⟨name, accepts, some v⟩ => { r with pending := none }.enter name accepts v

/-- Whether an option still waits for its value. -/
def awaits (r : Reading) : Bool :=
  match r.pending with
  | some p => p.value.isNone
  | none => false

/-- Takes an option, perhaps with a value in the same argument. -/
def take (r : Reading) (f : Flag) (attached : Option String) : Except Usage Reading := do
  let r ← r.settle
  match f.effect, attached with
  | .switch, _ => r.enter f.name (fun _ => true) ""
  | .value accepts, some v => r.enter f.name accepts v
  | .value accepts, none => pure { r with pending := some ⟨f.name, accepts, none⟩ }
  | .stop reason, _ => .error reason

end Reading

namespace Level

/-- Reads an option by its name. -/
def readName (l : Level) (r : Reading) (body : List Char) : Except Usage Reading :=
  let name := body.takeWhile (· != '=')
  let attached := match body.drop name.length with
    | [] => none
    | _ :: v => some (String.ofList v)
  match l.flags.find? (·.name == String.ofList name) with
  | none => .error .unknownArgument
  | some f =>
    if attached.isSome ∧ ¬ f.takesValue then .error .surplusValue else r.take f attached

/-- The value that follows a letter in the same argument. -/
def attachedTo : List Char → Option String
  | [] => none
  | '=' :: v => some (String.ofList v)
  | v => some (String.ofList v)

/-- Reads options by their letters. -/
def readLetters (l : Level) (r : Reading) : List Char → Except Usage Reading
  | [] => .ok r
  | c :: cs => match l.flags.find? (·.letter == some c) with
    | none => .error .unknownArgument
    | some f =>
      if f.takesValue then r.take f (attachedTo cs)
      else match r.take f none with
        | .error u => .error u
        | .ok r => l.readLetters r cs

/-- What is wrong with a word that nobody expects. -/
def stray (l : Level) (r : Reading) (arg : String) : Usage :=
  if l.commands.isEmpty ∨ (r.ended ∧ l.commands.contains arg) then .unknownArgument
  else .unknownCommand

/-- Reads a word. -/
def readWord (l : Level) (r : Reading) (arg : String) : Except Usage Reading :=
  match l.word with
  | none => .error (l.stray r arg)
  | some name =>
    if r.hasWord then .error (l.stray r arg)
    else do
      let r ← r.settle
      pure { r with pending := some ⟨name, (· != ""), some arg⟩, hasWord := true }

/-- **Reading one argument.** -/
def readOne (l : Level) (r : Reading) (arg : String) : Except Usage Reading :=
  if r.ended then l.readWord r arg
  else match arg.toList with
    | ['-', '-'] => .ok { r with ended := true }
    | '-' :: '-' :: body => l.readName r body
    | '-' :: c :: cs => l.readLetters r (c :: cs)
    | _ => match r.pending with
      | some ⟨name, accepts, none⟩ => .ok { r with pending := some ⟨name, accepts, some arg⟩ }
      | _ => l.readWord r arg

/-- **Reading arguments** up to the first command, which is handed back with all that follows. -/
def read (l : Level) (r : Reading) :
    List String → Except Usage (Reading × Option (String × List String))
  | [] => .ok (r, none)
  | arg :: args =>
    if l.commands.contains arg ∧ !r.ended ∧ !r.awaits then .ok (r, some (arg, args))
    else match l.readOne r arg with
      | .error u => .error u
      | .ok r => l.read r args

end Level

end Automaton.CommandLine
