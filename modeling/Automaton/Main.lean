import Automaton.Commands
import Automaton.Filter.Toolbox

/-!
# The program

The program obeys its command line on the files of the system, with the filters of
`Automaton.Filter` as formatters.  It prints what the command prints, reports a failure among the
complaints, and tells by its status how it went: zero for success, one for a failed command, two for
a command line that makes no sense.
-/

namespace Automaton.Main

/-- The reason behind a number of the system. -/
def faultOf (code : UInt32) (text : String) : FileFault :=
  match code.toNat with
  | 2 => .missing
  | 16 => .busy
  | 17 => .present
  | 20 => .notDirectory
  | 21 => .isDirectory
  | 36 => .tooLong
  | n => .other (text ++ " (os error " ++ toString n ++ ")")

/-- The reason behind an error of the system. -/
def reason : IO.Error → FileFault
  | .alreadyExists _ code text | .invalidArgument _ code text | .permissionDenied _ code text
  | .resourceExhausted _ code text | .inappropriateType _ code text | .noSuchThing _ code text
  | .noFileOrDirectory _ code text | .interrupted _ code text | .otherError code text
  | .resourceBusy code text | .resourceVanished code text | .unsupportedOperation code text
  | .hardwareFault code text | .unsatisfiedConstraints code text | .illegalOperation code text
  | .protocolError code text | .timeExpired code text => faultOf code text
  | e => .other e.toString

/-- An operation of the system, with its errors as faults. -/
def attempt {α : Type} (operation : IO α) : IO (Except FileFault α) := do
  try
    pure (.ok (← operation))
  catch e => pure (.error (reason e))

/-- Whether something at a path can be opened. -/
def isPresent (path : String) : IO Bool := do
  try
    let _ ← IO.FS.Handle.mk path .read
    pure true
  catch _ => pure false

/-- **The system as a host.** -/
def host (home : Option String) (run : Nat) : Host IO where
  read path := attempt (IO.FS.readBinFile path)
  isPresent
  create path := attempt do
    let _ ← IO.FS.Handle.mk path .writeNew
  write path contents := attempt (IO.FS.writeBinFile path contents)
  rename source target := attempt (IO.FS.rename source target)
  remove path := attempt (IO.FS.removeFile path)
  home
  run
  tools := Filter.toolbox

/-- How the program is used. -/
def synopsis : String :=
  "Usage: fsmgen [-c FILE] [-v] generate [--target-file FILE] [--dest-file FILE] [-l go|rust] " ++
    "[--no-format] [--stdout]\n" ++
  "       fsmgen [-c FILE] [-v] inspect [--target-file FILE] [-o table|json|dot]\n" ++
  "       fsmgen [-c FILE] [-v] validate FILE\n"

/-- What is said of a command line that is not obeyed, and the status. -/
def explanation : CommandLine.Usage → String × UInt32
  | .help => (synopsis, 0)
  | .version => ("fsmgen\n", 0)
  | .nothing => (synopsis, 2)
  | .noCommand => ("error: a command is required\n", 2)
  | .unknownCommand => ("error: unknown command\n", 2)
  | .unknownArgument => ("error: unexpected argument\n", 2)
  | .missingWord => ("error: a file is required\n", 2)
  | .badValue => ("error: a value is missing or not possible\n", 2)
  | .repeated => ("error: an option is given twice\n", 2)
  | .surplusValue => ("error: an option takes no value\n", 2)

/-- Obeys a command line and tells the status. -/
def run (args : List String) : IO UInt32 := do
  match Invocation.ofArguments args with
  | .error u =>
    let (text, status) := explanation u
    if status = 0 then IO.print text else IO.eprint text
    pure status
  | .ok i =>
    let response ← (host (← IO.getEnv "HOME") (← IO.monoNanosNow)).obey i
    IO.print response.printed
    match response.result with
    | .ok () => pure 0
    | .error e =>
      IO.eprintln ("Error: " ++ e.message)
      pure 1

end Automaton.Main

/-- **The program.** -/
def main (args : List String) : IO UInt32 :=
  Automaton.Main.run args
