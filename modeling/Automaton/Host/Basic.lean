import Automaton.Error
import Automaton.Formatter.Basic

/-!
# The host of a command

Commands read and write files and run formatters.  What they need for that is a `Host`: a handful of
operations in some monad, each of which may be refused with a `FileFault`.  Commands are written
once, against any host; `Automaton.FileTree` is a host that keeps all files in memory.

A host also knows two things that do not change during a run: where the user keeps settings, and a
number that no other run has.
-/

namespace Automaton

/-- **Why a file cannot be had.** -/
inductive FileFault where
  /-- There is no such file, or no directory on the way to it. -/
  | missing
  /-- The place is in use. -/
  | busy
  /-- There is something already. -/
  | present
  /-- A file stands where a directory should be. -/
  | notDirectory
  /-- A directory stands where a file should be. -/
  | isDirectory
  /-- A name or a path is too long. -/
  | tooLong
  /-- A path contains the character with number zero. -/
  | nulInPath
  /-- The bytes of the file are no text. -/
  | notText
  /-- Any other reason, in the words of the system. -/
  | other (text : String)
  deriving DecidableEq, Repr

namespace FileFault

/-- The wording of a fault. -/
def message : FileFault → String
  | missing => "No such file or directory (os error 2)"
  | busy => "Device or resource busy (os error 16)"
  | present => "File exists (os error 17)"
  | notDirectory => "Not a directory (os error 20)"
  | isDirectory => "Is a directory (os error 21)"
  | tooLong => "File name too long (os error 36)"
  | nulInPath => "file name contained an unexpected NUL byte"
  | notText => "stream did not contain valid UTF-8"
  | other text => text

/-- A fault as an error. -/
def error (f : FileFault) : Error :=
  .io f.message

end FileFault

/-- **What a command needs** from the machine that it runs on. -/
structure Host (m : Type → Type) where
  /-- The bytes of a file. -/
  read : String → m (Except FileFault ByteArray)
  /-- Whether there is anything at a path. -/
  isPresent : String → m Bool
  /-- Makes an empty file where there was nothing. -/
  create : String → m (Except FileFault Unit)
  /-- Fills a file that has just been made. -/
  write : String → ByteArray → m (Except FileFault Unit)
  /-- Moves a file to another path, in the place of a file that may be there. -/
  rename : String → String → m (Except FileFault Unit)
  /-- Removes a file. -/
  remove : String → m (Except FileFault Unit)
  /-- The directory of the user. -/
  home : Option String
  /-- The number of this run. -/
  run : Nat
  /-- The programs at hand. -/
  tools : Toolbox

namespace Host

variable {m : Type → Type} [Monad m]

/-- **The text of a file.** -/
def readText (h : Host m) (path : String) : m (Except FileFault String) := do
  match ← h.read path with
  | .error f => pure (.error f)
  | .ok bytes => match Utf8.decode bytes.toList with
    | .ok text => pure (.ok text)
    | .error _ => pure (.error .notText)

end Host

end Automaton
