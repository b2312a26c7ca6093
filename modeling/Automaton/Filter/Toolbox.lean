import Automaton.Filter.Shell.Running
import Automaton.Formatter.Basic

/-!
# Filters at hand

A toolbox that needs no processes of its own: what sources are usually filtered with is a function
here.  Every other program counts as missing, and the reasons for which one does not start are those
of a system on which nothing else is installed.
-/

namespace Automaton.Filter

/-- The parts of a path, longer ones of which are refused. -/
def longestPart (path : Chars) : Nat :=
  (Path.partsList path).foldl (fun n part => max n part.length) 0

/-- Whether a path leads through a program as if it were a directory. -/
def leadsThrough (path : Chars) : Bool :=
  installed.any fun k => programDirectories.any fun d =>
    (d ++ '/' :: k.toList ++ ['/']).isPrefixOf path

/-- Why a program does not start. -/
def refusal (program : Chars) : String :=
  if 255 < longestPart program then "File name too long (os error 36)"
  else if leadsThrough program then "Not a directory (os error 20)"
  else if program ≠ [] ∧ Source.ofName program ≠ .missing then "Permission denied (os error 13)"
  else "No such file or directory (os error 2)"

/-- **The toolbox of filters.** -/
def toolbox : Toolbox := fun c input =>
  let program := ofString c.program
  let arguments := c.arguments.map ofString
  if (program :: arguments).any fun cs => cs.contains '\x00' then
    .notStarted "nul byte found in provided data"
  else match runNamed program arguments (ofBytes input) with
    | none => .notStarted (refusal program)
    | some r => .finished r.status (toBytes r.output) (toBytes r.complaints)

end Automaton.Filter
