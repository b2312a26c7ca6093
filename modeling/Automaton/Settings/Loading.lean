import Automaton.Host.Basic
import Automaton.Path
import Automaton.Settings.Basic

/-!
# Finding settings

Settings are read from a file that the user names, or else from the first of the usual places where
there is one.  A file that is there but cannot be read or decoded is an error; the places after it
are not tried.
-/

namespace Automaton.Settings

variable {m : Type → Type} [Monad m]

/-- **Loading settings** from a file. -/
def load (h : Host m) (path : String) : m (Except Error Settings) := do
  match ← h.readText path with
  | .error f =>
    pure (.error (.settings
      ("Failed to read config file " ++ Text.displayed path ++ ": " ++ f.message)))
  | .ok text => match ofText text with
    | .ok s => pure (.ok s)
    | .error _ =>
      pure (.error (.settings ("Failed to parse config file " ++ Text.displayed path)))

/-- The usual places: the working directory, the directory of the user, and the whole system. -/
def places (home : Option String) : List String :=
  ["fsmgen.toml"] ++
  (home.map fun directory => Path.within (Path.within directory ".fsmgen") "config.toml").toList ++
  ["/etc/fsmgen/config.toml"]

/-- Loads settings from the first of some places where there is a file, or takes the default
ones. -/
def search (h : Host m) : List String → m (Except Error Settings)
  | [] => pure (.ok standard)
  | place :: places => do
    if ← h.isPresent place then load h place else search h places

/-- **Finding settings** in the usual places. -/
def find (h : Host m) : m (Except Error Settings) :=
  search h (places h.home)

end Automaton.Settings
