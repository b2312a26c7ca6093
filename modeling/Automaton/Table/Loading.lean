import Automaton.Digest
import Automaton.Host.Basic
import Automaton.Path
import Automaton.Table.Decoding
import Automaton.Table.Validation

/-!
# Loading tables

A table is loaded from a file together with the name of its text.  The extension of the file tells
its format: JSON if it says so, in small or capital letters, and TOML in all other cases.
-/

namespace Automaton

/-- **The format of a file**, by its extension. -/
def Format.ofPath (path : String) : Format :=
  match Path.extension? path with
  | some e => if e.toList.map Char.toLower = ['j', 's', 'o', 'n'] then .json else .toml
  | none => .toml

/-- **A table together with the text that it comes from.** -/
structure Table.Loaded where
  /-- The file. -/
  path : String
  /-- The name of its text. -/
  digest : String
  /-- The table. -/
  table : Table
  deriving DecidableEq

namespace Table

/-- The table of a text from a file. -/
def Loaded.ofText (path text : String) : Except Error Loaded :=
  match Table.ofText (Format.ofPath path) text with
  | .ok table => .ok { path, digest := textDigest text.toUTF8, table }
  | .error f => .error (.undecodable path f.message)

variable {m : Type → Type} [Monad m]

/-- **Loading a table** from a file. -/
def load (h : Host m) (path : String) : m (Except Error Loaded) := do
  match ← h.readText path with
  | .ok text => pure (Loaded.ofText path text)
  | .error f => pure (.error f.error)

/-- The loaded table if it is valid. -/
def Loaded.checked (l : Loaded) : Except Error Loaded :=
  match l.table.validate with
  | .ok () => .ok l
  | .error v => .error v.error

end Table

end Automaton
