import Automaton.States
import Automaton.Text.Displayed

/-!
# What can go wrong

An `Error` is what a command reports in the end: one of ten kinds, with the words that belong to it.
The stages in between have complaints of their own, such as `Table.Violation` or `States.Unknown`,
which say what is wrong in their terms; each of them is turned into an `Error` beside its
definition.

`Error.message` is the whole wording.  `Error.headline` leaves out what the reader of a data format
has to say about a faulty text, because that part depends on the reader.
-/

namespace Automaton

/-- **What a command reports** when it fails. -/
inductive Error where
  /-- The file system refused. -/
  | io (text : String)
  /-- A definition could not be decoded. -/
  | undecodable (file text : String)
  /-- A definition breaks a rule. -/
  | invalid (text : String)
  /-- A definition has no events and thus no states. -/
  | noStates
  /-- Two declared names share a symbol. -/
  | collision (symbol first second : String)
  /-- No valid source can be generated. -/
  | synthesis (text : String)
  /-- The formatter failed. -/
  | formatter (program text : String)
  /-- The settings are at fault. -/
  | settings (text : String)
  /-- A complaint in words of its own. -/
  | custom (text : String)
  /-- A complaint that was passed on from elsewhere. -/
  | foreign (text : String)
  deriving DecidableEq, Repr, Inhabited

namespace Error

/-- **The wording of an error**, without the reader's part. -/
def headline : Error → String
  | io text => "IO error: " ++ text
  | undecodable file _ => "Definition parsing error in " ++ Text.displayed file
  | invalid text => "Invalid definition: " ++ text
  | noStates => "Definition has no events, no states can be derived"
  | collision symbol first second =>
    s!"Symbol collision: '{first}' and '{second}' both map to {symbol}"
  | synthesis text => "Synthesis error: " ++ text
  | formatter program text => s!"Formatter '{program}' failed: {text}"
  | settings text => "Configuration error: " ++ text
  | custom text => text
  | foreign text => text

/-- **The wording of an error.** -/
def message : Error → String
  | undecodable file text => (undecodable file text).headline ++ ": " ++ text
  | e => e.headline

/-- Whether the generator is to blame, rather than its input. -/
def isInternal : Error → Bool
  | synthesis _ => true
  | formatter _ _ => true
  | _ => false

end Error

/-- An unknown state makes synthesis fail. -/
def States.Unknown.error (u : States.Unknown) : Error :=
  .synthesis s!"state '{u.name}' is not part of the derived state set"

/-- The states of a table, or the complaint that it has none. -/
def Table.states (t : Table) : Except Error States :=
  match States.ofTable t with
  | some s => .ok s
  | none => .error .noStates

/-- A number that has to be positive, or the complaint about it. -/
def ensurePositive (n : Int) : Except Error Int :=
  if 0 < n then .ok n else .error (.custom s!"n must be positive, got {n}")

end Automaton
